import ZZ9000.FwRelease.JsonScan
import ZZ9000.Streams.Memory

/-!
This module contains the verification of the lookup of a name: on every text the scan ends without a
read behind the text, and on JSON texts it finds what the first member of the name holds.
-/

namespace ZZRel

open Formats
open JsonByte

theorem ok_bind {ε α β : Type} (a : α) (f : α → Except ε β)
    : (Except.ok a >>= f) = f a := rfl

section Reads

variable {json : List UInt8} {i : Nat}

theorem readJson_of_lt (h : i < json.length)
    : readJson json i = .ok json[i] := by
  unfold readJson
  rw [List.getElem?_eq_getElem h]

theorem lt_of_drop_eq {c : UInt8} {rest : List UInt8} (h : json.drop i = c :: rest)
    : i < json.length := by
  have length := congrArg List.length h
  rw [List.length_drop, List.length_cons] at length
  omega

theorem readJson_of_drop {c : UInt8} {rest : List UInt8} (h : json.drop i = c :: rest)
    : readJson json i = .ok c := by
  have byte : (json.drop i)[0]? = (c :: rest)[0]? := congrArg (fun text => text[0]?) h
  rw [List.getElem?_drop, Nat.add_zero, List.getElem?_cons_zero] at byte
  unfold readJson
  rw [byte]

theorem drop_add_of_drop {text rest : List UInt8} (h : json.drop i = text ++ rest)
    : json.drop (i + text.length) = rest := by
  rw [← List.drop_drop, h, List.drop_left]

end Reads

section Safety

variable {json : List UInt8}

@[simp] theorem advance_i (s : StringScan)
    : s.advance.i = s.i + 1 := rfl

@[simp] theorem checkEscape_i (s : StringScan) (c : UInt8)
    : (s.checkEscape c).i = s.i := by
  unfold StringScan.checkEscape
  split
  . rfl
  . rfl

@[simp] theorem store_i (s : StringScan) (size : Nat) (c : UInt8)
    : (s.store size c).i = s.i := by
  unfold StringScan.store
  split
  . rfl
  . split
    . rfl
    . rfl

@[simp] theorem terminate_i (s : StringScan) (size : Nat)
    : (s.terminate size).i = s.i := by
  unfold StringScan.terminate
  split
  . rfl
  . split
    . rfl
    . rfl

/-- A string is left behind its closing quote, which is inside of the text. -/
theorem scanStringLoop_safe (size fuel : Nat) (s : StringScan) (h : json.length - s.i < fuel)
    : ∃ result, scanStringLoop json size fuel s = .ok result
        ∧ (result.1 = true → s.i < result.2.i ∧ result.2.i ≤ json.length) := by
  induction fuel generalizing s with
  | zero => omega
  | succ fuel ih =>
    unfold scanStringLoop
    split
    . next inside =>
      rw [readJson_of_lt inside]
      dsimp only [ok_bind]
      split
      . refine ⟨_, rfl, ?_⟩
        intro _
        rw [terminate_i, advance_i]
        omega
      . split
        . split
          . exact ⟨_, rfl, fun ended => absurd ended Bool.false_ne_true⟩
          . next room =>
            rw [advance_i] at room
            have inside' : s.advance.i < json.length := by
              rw [advance_i]
              omega
            rw [readJson_of_lt inside']
            cases ih ((s.advance.advance.checkEscape json[s.advance.i]).store size
                json[s.advance.i]) (by simp; omega) with
            | intro result found =>
              refine ⟨result, found.1, ?_⟩
              intro ended
              have bounds := found.2 ended
              simp at bounds
              omega
        . cases ih (s.advance.store size json[s.i]) (by simp; omega) with
          | intro result found =>
            refine ⟨result, found.1, ?_⟩
            intro ended
            have bounds := found.2 ended
            simp at bounds
            omega
    . exact ⟨_, rfl, fun ended => absurd ended Bool.false_ne_true⟩

theorem scanString_safe (pos size : Nat) (out : Option (Nat → UInt8)) (ok : Bool)
    : ∃ result, scanString json pos out size ok = .ok result
        ∧ (result.1 = true → pos + 1 < result.2.i ∧ result.2.i ≤ json.length) :=
  scanStringLoop_safe size _ _ (by dsimp only; omega)

theorem skipBlanks_safe (fuel j : Nat) (h : json.length - j < fuel)
    : ∃ j', skipBlanks json fuel j = .ok j' := by
  induction fuel generalizing j with
  | zero => omega
  | succ fuel ih =>
    unfold skipBlanks
    split
    . next inside =>
      rw [readJson_of_lt inside]
      dsimp only [ok_bind]
      split
      . exact ih (j + 1) (by omega)
      . exact ⟨j, rfl⟩
    . exact ⟨j, rfl⟩

theorem isJsonByte_safe (j : Nat) (c : UInt8)
    : ∃ found, isJsonByte json j c = .ok found := by
  unfold isJsonByte
  split
  . next inside =>
    rw [readJson_of_lt inside]
    exact ⟨_, rfl⟩
  . exact ⟨_, rfl⟩

theorem jsonValue_safe (j size : Nat) (out : Nat → UInt8) (ok : Bool)
    : ∃ found out', jsonValue json j out size ok = .ok (.done found out') := by
  unfold jsonValue
  cases @skipBlanks_safe json (json.length + 1) j (by omega) with | intro j' skipped =>
  cases @isJsonByte_safe json j' quote with | intro isString read =>
  rw [skipped, ok_bind, read, ok_bind]
  split
  . cases @scanString_safe json j' size (some out) ok with | intro scanned h =>
    rw [h.1]
    exact ⟨_, _, rfl⟩
  . exact ⟨_, _, rfl⟩

/-- A turn reads inside of the text and goes forward, or it is the last one. -/
def Safe (i : Nat) (turn : Except JsonFault JsonTurn) : Prop :=
  (∃ i' depth, turn = .ok (.next i' depth) ∧ i < i') ∨ ∃ found out, turn = .ok (.done found out)

theorem jsonStringTurn_safe (key : List UInt8) (out : Nat → UInt8) (size i : Nat) (depth : Int)
    : Safe i (jsonStringTurn json key out size i depth) := by
  unfold jsonStringTurn
  cases @scanString_safe json i 0 none true with | intro scanned hscanned =>
  cases @skipBlanks_safe json (json.length + 1) scanned.2.i (by omega) with | intro j skipped =>
  cases @isJsonByte_safe json j colon with | intro isKey read =>
  dsimp only
  rw [hscanned.1, ok_bind]
  split
  . next ended =>
    have bounds := hscanned.2 ended
    rw [skipped, ok_bind, read, ok_bind]
    split
    . exact .inl ⟨_, _, rfl, by omega⟩
    . next candidate =>
      simp only [Bool.or_eq_true, decide_eq_true_eq, not_or, not_not] at candidate
      have room : i + 1 + key.length ≤ json.length := by omega
      unfold readJsonBytes
      rw [if_pos room, ok_bind]
      split
      . exact .inl ⟨_, _, rfl, by omega⟩
      . cases @jsonValue_safe json (j + 1) size out scanned.2.ok with | intro found h =>
        cases h with | intro out' h =>
        exact .inr ⟨found, out', h⟩
  . exact .inr ⟨_, _, rfl⟩

theorem jsonTurn_safe (key : List UInt8) (out : Nat → UInt8) (size i : Nat) (depth : Int)
    (h : i < json.length)
    : Safe i (jsonTurn json key out size i depth) := by
  unfold jsonTurn
  rw [readJson_of_lt h, ok_bind]
  split
  . exact .inl ⟨_, _, rfl, by omega⟩
  . split
    . exact .inl ⟨_, _, rfl, by omega⟩
    . split
      . exact jsonStringTurn_safe key out size i depth
      . exact .inl ⟨_, _, rfl, by omega⟩

/-- On any text the scan ends, and no byte behind the text is read. -/
theorem jsonTopStringLoop_safe (key : List UInt8) (out : Nat → UInt8) (size fuel i : Nat)
    (depth : Int) (h : json.length - i < fuel)
    : ∃ result, jsonTopStringLoop json key out size fuel i depth = .ok result := by
  induction fuel generalizing i depth with
  | zero => omega
  | succ fuel ih =>
    unfold jsonTopStringLoop
    split
    . next inside =>
      rcases jsonTurn_safe key out size i depth inside with ⟨i', depth', turn, later⟩ | ⟨_, _, turn⟩
      . rw [turn]
        exact ih i' depth' (by omega)
      . rw [turn]
        exact ⟨_, rfl⟩
    . exact ⟨_, rfl⟩

end Safety

section Units

/-!
The loop over a string takes one byte in a turn, or two if the first is a backslash. What it does
to a string is what it does to these units one after the other.
-/

structure ScanUnit where
  escaped : Bool
  c : UInt8
  plain : escaped = false → c ≠ quote ∧ c ≠ backslash

def ScanUnit.text (u : ScanUnit) : List UInt8 := if u.escaped then [backslash, u.c] else [u.c]

/-- The escapes that are decoded. -/
def ScanUnit.Simple (u : ScanUnit) : Prop :=
  u.escaped = true → u.c = quote ∨ u.c = backslash ∨ u.c = slash

def StringScan.read (s : StringScan) (u : ScanUnit) : StringScan :=
  if u.escaped then s.advance.advance.checkEscape u.c else s.advance

def StringScan.take (size : Nat) (s : StringScan) (u : ScanUnit) : StringScan :=
  (s.read u).store size u.c

variable {json rest : List UInt8} {size : Nat}

theorem take_i (s : StringScan) (u : ScanUnit)
    : (s.take size u).i = s.i + u.text.length := by
  unfold StringScan.take StringScan.read ScanUnit.text
  rw [store_i]
  split
  . rw [checkEscape_i]
    rfl
  . rfl

theorem foldl_take_i (units : List ScanUnit) (s : StringScan)
    : (units.foldl (StringScan.take size) s).i = s.i + (units.flatMap ScanUnit.text).length := by
  induction units generalizing s with
  | nil => rfl
  | cons u units ih =>
    rw [List.foldl_cons, ih, take_i, List.flatMap_cons, List.length_append, Nat.add_assoc]

/-- The loop on a string that ends. -/
theorem scanStringLoop_units (units : List ScanUnit) (fuel : Nat) (s : StringScan)
    (h : json.drop s.i = units.flatMap ScanUnit.text ++ quote :: rest) (hfuel : units.length < fuel)
    : scanStringLoop json size fuel s
      = .ok (true, (units.foldl (StringScan.take size) s).advance.terminate size) := by
  induction units generalizing s fuel with
  | nil =>
    cases fuel with
    | zero => omega
    | succ fuel =>
      unfold scanStringLoop
      rw [if_pos (lt_of_drop_eq h), readJson_of_drop h, ok_bind]
      rfl
  | cons u units ih =>
    cases fuel with
    | zero => omega
    | succ fuel =>
      rw [List.length_cons] at hfuel
      rw [List.flatMap_cons, List.append_assoc] at h
      have later := ih fuel (s.take size u) (by rw [take_i]; exact drop_add_of_drop h) (by omega)
      rw [List.foldl_cons, ← later]
      conv_lhs => unfold scanStringLoop
      unfold StringScan.take StringScan.read
      cases hescaped : u.escaped with
      | true =>
        have text : u.text = [backslash, u.c] := by
          unfold ScanUnit.text
          rw [hescaped]
          rfl
        rw [text] at h
        have second : json.drop s.advance.i
            = u.c :: (units.flatMap ScanUnit.text ++ quote :: rest) :=
          @drop_add_of_drop json s.i [backslash] _ h
        rw [if_pos (lt_of_drop_eq h), readJson_of_drop h, ok_bind]
        dsimp only
        rw [if_neg (by decide), if_pos rfl, if_neg (Nat.not_le.mpr (lt_of_drop_eq second)),
          readJson_of_drop second, ok_bind, if_pos rfl]
      | false =>
        have text : u.text = [u.c] := by
          unfold ScanUnit.text
          rw [hescaped]
          rfl
        rw [text] at h
        have plain := u.plain hescaped
        rw [if_pos (lt_of_drop_eq h), readJson_of_drop h, ok_bind]
        dsimp only
        rw [if_neg plain.1, if_neg plain.2]
        rfl

section Fields

/-! What the units leave in the fields of a scan. -/

variable {s : StringScan} {out : Nat → UInt8}

theorem read_fields (s : StringScan) (u : ScanUnit)
    : (s.read u).n = s.n ∧ (s.read u).out = s.out
      ∧ ((s.read u).ok = true ↔ s.ok = true ∧ u.Simple) := by
  unfold StringScan.read ScanUnit.Simple
  split
  . next escaped =>
    unfold StringScan.checkEscape
    split
    . next other =>
      refine ⟨rfl, rfl, ?_⟩
      constructor
      . intro h
        exact absurd h Bool.false_ne_true
      . intro h
        have simple := h.2 escaped
        rcases simple with h | h | h
        . exact absurd h other.1
        . exact absurd h other.2.1
        . exact absurd h other.2.2
    . next simple =>
      refine ⟨rfl, rfl, ?_⟩
      constructor
      . intro h
        refine ⟨h, fun _ => ?_⟩
        by_contra other
        rw [not_or, not_or] at other
        exact simple other
      . intro h
        exact h.1
  . next plain =>
    exact ⟨rfl, rfl, fun h => ⟨h, fun escaped => absurd escaped plain⟩, fun h => h.1⟩

theorem take_of_none (h : s.out = none) (u : ScanUnit)
    : (s.take size u).out = none ∧ ((s.take size u).ok = true ↔ s.ok = true ∧ u.Simple) := by
  have fields := read_fields s u
  unfold StringScan.take StringScan.store
  rw [fields.2.1, h]
  exact ⟨fields.2.1.trans h, fields.2.2⟩

theorem foldl_take_of_none (units : List ScanUnit) (h : s.out = none)
    : (units.foldl (StringScan.take size) s).out = none
      ∧ ((units.foldl (StringScan.take size) s).ok = true
        ↔ s.ok = true ∧ ∀ u ∈ units, u.Simple) := by
  induction units generalizing s with
  | nil => simp [h]
  | cons u units ih =>
    have first := @take_of_none size s h u
    have later := ih first.1
    rw [List.foldl_cons]
    refine ⟨later.1, ?_⟩
    rw [later.2, first.2, List.forall_mem_cons, and_assoc]

theorem take_of_some (h : s.out = some out) (fits : s.n + 1 < size) (u : ScanUnit)
    : (s.take size u).out = some (Function.update out s.n u.c) ∧ (s.take size u).n = s.n + 1
      ∧ ((s.take size u).ok = true ↔ s.ok = true ∧ u.Simple) := by
  have fields := read_fields s u
  unfold StringScan.take StringScan.store
  rw [fields.2.1, h, fields.1]
  dsimp only
  rw [if_pos fits]
  exact ⟨rfl, rfl, fields.2.2⟩

/-- A text that fits is stored with its last unit, one byte of the buffer is left. -/
theorem foldl_take_of_some (units : List ScanUnit) (h : s.out = some out)
    (fits : s.n + units.length < size)
    : (units.foldl (StringScan.take size) s).out
        = some (Streams.store out s.n (units.map ScanUnit.c))
      ∧ (units.foldl (StringScan.take size) s).n = s.n + units.length
      ∧ ((units.foldl (StringScan.take size) s).ok = true
        ↔ s.ok = true ∧ ∀ u ∈ units, u.Simple) := by
  induction units generalizing s out with
  | nil => simp [h, Streams.store]
  | cons u units ih =>
    rw [List.length_cons] at fits
    have room : s.n + 1 < size := by omega
    have first := take_of_some h room u
    have later := ih first.1 (by rw [first.2.1]; omega)
    rw [first.2.1] at later
    rw [List.foldl_cons]
    refine ⟨later.1, ?_, ?_⟩
    . rw [later.2.1, List.length_cons]
      omega
    . rw [later.2.2, first.2.2, List.forall_mem_cons, and_assoc]

theorem store_of_not_ok (c : UInt8) (h : s.ok = false)
    : (s.store size c).ok = false := by
  unfold StringScan.store
  split
  . exact h
  . split
    . exact h
    . rfl

theorem terminate_of_not_ok (h : s.ok = false)
    : (s.terminate size).ok = false := by
  unfold StringScan.terminate
  split
  . exact h
  . split
    . exact h
    . rfl

theorem take_of_not_ok (u : ScanUnit) (h : s.ok = false)
    : (s.take size u).ok = false := by
  apply store_of_not_ok
  rw [← Bool.not_eq_true, (read_fields s u).2.2, h]
  exact fun ok => absurd ok.1 Bool.false_ne_true

theorem foldl_take_of_not_ok (units : List ScanUnit) (h : s.ok = false)
    : (units.foldl (StringScan.take size) s).ok = false := by
  induction units generalizing s with
  | nil => exact h
  | cons u units ih =>
    rw [List.foldl_cons]
    exact ih (take_of_not_ok u h)

/-- A text that does not fit is refused at its first byte too many, or at its end. -/
theorem terminate_of_not_fits (units : List ScanUnit) (h : s.out = some out)
    (large : size ≤ s.n + units.length)
    : ((units.foldl (StringScan.take size) s).advance.terminate size).ok = false := by
  induction units generalizing s out with
  | nil =>
    rw [List.length_nil, Nat.add_zero] at large
    have stored : s.advance.out = some out := h
    have full : ¬ s.advance.n < size := Nat.not_lt.mpr large
    rw [List.foldl_nil]
    unfold StringScan.terminate
    rw [stored]
    dsimp only
    rw [if_neg full]
  | cons u units ih =>
    rw [List.length_cons] at large
    rw [List.foldl_cons]
    by_cases fits : s.n + 1 < size
    . have first := take_of_some h fits u
      exact ih first.1 (by rw [first.2.1]; omega)
    . apply terminate_of_not_ok
      apply foldl_take_of_not_ok
      have fields := read_fields s u
      unfold StringScan.take StringScan.store
      rw [fields.2.1, h, fields.1]
      dsimp only
      rw [if_neg fits]

end Fields

end Units

section Strings

/-!
Strings of a JSON text, piece by piece. A string that uses other escapes than the three has no
decoded value here.
-/

def decodePiece : JsonPiece → Option UInt8
  | .plain c _ => some c
  | .escape c _ => if c = quote ∨ c = backslash ∨ c = slash then some c else none
  | .unicode _ _ => none

def decodeString : JsonString → Option (List UInt8)
  | [] => some []
  | piece :: pieces =>
    (decodePiece piece).bind fun c => (decodeString pieces).map fun text => c :: text

theorem hexDigit_plain (digit : Fin 16) (upper : Bool)
    : jsonHexDigit digit upper ≠ quote ∧ jsonHexDigit digit upper ≠ backslash := by
  revert digit upper
  decide

def pieceUnits : JsonPiece → List ScanUnit
  | .plain c h => [⟨false, c, fun _ => h.2⟩]
  | .escape c _ => [⟨true, c, fun h => absurd h (by decide)⟩]
  | .unicode digits upper =>
    ⟨true, 117, fun h => absurd h (by decide)⟩
      :: List.ofFn fun i => ⟨false, jsonHexDigit (digits i) (upper i), fun _ => hexDigit_plain _ _⟩

def stringUnits (s : JsonString) : List ScanUnit := s.flatMap pieceUnits

theorem pieceUnits_text (piece : JsonPiece)
    : (pieceUnits piece).flatMap ScanUnit.text = piece.text := by
  cases piece with
  | plain c h => rfl
  | escape c h => rfl
  | unicode digits upper => rfl

theorem stringUnits_text (s : JsonString)
    : (stringUnits s).flatMap ScanUnit.text = s.raw := by
  unfold stringUnits JsonString.raw
  rw [List.flatMap_assoc]
  congr 1
  funext piece
  exact pieceUnits_text piece

/-- A piece is decoded to its one unit, or has a unit that is refused. -/
theorem decodePiece_cases (piece : JsonPiece)
    : (∃ c, decodePiece piece = some c ∧ (∀ u ∈ pieceUnits piece, u.Simple)
        ∧ (pieceUnits piece).map ScanUnit.c = [c])
      ∨ (decodePiece piece = none ∧ ∃ u ∈ pieceUnits piece, ¬ u.Simple) := by
  cases piece with
  | plain c h =>
    left
    refine ⟨c, rfl, ?_, rfl⟩
    intro u mem
    rw [List.mem_singleton.mp mem]
    exact fun escaped => absurd escaped Bool.false_ne_true
  | escape c h =>
    unfold decodePiece
    by_cases simple : c = quote ∨ c = backslash ∨ c = slash
    . left
      refine ⟨c, if_pos simple, ?_, rfl⟩
      intro u mem
      rw [List.mem_singleton.mp mem]
      exact fun _ => simple
    . right
      refine ⟨if_neg simple, _, List.mem_singleton_self _, ?_⟩
      exact fun accepted => simple (accepted rfl)
  | unicode digits upper =>
    right
    refine ⟨rfl, _, List.mem_cons_self, ?_⟩
    intro accepted
    exact absurd (accepted rfl) (by decide)

theorem decodeString_eq_some (s : JsonString) (text : List UInt8)
    : decodeString s = some text
      ↔ (∀ u ∈ stringUnits s, u.Simple) ∧ (stringUnits s).map ScanUnit.c = text := by
  induction s generalizing text with
  | nil =>
    change some [] = some text ↔ _ ∧ [] = text
    rw [Option.some.injEq]
    exact ⟨fun h => ⟨fun u mem => absurd mem List.not_mem_nil, h⟩, fun h => h.2⟩
  | cons piece pieces ih =>
    have units : stringUnits (piece :: pieces) = pieceUnits piece ++ stringUnits pieces :=
      List.flatMap_cons
    unfold decodeString
    rw [units, List.forall_mem_append, List.map_append]
    rcases decodePiece_cases piece with ⟨c, decoded, simple, one⟩ | ⟨refused, u, mem, other⟩
    . rw [decoded, one, Option.bind_some, Option.map_eq_some_iff]
      constructor
      . intro h
        cases h with | intro rest h =>
        have later := (ih rest).mp h.1
        refine ⟨⟨simple, later.1⟩, ?_⟩
        rw [later.2, ← h.2]
        rfl
      . intro h
        refine ⟨_, (ih _).mpr ⟨h.1.2, rfl⟩, ?_⟩
        rw [← h.2]
        rfl
    . rw [refused, Option.bind_none]
      constructor
      . intro h
        cases h
      . intro h
        exact absurd (h.1.1 u mem) other

variable {json rest : List UInt8}

theorem length_le_text (units : List ScanUnit)
    : units.length ≤ (units.flatMap ScanUnit.text).length := by
  induction units with
  | nil => exact Nat.le_refl _
  | cons u units ih =>
    have one : 1 ≤ u.text.length := by
      unfold ScanUnit.text
      split
      . exact Nat.le_succ 1
      . exact Nat.le_refl 1
    rw [List.flatMap_cons, List.length_append, List.length_cons]
    omega

theorem scanString_units (s : JsonString) {pos : Nat} (h : json.drop pos = s.text ++ rest)
    (out : Option (Nat → UInt8)) (size : Nat) (ok : Bool)
    : scanString json pos out size ok
      = .ok (true, ((stringUnits s).foldl (StringScan.take size)
          { i := pos + 1, n := 0, out, ok }).advance.terminate size) := by
  have start : json.drop pos = [quote] ++ (s.raw ++ quote :: rest) := by
    rw [h]
    unfold JsonString.text
    simp
  have raw := drop_add_of_drop start
  have room := congrArg List.length start
  rw [List.length_drop, List.length_append, List.length_append] at room
  have few := length_le_text (stringUnits s)
  rw [stringUnits_text] at few
  apply scanStringLoop_units
  . rw [stringUnits_text]
    exact raw
  . omega

theorem simple_of_no_backslash {units : List ScanUnit}
    (h : backslash ∉ units.flatMap ScanUnit.text)
    : ∀ u ∈ units, u.Simple := by
  intro u mem escaped
  have text : u.text = [backslash, u.c] := by
    unfold ScanUnit.text
    rw [escaped]
    rfl
  have inside : backslash ∈ units.flatMap ScanUnit.text := by
    rw [List.mem_flatMap]
    refine ⟨u, mem, ?_⟩
    rw [text]
    exact List.mem_cons_self
  exact absurd inside h

/-- A name or a value that is passed over. -/
theorem scanString_text (s : JsonString) {pos : Nat} (h : json.drop pos = s.text ++ rest)
    : ∃ scan, scanString json pos none 0 true = .ok (true, scan)
        ∧ scan.i = pos + s.text.length ∧ (backslash ∉ s.raw → scan.ok = true) := by
  have fields := @foldl_take_of_none 0 { i := pos + 1, n := 0, out := none, ok := true }
    (stringUnits s) rfl
  refine ⟨_, scanString_units s h none 0 true, ?_, ?_⟩
  . have length : s.text.length = s.raw.length + 2 := by
      unfold JsonString.text
      simp
    rw [terminate_i, advance_i, foldl_take_i, stringUnits_text, length]
    dsimp only
    omega
  . intro plain
    rw [← stringUnits_text] at plain
    unfold StringScan.terminate StringScan.advance
    dsimp only
    rw [fields.1]
    exact fields.2.mpr ⟨rfl, simple_of_no_backslash plain⟩

/-- The value of the name is stored if it can be decoded and fits. -/
theorem scanString_value (s : JsonString) {pos : Nat} (h : json.drop pos = s.text ++ rest)
    (out : Nat → UInt8) (size : Nat)
    : ∃ scan, scanString json pos (some out) size true = .ok (true, scan)
        ∧ (scan.ok = true ↔ ∃ text, decodeString s = some text ∧ text.length < size)
        ∧ ∀ text, decodeString s = some text → text.length < size
          → scan.out = some (Streams.store out 0 (text ++ [0])) := by
  refine ⟨_, scanString_units s h (some out) size true, ?_⟩
  by_cases fits : (stringUnits s).length < size
  . have room : 0 + (stringUnits s).length < size := by omega
    have fields := @foldl_take_of_some size { i := pos + 1, n := 0, out := some out, ok := true }
      out (stringUnits s) rfl room
    dsimp only at fields
    generalize (stringUnits s).foldl (StringScan.take size) _ = scan at fields ⊢
    unfold StringScan.terminate StringScan.advance
    dsimp only
    rw [fields.1]
    dsimp only
    rw [fields.2.1, if_pos room]
    constructor
    . rw [fields.2.2]
      constructor
      . intro simple
        refine ⟨_, (decodeString_eq_some s _).mpr ⟨simple.2, rfl⟩, ?_⟩
        rw [List.length_map]
        exact fits
      . intro decoded
        cases decoded with | intro text decoded =>
        exact ⟨rfl, ((decodeString_eq_some s text).mp decoded.1).1⟩
    . intro text decoded _
      have same := ((decodeString_eq_some s text).mp decoded).2
      rw [← same, Streams.store_append, List.length_map]
      rfl
  . have large : size ≤ 0 + (stringUnits s).length := by omega
    have refused := @terminate_of_not_fits size
      { i := pos + 1, n := 0, out := some out, ok := true } out (stringUnits s) rfl large
    have tooLong : ∀ text, decodeString s = some text → ¬ text.length < size := by
      intro text decoded
      have same := ((decodeString_eq_some s text).mp decoded).2
      rw [← same, List.length_map]
      exact fits
    rw [refused]
    constructor
    . constructor
      . intro ok
        exact absurd ok Bool.false_ne_true
      . intro decoded
        cases decoded with | intro text decoded =>
        exact absurd decoded.2 (tooLong text decoded.1)
    . intro text decoded short
      exact absurd short (tooLong text decoded)

end Strings

section Runs

variable {json key : List UInt8} {out : Nat → UInt8} {size : Nat}

/-- With any sufficient fuel the loop goes on from here to `result`. -/
def Runs (json key : List UInt8) (out : Nat → UInt8) (size i : Nat) (depth : Int)
    (result : Bool × (Nat → UInt8)) : Prop :=
  ∀ fuel, json.length - i < fuel
    → jsonTopStringLoop json key out size fuel i depth = .ok result

variable {i i' : Nat} {depth depth' : Int} {result : Bool × (Nat → UInt8)} {rest : List UInt8}

theorem runs_end (h : json.length ≤ i)
    : Runs json key out size i depth (false, out) := by
  intro fuel hfuel
  cases fuel with
  | zero => omega
  | succ fuel =>
    unfold jsonTopStringLoop
    rw [if_neg (Nat.not_lt.mpr h)]
    rfl

theorem runs_next (inside : i < json.length)
    (turn : jsonTurn json key out size i depth = .ok (.next i' depth'))
    (later : Runs json key out size i' depth' result)
    : Runs json key out size i depth result := by
  have forward : i < i' := by
    rcases jsonTurn_safe key out size i depth inside with ⟨_, _, same, h⟩ | ⟨_, _, same⟩
    . rw [turn] at same
      cases same
      exact h
    . rw [turn] at same
      cases same
  intro fuel hfuel
  cases fuel with
  | zero => omega
  | succ fuel =>
    unfold jsonTopStringLoop
    rw [if_pos inside, turn]
    exact later fuel (by omega)

theorem runs_done {found : Bool} {out' : Nat → UInt8} (inside : i < json.length)
    (turn : jsonTurn json key out size i depth = .ok (.done found out'))
    : Runs json key out size i depth (found, out') := by
  intro fuel hfuel
  cases fuel with
  | zero => omega
  | succ fuel =>
    unfold jsonTopStringLoop
    rw [if_pos inside, turn]
    rfl

theorem runs_open {c : UInt8} (hc : c = openBrace ∨ c = openBracket)
    (h : json.drop i = c :: rest) (later : Runs json key out size (i + 1) (depth + 1) result)
    : Runs json key out size i depth result := by
  apply runs_next (lt_of_drop_eq h) _ later
  unfold jsonTurn
  rw [readJson_of_drop h, ok_bind, if_pos hc]
  rfl

theorem runs_close {c : UInt8} (hc : c = closeBrace ∨ c = closeBracket)
    (h : json.drop i = c :: rest) (later : Runs json key out size (i + 1) (depth - 1) result)
    : Runs json key out size i depth result := by
  have notOpen : ¬ (c = openBrace ∨ c = openBracket) := by
    rcases hc with brace | bracket
    . rw [brace]; decide
    . rw [bracket]; decide
  apply runs_next (lt_of_drop_eq h) _ later
  unfold jsonTurn
  rw [readJson_of_drop h, ok_bind, if_neg notOpen, if_pos hc]
  rfl

/-- Bytes between strings and levels of nesting. -/
theorem runs_inert (text : List UInt8) (inert : ∀ c ∈ text, isInert c = true)
    (h : json.drop i = text ++ rest)
    (later : Runs json key out size (i + text.length) depth result)
    : Runs json key out size i depth result := by
  induction text generalizing i with
  | nil => exact later
  | cons c text ih =>
    have first := inert c List.mem_cons_self
    unfold isInert at first
    simp only [Bool.and_eq_true, bne_iff_ne] at first
    have drop : json.drop (i + 1) = text ++ rest := @drop_add_of_drop json i [c] _ h
    have next : Runs json key out size (i + 1) depth result := by
      apply ih (fun c mem => inert c (List.mem_cons_of_mem _ mem)) drop
      rw [List.length_cons] at later
      rw [Nat.add_assoc, Nat.add_comm 1]
      exact later
    apply runs_next (lt_of_drop_eq h) _ next
    unfold jsonTurn
    rw [readJson_of_drop h, ok_bind, if_neg, if_neg, if_neg first.1.1.1.1]
    . rfl
    . exact not_or.mpr ⟨first.2, first.1.1.2⟩
    . exact not_or.mpr ⟨first.1.2, first.1.1.1.2⟩

theorem skipBlanks_of_drop (blanks : List UInt8) (blank : ∀ c ∈ blanks, JsonByte.isBlank c = true)
    {c : UInt8} (hc : JsonByte.isBlank c = false) (h : json.drop i = blanks ++ c :: rest)
    (fuel : Nat) (hfuel : blanks.length < fuel)
    : skipBlanks json fuel i = .ok (i + blanks.length) := by
  induction blanks generalizing i fuel with
  | nil =>
    cases fuel with
    | zero => omega
    | succ fuel =>
      unfold skipBlanks
      rw [if_pos (lt_of_drop_eq h), readJson_of_drop h, ok_bind, hc]
      rfl
  | cons b blanks ih =>
    cases fuel with
    | zero => omega
    | succ fuel =>
      rw [List.length_cons] at hfuel ⊢
      have drop : json.drop (i + 1) = blanks ++ c :: rest := @drop_add_of_drop json i [b] _ h
      have later := ih (fun c mem => blank c (List.mem_cons_of_mem _ mem)) drop fuel (by omega)
      unfold skipBlanks
      rw [if_pos (lt_of_drop_eq h), readJson_of_drop h, ok_bind, blank b List.mem_cons_self,
        if_pos rfl, later, Nat.add_assoc, Nat.add_comm 1]

theorem skipJsonBlanks (blanks : JsonBlanks) {c : UInt8} (hc : JsonByte.isBlank c = false)
    (h : json.drop i = blanks.text ++ c :: rest)
    : skipBlanks json (json.length + 1) i = .ok (i + blanks.text.length) := by
  have room := congrArg List.length h
  rw [List.length_drop, List.length_append] at room
  exact skipBlanks_of_drop blanks.text blanks.blank hc h _ (by omega)

theorem isJsonByte_of_drop {c c' : UInt8} (h : json.drop i = c' :: rest)
    : isJsonByte json i c = .ok (c' == c) := by
  unfold isJsonByte
  rw [if_pos (lt_of_drop_eq h), readJson_of_drop h]
  rfl

theorem JsonString.text_length (s : JsonString)
    : s.text.length = s.raw.length + 2 := by
  unfold JsonString.text
  simp

/-- The name is compared only at the first level, and only if a colon comes behind it. -/
theorem jsonTurn_string (s : JsonString) (h : json.drop i = s.text ++ rest)
    : ∃ ok, (backslash ∉ s.raw → ok = true)
        ∧ jsonTurn json key out size i depth = (do
          let j ← skipBlanks json (json.length + 1) (i + s.text.length)
          let isKey ← isJsonByte json j colon
          if isKey = true ∧ depth = 1 ∧ s.raw = key then
            jsonValue json (j + 1) out size ok
          else
            return .next (i + s.text.length) depth) := by
  cases scanString_text s h with | intro scan hscan =>
  have start : json.drop i = [quote] ++ (s.raw ++ quote :: rest) := by
    rw [h]
    unfold JsonString.text
    simp
  have raw := drop_add_of_drop start
  have first : readJson json i = .ok quote := readJson_of_drop start
  have room := congrArg List.length start
  rw [List.length_drop, List.length_append, List.length_append] at room
  have length := JsonString.text_length s
  have inner : scan.i - (i + 1) - 1 = s.raw.length := by
    rw [hscan.2.1, length]
    omega
  refine ⟨scan.ok, hscan.2.2, ?_⟩
  unfold jsonTurn
  rw [first, ok_bind, if_neg (by decide), if_neg (by decide), if_pos rfl]
  unfold jsonStringTurn
  dsimp only
  rw [hscan.1, ok_bind, if_pos rfl, inner, hscan.2.1]
  congr 1
  funext j
  congr 1
  funext isKey
  split
  . next other =>
    rw [if_neg]
    intro same
    simp only [Bool.or_eq_true, Bool.not_eq_true', decide_eq_true_eq] at other
    rcases other with (hkey | hdepth) | hlength
    . rw [same.1] at hkey
      cases hkey
    . exact hdepth same.2.1
    . exact hlength (congrArg List.length same.2.2)
  . next candidate =>
    simp only [Bool.or_eq_true, Bool.not_eq_true', decide_eq_true_eq, not_or, not_not,
      Bool.not_eq_false] at candidate
    have bytes : readJsonBytes json (i + 1) key.length = .ok s.raw := by
      unfold readJsonBytes
      rw [List.length_singleton] at raw
      rw [if_pos (by rw [← candidate.2]; simp at room; omega), raw, ← candidate.2, List.take_left]
    rw [bytes, ok_bind]
    split
    . next other =>
      rw [if_neg]
      exact fun same => other same.2.2
    . next same =>
      rw [if_pos ⟨candidate.1.1, candidate.1.2, not_not.mp same⟩]

/-- What comes behind a value tells it from a name: at the first level no colon does. -/
def Follows (depth : Int) (rest : List UInt8) : Prop :=
  depth ≠ 1 ∨ ∃ (blanks : JsonBlanks) (c : UInt8) (rest' : List UInt8),
    rest = blanks.text ++ c :: rest' ∧ JsonByte.isBlank c = false ∧ c ≠ colon

theorem runs_string (s : JsonString) (h : json.drop i = s.text ++ rest)
    (other : s.raw ≠ key ∨ Follows depth rest)
    (later : Runs json key out size (i + s.text.length) depth result)
    : Runs json key out size i depth result := by
  have inside : i < json.length := @lt_of_drop_eq json i quote _ h
  have drop := drop_add_of_drop h
  cases @jsonTurn_string json key out size i depth rest s h with | intro ok hturn =>
  apply runs_next inside _ later
  rw [hturn.2]
  cases @skipBlanks_safe json (json.length + 1) (i + s.text.length) (by omega) with
  | intro j skipped =>
  cases @isJsonByte_safe json j colon with | intro isKey read =>
  rw [skipped, ok_bind, read, ok_bind, if_neg]
  . rfl
  . intro same
    rcases other with hname | hdepth | ⟨blanks, c, rest', hrest, hblank, hcolon⟩
    . exact hname same.2.2
    . exact hdepth same.2.1
    . rw [hrest] at drop
      have stop := skipJsonBlanks blanks hblank drop
      rw [skipped] at stop
      cases stop
      rw [isJsonByte_of_drop (drop_add_of_drop drop), Except.ok.injEq,
        beq_eq_false_iff_ne.mpr hcolon, same.1] at read
      cases read

end Runs

section Nesting

/-- The scan goes over `text`, if `rest` comes behind it, from one level of nesting to another. -/
def Passes (json key : List UInt8) (out : Nat → UInt8) (size : Nat) (text rest : List UInt8)
    (depth depth' : Int) : Prop :=
  ∀ i result, json.drop i = text ++ rest
    → Runs json key out size (i + text.length) depth' result
    → Runs json key out size i depth result

variable {json key : List UInt8} {out : Nat → UInt8} {size : Nat} {text rest : List UInt8}
  {depth depth' depth'' : Int}

theorem Passes.append {text' : List UInt8}
    (first : Passes json key out size text (text' ++ rest) depth depth')
    (second : Passes json key out size text' rest depth' depth'')
    : Passes json key out size (text ++ text') rest depth depth'' := by
  intro i result h later
  rw [List.append_assoc] at h
  rw [List.length_append, ← Nat.add_assoc] at later
  exact first i result h (second _ result (drop_add_of_drop h) later)

theorem passes_inert (inert : ∀ c ∈ text, isInert c = true)
    : Passes json key out size text rest depth depth := by
  intro i result h later
  exact runs_inert text inert h later

theorem passes_blanks (blanks : JsonBlanks)
    : Passes json key out size blanks.text rest depth depth :=
  passes_inert blanks.inert

theorem passes_comma
    : Passes json key out size [comma] rest depth depth := by
  apply passes_inert
  intro c mem
  rw [List.mem_singleton.mp mem]
  rfl

theorem passes_colon
    : Passes json key out size [colon] rest depth depth := by
  apply passes_inert
  intro c mem
  rw [List.mem_singleton.mp mem]
  rfl

/-- A text in brackets or braces, if the scan passes it on the next level. -/
theorem passes_nested {open_ close : UInt8} (hopen : open_ = openBrace ∨ open_ = openBracket)
    (hclose : close = closeBrace ∨ close = closeBracket)
    (inside : Passes json key out size text ([close] ++ rest) (depth + 1) (depth + 1))
    : Passes json key out size (open_ :: text ++ [close]) rest depth depth := by
  have front : Passes json key out size [open_] (text ++ ([close] ++ rest)) depth (depth + 1) := by
    intro i result h later
    exact runs_open hopen h later
  have back : Passes json key out size [close] rest (depth + 1) depth := by
    intro i result h later
    apply runs_close hclose h
    rw [add_sub_cancel_right]
    exact later
  have whole : Passes json key out size ([open_] ++ text) ([close] ++ rest) depth (depth + 1) :=
    front.append inside
  exact whole.append back

theorem passes_name (name : JsonString) (hdepth : depth ≠ 1 ∨ name.raw ≠ key)
    : Passes json key out size name.text rest depth depth := by
  intro i result h later
  apply runs_string name h _ later
  cases hdepth with
  | inl hdepth => exact .inr (.inl hdepth)
  | inr hname => exact .inl hname

theorem elements_cons_text (before : JsonBlanks) (value : Json) (after : JsonBlanks)
    (elements : JsonElements)
    : (JsonElements.cons before value after elements).text
      = before.text ++ value.text ++ after.text ++ [comma] ++ elements.text := by
  rw [JsonElements.text, List.append_assoc (before.text ++ value.text ++ after.text) [comma]]
  rfl

theorem members_last_text (before : JsonBlanks) (name : JsonString)
    (afterName beforeValue : JsonBlanks) (value : Json) (after : JsonBlanks)
    : (JsonMembers.last before name afterName beforeValue value after).text
      = before.text ++ name.text ++ afterName.text ++ [colon] ++ beforeValue.text ++ value.text
        ++ after.text := by
  rw [JsonMembers.text, List.append_assoc (before.text ++ name.text ++ afterName.text) [colon]]
  rfl

theorem members_cons_text (before : JsonBlanks) (name : JsonString)
    (afterName beforeValue : JsonBlanks) (value : Json) (after : JsonBlanks)
    (members : JsonMembers)
    : (JsonMembers.cons before name afterName beforeValue value after members).text
      = (JsonMembers.last before name afterName beforeValue value after).text ++ [comma]
        ++ members.text := by
  rw [JsonMembers.text, JsonMembers.text, List.append_assoc _ [comma]]
  rfl

/-- A member whose name is not looked for, or one that is nested. -/
theorem passes_member {before : JsonBlanks} {name : JsonString} {afterName beforeValue : JsonBlanks}
    {value : Json} {after : JsonBlanks} (other : depth ≠ 1 ∨ name.raw ≠ key)
    (hvalue : Passes json key out size value.text (after.text ++ rest) depth depth)
    : Passes json key out size
        (JsonMembers.last before name afterName beforeValue value after).text rest depth depth := by
  rw [members_last_text]
  apply Passes.append _ (passes_blanks after)
  apply Passes.append _ hvalue
  apply Passes.append _ (passes_blanks beforeValue)
  apply Passes.append _ passes_colon
  apply Passes.append _ (passes_blanks afterName)
  exact (passes_blanks before).append (passes_name name other)

mutual

/-- The scan comes out of a value on the level on which it goes in. -/
theorem passes_json (v : Json) (rest : List UInt8) (depth : Int) (hdepth : 1 ≤ depth)
    (follows : Follows depth rest)
    : Passes json key out size v.text rest depth depth := by
  cases v with
  | scalar s => exact passes_inert fun c mem => (s.isScalarByte c mem).1
  | string s =>
    intro i result h later
    exact runs_string s h (.inr follows) later
  | emptyArray inside => exact passes_nested (.inr rfl) (.inr rfl) (passes_blanks inside)
  | array elements =>
    apply passes_nested (.inr rfl) (.inr rfl)
    exact passes_elements elements _ (depth + 1) (by omega)
  | emptyObject inside => exact passes_nested (.inl rfl) (.inl rfl) (passes_blanks inside)
  | object members =>
    apply passes_nested (.inl rfl) (.inl rfl)
    exact passes_members members _ (depth + 1) (by omega)

theorem passes_elements (elements : JsonElements) (rest : List UInt8) (depth : Int)
    (hdepth : 2 ≤ depth)
    : Passes json key out size elements.text rest depth depth := by
  have deep : depth ≠ 1 := by omega
  cases elements with
  | last before value after =>
    apply Passes.append _ (passes_blanks after)
    exact (passes_blanks before).append (passes_json value _ depth (by omega) (.inl deep))
  | cons before value after elements =>
    rw [elements_cons_text]
    apply Passes.append _ (passes_elements elements rest depth hdepth)
    apply Passes.append _ passes_comma
    apply Passes.append _ (passes_blanks after)
    exact (passes_blanks before).append (passes_json value _ depth (by omega) (.inl deep))

theorem passes_members (members : JsonMembers) (rest : List UInt8) (depth : Int)
    (hdepth : 2 ≤ depth)
    : Passes json key out size members.text rest depth depth := by
  have deep : depth ≠ 1 := by omega
  cases members with
  | last before name afterName beforeValue value after =>
    exact passes_member (.inl deep) (passes_json value _ depth (by omega) (.inl deep))
  | cons before name afterName beforeValue value after members =>
    rw [members_cons_text]
    apply Passes.append _ (passes_members members rest depth hdepth)
    apply Passes.append _ passes_comma
    exact passes_member (.inl deep) (passes_json value _ depth (by omega) (.inl deep))

end

end Nesting

section Lookup

variable {json key : List UInt8} {out : Nat → UInt8} {size i : Nat} {rest : List UInt8}

/-- What is returned if the name has the value `v`. -/
structure Answers (out : Nat → UInt8) (size : Nat) (v : Json) (result : Bool × (Nat → UInt8))
    : Prop where
  found_iff : result.1 = true ↔ ∃ s text, v = .string s ∧ decodeString s = some text
    ∧ text.length < size
  stored : ∀ s text, v = .string s → decodeString s = some text → text.length < size
    → result.2 = Streams.store out 0 (text ++ [0])

theorem jsonValue_answers (blanks : JsonBlanks) (v : Json)
    (h : json.drop i = blanks.text ++ (v.text ++ rest))
    : ∃ found out', jsonValue json i out size true = .ok (.done found out')
        ∧ Answers out size v (found, out') := by
  cases v.exists_text_eq_cons with | intro c hc =>
  cases hc with | intro tail hc =>
  have start := h
  rw [hc.1, List.cons_append] at start
  have value := drop_add_of_drop h
  have first := drop_add_of_drop start
  unfold jsonValue
  rw [skipJsonBlanks blanks hc.2.1 start, ok_bind, isJsonByte_of_drop first, ok_bind]
  by_cases hquote : c = quote
  . cases hc.2.2 hquote with | intro s hs =>
    rw [hs] at value
    cases scanString_value s value out size with | intro scan hscan =>
    rw [hquote, if_pos (beq_self_eq_true quote), hscan.1, ok_bind]
    refine ⟨_, _, rfl, ?_, ?_⟩
    . dsimp only
      rw [Bool.true_and, hscan.2.1]
      constructor
      . intro decoded
        cases decoded with | intro text decoded =>
        exact ⟨s, text, hs, decoded⟩
      . rintro ⟨s', text, same, decoded⟩
        rw [hs] at same
        cases same
        exact ⟨text, decoded⟩
    . intro s' text same decoded fits
      rw [hs] at same
      cases same
      dsimp only
      rw [hscan.2.2 text decoded fits]
      rfl
  . have noString : ∀ s, v ≠ .string s := by
      intro s same
      rw [same] at hc
      have head := hc.1
      unfold Json.text JsonString.text at head
      cases head
      exact hquote rfl
    rw [if_neg (by rw [beq_iff_eq]; exact hquote)]
    refine ⟨false, out, rfl, ?_, ?_⟩
    . constructor
      . intro found
        exact absurd found Bool.false_ne_true
      . rintro ⟨s, _, same, _⟩
        exact absurd same (noString s)
    . intro s _ same
      exact absurd same (noString s)

/-- The member whose name is looked for. -/
theorem runs_found {before : JsonBlanks} {name : JsonString} {afterName beforeValue : JsonBlanks}
    {value : Json} {after : JsonBlanks} (plain : backslash ∉ key) (same : name.raw = key)
    (h : json.drop i
      = (JsonMembers.last before name afterName beforeValue value after).text ++ rest)
    : ∃ result, Runs json key out size i 1 result ∧ Answers out size value result := by
  rw [members_last_text] at h
  simp only [List.append_assoc] at h
  have atName := drop_add_of_drop h
  have behindName := drop_add_of_drop atName
  have atColon := drop_add_of_drop behindName
  have behindColon := drop_add_of_drop atColon
  cases @jsonTurn_string json key out size (i + before.text.length) 1 _ name atName with
  | intro ok hturn =>
  have hok : ok = true := by
    apply hturn.1
    rw [same]
    exact plain
  cases @jsonValue_answers json out size _ _ beforeValue value behindColon with
  | intro found hvalue =>
  cases hvalue with | intro out' hvalue =>
  refine ⟨(found, out'), ?_, hvalue.2⟩
  apply runs_inert before.text before.inert h
  apply runs_done (@lt_of_drop_eq json _ quote _ atName)
  rw [hturn.2, skipJsonBlanks afterName (by decide) behindName, ok_bind,
    isJsonByte_of_drop atColon, ok_bind, if_pos ⟨beq_self_eq_true colon, rfl, same⟩, hok]
  exact hvalue.1

theorem follows_comma (blanks : JsonBlanks) (rest : List UInt8)
    : Follows 1 (blanks.text ++ ([comma] ++ rest)) :=
  .inr ⟨blanks, comma, rest, rfl, rfl, by decide⟩

theorem follows_closeBrace (blanks : JsonBlanks) (rest : List UInt8)
    : Follows 1 (blanks.text ++ closeBrace :: rest) :=
  .inr ⟨blanks, closeBrace, rest, rfl, rfl, by decide⟩

/-- Without the name the scan goes over the members. -/
theorem passes_topMembers (members : JsonMembers) (hnone : members.lookup key = none)
    : Passes json key out size members.text (closeBrace :: rest) 1 1 := by
  cases members with
  | last before name afterName beforeValue value after =>
    unfold JsonMembers.lookup at hnone
    split at hnone
    . cases hnone
    . next other =>
      exact passes_member (.inr other)
        (passes_json value _ 1 (by omega) (follows_closeBrace after rest))
  | cons before name afterName beforeValue value after members =>
    unfold JsonMembers.lookup at hnone
    split at hnone
    . cases hnone
    . next other =>
      rw [members_cons_text]
      apply Passes.append _ (passes_topMembers members hnone)
      apply Passes.append _ passes_comma
      exact passes_member (.inr other) (passes_json value _ 1 (by omega) (follows_comma after _))

/-- With the name the scan ends at its first member. -/
theorem runs_topMembers (plain : backslash ∉ key) (members : JsonMembers) (i : Nat) {v : Json}
    (hsome : members.lookup key = some v) (h : json.drop i = members.text ++ closeBrace :: rest)
    : ∃ result, Runs json key out size i 1 result ∧ Answers out size v result := by
  cases members with
  | last before name afterName beforeValue value after =>
    unfold JsonMembers.lookup at hsome
    split at hsome
    . next same =>
      cases hsome
      exact runs_found plain same h
    . cases hsome
  | cons before name afterName beforeValue value after members =>
    unfold JsonMembers.lookup at hsome
    rw [members_cons_text] at h
    split at hsome
    . next same =>
      cases hsome
      rw [List.append_assoc, List.append_assoc] at h
      exact runs_found plain same h
    . next other =>
      rw [List.append_assoc] at h
      have front : Passes json key out size
          ((JsonMembers.last before name afterName beforeValue value after).text ++ [comma])
          (members.text ++ closeBrace :: rest) 1 1 := by
        apply Passes.append _ passes_comma
        exact passes_member (.inr other) (passes_json value _ 1 (by omega) (follows_comma after _))
      cases runs_topMembers plain members _ hsome (drop_add_of_drop h) with | intro result later =>
      exact ⟨result, front i result h later.1, later.2⟩

variable {doc : JsonDocument}

/-- The scan comes to the inside of the object on the first level. -/
theorem runs_document (key : List UInt8) (out : Nat → UInt8) (size : Nat) (doc : JsonDocument)
    : ∃ i, doc.text.drop i = doc.inside ++ closeBrace :: doc.after.text
        ∧ ∀ result, Runs doc.text key out size i 1 result
          → Runs doc.text key out size 0 0 result := by
  have start : doc.text.drop 0
      = doc.before.text ++ ([openBrace] ++ (doc.inside ++ closeBrace :: doc.after.text)) := by
    unfold JsonDocument.text
    simp
  have opened := drop_add_of_drop start
  refine ⟨_, drop_add_of_drop opened, ?_⟩
  intro result later
  apply runs_inert doc.before.text doc.before.inert start
  exact runs_open (.inl rfl) opened later

theorem runs_without (hnone : doc.lookup key = none)
    : Runs doc.text key out size 0 0 (false, out) := by
  have pass : Passes doc.text key out size doc.inside (closeBrace :: doc.after.text) 1 1 := by
    unfold JsonDocument.lookup at hnone
    unfold JsonDocument.inside
    cases hmembers : doc.members with
    | inl blanks => exact passes_blanks blanks
    | inr members =>
      rw [hmembers] at hnone
      exact passes_topMembers members hnone
  cases runs_document key out size doc with | intro i hi =>
  have h := hi.1
  have closed := drop_add_of_drop h
  have behind : doc.text.drop (i + doc.inside.length + 1) = doc.after.text ++ [] := by
    rw [List.append_nil]
    exact @drop_add_of_drop doc.text _ [closeBrace] _ closed
  have length := congrArg List.length behind
  rw [List.length_drop, List.append_nil] at length
  apply hi.2
  apply pass i _ h
  apply runs_close (.inl rfl) closed
  apply runs_inert doc.after.text doc.after.inert behind
  apply runs_end
  omega

theorem runs_with (plain : backslash ∉ key) {v : Json} (hsome : doc.lookup key = some v)
    : ∃ result, Runs doc.text key out size 0 0 result ∧ Answers out size v result := by
  unfold JsonDocument.lookup at hsome
  cases hmembers : doc.members with
  | inl blanks =>
    rw [hmembers] at hsome
    cases hsome
  | inr members =>
    rw [hmembers] at hsome
    have inside : doc.inside = members.text := by
      unfold JsonDocument.inside
      rw [hmembers]
      rfl
    cases runs_document key out size doc with | intro i hi =>
    rw [inside] at hi
    cases runs_topMembers plain members i hsome hi.1 with | intro result later =>
    exact ⟨result, hi.2 result later.1, later.2⟩

end Lookup

/--
On any text the scan ends and reads no byte behind the text. On a JSON text with an object at its
top the first member of the name decides: its value has to be a string with no other escapes than
three, and to fit with the zero that ends it, and is then stored.
-/
theorem jsonTopString_correct
    : (∀ json key out size, ∃ result, jsonTopString json key out size = .ok result)
      ∧ ∀ (doc : JsonDocument) (key : List UInt8), backslash ∉ key → ∀ out size,
        ∃ found out', jsonTopString doc.text key out size = .ok (found, out')
          ∧ (found = true ↔ ∃ s text, doc.lookup key = some (.string s)
            ∧ decodeString s = some text ∧ text.length < size)
          ∧ ∀ s text, doc.lookup key = some (.string s) → decodeString s = some text
            → text.length < size → out' = Streams.store out 0 (text ++ [0]) := by
  constructor
  . intro json key out size
    exact jsonTopStringLoop_safe key out size _ 0 0 (by omega)
  . intro doc key plain out size
    cases hlookup : doc.lookup key with
    | none =>
      refine ⟨false, out, runs_without hlookup _ (by omega), ?_, ?_⟩
      . constructor
        . intro found
          exact absurd found Bool.false_ne_true
        . rintro ⟨_, _, found, _⟩
          cases found
      . intro _ _ found
        cases found
    | some v =>
      cases @runs_with key out size doc plain v hlookup with | intro result h =>
      refine ⟨result.1, result.2, h.1 _ (by omega), ?_, ?_⟩
      . simp only [Option.some.injEq]
        exact h.2.found_iff
      . simp only [Option.some.injEq]
        exact h.2.stored

end ZZRel
