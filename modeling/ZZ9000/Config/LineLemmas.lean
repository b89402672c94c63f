import Mathlib.Data.List.TakeWhile
import ZZ9000.Config.Parse

/-!
This module contains the theory of one line of ZZ9000.CFG: which lines reach the branch of a key,
and with which key and value.
-/

namespace ZZCfg

section Lists

variable {p : Char → Bool}

/-- The list is empty or its head fails `p`. -/
def Stops (p : Char → Bool) (l : List Char) : Prop := ∀ c r, l = c :: r → p c = false

theorem stops_nil : Stops p [] := by
  intro c r h
  cases h

theorem stops_cons {c : Char} {l : List Char} (h : p c = false) : Stops p (c :: l) := by
  intro c' r hr
  cases hr
  exact h

theorem Stops.head {c : Char} {l : List Char} (h : Stops p (c :: l)) : p c = false := h c l rfl

theorem stops_dropWhile (l : List Char) : Stops p (l.dropWhile p) := by
  induction l with
  | nil => exact stops_nil
  | cons a l ih =>
    rw [List.dropWhile_cons]
    split
    . exact ih
    . next h => exact stops_cons (by simpa using h)

theorem stops_append {a b : List Char} (ha : Stops p a) (hb : a = [] → Stops p b) :
    Stops p (a ++ b) := by
  cases a with
  | nil => exact hb rfl
  | cons c a => exact stops_cons ha.head

theorem takeWhile_append_stops {a b : List Char} (ha : ∀ c ∈ a, p c = true) (hb : Stops p b) :
    (a ++ b).takeWhile p = a := by
  rw [List.takeWhile_append_of_pos ha]
  cases b with
  | nil => simp
  | cons c b => simp [hb.head]

theorem dropWhile_append_stops {a b : List Char} (ha : ∀ c ∈ a, p c = true) (hb : Stops p b) :
    (a ++ b).dropWhile p = b := by
  rw [List.dropWhile_append_of_pos ha]
  cases b with
  | nil => rfl
  | cons c b => simp [hb.head]

theorem dropWhile_split (p : Char → Bool) (l : List Char) :
    ∃ a, l = a ++ l.dropWhile p ∧ ∀ c ∈ a, p c = true := by
  refine ⟨l.takeWhile p, ?_, ?_⟩
  . rw [List.takeWhile_append_dropWhile]
  . intro c hc
    exact List.mem_takeWhile_imp hc

theorem copyWhile_append {n : Nat} {a b : List Char} (ha : ∀ c ∈ a, p c = true)
    (hlen : a.length ≤ n) (hb : Stops p b) :
    copyWhile p n (a ++ b) = (a, b) := by
  induction a generalizing n with
  | nil =>
    cases n with
    | zero => rfl
    | succ n =>
      cases b with
      | nil => rfl
      | cons c b =>
        rw [List.nil_append]
        unfold copyWhile
        rw [if_neg (by simp [hb.head])]
  | cons c a ih =>
    cases n with
    | zero => simp at hlen
    | succ n =>
      have hc : p c = true := ha c (by simp)
      have := ih (n := n) (fun d hd => ha d (by simp [hd])) (by simpa using hlen)
      rw [List.cons_append]
      unfold copyWhile
      rw [if_pos hc, this]

theorem copyWhile_length (p : Char → Bool) (n : Nat) (l : List Char) :
    (copyWhile p n l).1.length ≤ n := by
  induction n generalizing l with
  | zero => simp [copyWhile]
  | succ n ih =>
    cases l with
    | nil => simp [copyWhile]
    | cons c l =>
      have := ih l
      unfold copyWhile
      split
      . simpa using this
      . simp

theorem copyWhile_split (p : Char → Bool) (n : Nat) (l : List Char) :
    l = (copyWhile p n l).1 ++ (copyWhile p n l).2 ∧ ∀ c ∈ (copyWhile p n l).1, p c = true := by
  induction n generalizing l with
  | zero =>
    unfold copyWhile
    simp
  | succ n ih =>
    cases l with
    | nil => simp [copyWhile]
    | cons c l =>
      unfold copyWhile
      split
      . next hc =>
        have := ih l
        dsimp only
        refine ⟨?_, ?_⟩
        . rw [List.cons_append, ← this.1]
        . intro d hd
          cases List.mem_cons.mp hd with
          | inl h => rw [h, hc]
          | inr h => exact this.2 d h
      . simp

end Lists

section Chars

theorem zzcfgIsSpace_not_comment {c : Char} (h : zzcfgIsSpace c = true) : isComment c = false := by
  unfold zzcfgIsSpace at h
  unfold isComment
  simp only [Bool.or_eq_true, decide_eq_true_eq] at h
  rcases h with (h | h) | h <;> subst h <;> decide

theorem isKeyChar_not_comment {c : Char} (h : isKeyChar c = true) : isComment c = false := by
  unfold isKeyChar at h
  simp only [Bool.and_eq_true, Bool.not_eq_true'] at h
  exact h.1.2

theorem isKeyChar_not_space {c : Char} (h : isKeyChar c = true) : zzcfgIsSpace c = false := by
  unfold isKeyChar at h
  simp only [Bool.and_eq_true, Bool.not_eq_true'] at h
  exact h.2

theorem isValueChar_not_comment {c : Char} (h : isValueChar c = true) : isComment c = false := by
  unfold isValueChar at h
  simp only [Bool.and_eq_true, Bool.not_eq_true'] at h
  exact h.1

theorem isValueChar_not_space {c : Char} (h : isValueChar c = true) : zzcfgIsSpace c = false := by
  unfold isValueChar at h
  simp only [Bool.and_eq_true, Bool.not_eq_true'] at h
  exact h.2

theorem isKeyChar_space {c : Char} (h : zzcfgIsSpace c = true) : isKeyChar c = false := by
  simp [isKeyChar, h]

theorem isValueChar_space {c : Char} (h : zzcfgIsSpace c = true) : isValueChar c = false := by
  simp [isValueChar, h]

theorem isValueChar_comment {c : Char} (h : isComment c = true) : isValueChar c = false := by
  simp [isValueChar, h]

theorem zzcfgIsSpace_comment {c : Char} (h : isComment c = true) : zzcfgIsSpace c = false := by
  cases hs : zzcfgIsSpace c with
  | false => rfl
  | true =>
    rw [zzcfgIsSpace_not_comment hs] at h
    contradiction

end Chars

theorem zzcfgStrEqCi_iff (a b : List Char) :
    zzcfgStrEqCi a b = true ↔ a.map zzcfgLower = b.map zzcfgLower := by
  induction a generalizing b with
  | nil => cases b <;> simp [zzcfgStrEqCi]
  | cons c a ih =>
    cases b with
    | nil => simp [zzcfgStrEqCi]
    | cons d b =>
      unfold zzcfgStrEqCi
      by_cases h : zzcfgLower c = zzcfgLower d
      . simp [h, ih b]
      . simp [h]

def Blank (l : List Char) : Prop := ∀ c ∈ l, zzcfgIsSpace c = true

/-- `line` reads `key = value` followed by `tail`, blanks aside. -/
structure LineShape (line key value tail : List Char) : Prop where
  split : ∃ b0 b1 b2 b3,
    line = b0 ++ (key ++ (b1 ++ '=' :: (b2 ++ (value ++ (b3 ++ tail))))) ∧
    Blank b0 ∧ Blank b1 ∧ Blank b2 ∧ Blank b3
  keyChars : ∀ c ∈ key, isKeyChar c = true
  valueChars : ∀ c ∈ value, isValueChar c = true
  keyNonempty : key ≠ []
  valueNonempty : value ≠ []

/-- A tail that ends the line: nothing, or a comment. -/
def IsTail (tail : List Char) : Prop := ∀ c r, tail = c :: r → isComment c = true

theorem IsTail.stops_content {tail : List Char} (h : IsTail tail) :
    Stops (!isComment ·) tail := by
  intro c r hr
  simp [h c r hr]

theorem IsTail.stops_space {tail : List Char} (h : IsTail tail) : Stops zzcfgIsSpace tail := by
  intro c r hr
  exact zzcfgIsSpace_comment (h c r hr)

theorem IsTail.stops_value {tail : List Char} (h : IsTail tail) : Stops isValueChar tail := by
  intro c r hr
  exact isValueChar_comment (h c r hr)

def poisonIf (b : Bool) (s : ParseState) : ParseState := if b then s.fastRamInvalidate else s

/-- The state after the length check of a line. -/
def afterLength (line : List Char) (s : ParseState) : ParseState :=
  poisonIf (127 < (lineContent line).length && isFastRamLine line) s

def applyAssign (key value : List Char) (s : ParseState) : ParseState :=
  match zzcfgFindKey (cString key) with
  | some key => zzcfgApplyKey key (cString value) s
  | none => s

/-- A line either is dropped, or has the shape of an assignment and takes the branch of its key. -/
theorem zzcfgParseLine_cases (line : List Char) (s : ParseState) :
    zzcfgParseLine line s = poisonIf (isFastRamLine line) (afterLength line s) ∨
    ∃ key value tail, LineShape line key value tail ∧ value.length ≤ valueSize - 1 ∧
      (isFastRamLine line = true →
        IsTail tail ∧ zzcfgStrEqCi (cString key) fastRamKey = true) ∧
      zzcfgParseLine line s = applyAssign key value (afterLength line s) := by
  have hkey := copyWhile_split isKeyChar (keySize - 1) (line.dropWhile zzcfgIsSpace)
  obtain ⟨b0, h0, hb0⟩ := dropWhile_split zzcfgIsSpace line
  unfold zzcfgParseLine
  dsimp only
  generalize copyWhile isKeyChar (keySize - 1) (line.dropWhile zzcfgIsSpace) = kr at hkey ⊢
  obtain ⟨key, rest⟩ := kr
  obtain ⟨hkr, hkc⟩ := hkey
  dsimp only at hkr hkc ⊢
  obtain ⟨b1, h1, hb1⟩ := dropWhile_split zzcfgIsSpace rest
  generalize rest.dropWhile zzcfgIsSpace = rest1 at h1 ⊢
  split
  . left
    rfl
  . next hne =>
    simp only [Bool.or_eq_true, List.isEmpty_iff, decide_eq_true_eq, not_or, ne_eq,
      not_not] at hne
    obtain ⟨hk0, heq⟩ := hne
    obtain ⟨rest2, rfl⟩ : ∃ r, rest1 = '=' :: r := by
      cases rest1 with
      | nil => simp at heq
      | cons c r =>
        simp only [List.head?_cons, Option.some.injEq] at heq
        exact ⟨r, by rw [heq]⟩
    have hvalue := copyWhile_split isValueChar (valueSize - 1) (rest2.dropWhile zzcfgIsSpace)
    have hvalueLen := copyWhile_length isValueChar (valueSize - 1) (rest2.dropWhile zzcfgIsSpace)
    obtain ⟨b2, h2, hb2⟩ := dropWhile_split zzcfgIsSpace rest2
    rw [List.tail_cons]
    generalize copyWhile isValueChar (valueSize - 1) (rest2.dropWhile zzcfgIsSpace) = vr
      at hvalue hvalueLen ⊢
    obtain ⟨value, rest3⟩ := vr
    obtain ⟨hvr, hvc⟩ := hvalue
    dsimp only at hvr hvc ⊢
    obtain ⟨b3, h3, hb3⟩ := dropWhile_split zzcfgIsSpace rest3
    generalize rest3.dropWhile zzcfgIsSpace = tail at h3 ⊢
    split
    . left
      rfl
    . next hv =>
      simp only [Bool.or_eq_true, List.isEmpty_iff, not_or] at hv
      obtain ⟨hv0, hextra⟩ := hv
      split
      . next hfr =>
        left
        simp only [Bool.and_eq_true] at hfr
        unfold poisonIf
        rw [if_pos hfr.1]
        rfl
      . next hfr =>
        right
        refine ⟨key, value, tail, ⟨⟨b0, b1, b2, b3, ?_, hb0, hb1, hb2, hb3⟩, hkc, hvc, hk0, hv0⟩,
          hvalueLen, ?_, rfl⟩
        . rw [← h3, ← hvr, ← h2, ← h1, ← hkr]
          exact h0
        . intro hline
          rw [hline] at hfr hextra
          refine ⟨?_, ?_⟩
          . intro c r hr
            subst hr
            simpa [hasExtraValue] using hextra
          . simpa using hfr

theorem zzcfgParseLine_shape {line key value tail : List Char} (s : ParseState)
    (h : LineShape line key value tail) (htail : IsTail tail) (hkey : key.length ≤ keySize - 1)
    (hvalue : value.length ≤ valueSize - 1)
    (hfr : isFastRamLine line = true → zzcfgStrEqCi (cString key) fastRamKey = true) :
    zzcfgParseLine line s = applyAssign key value (afterLength line s) := by
  obtain ⟨⟨b0, b1, b2, b3, hline, hb0, hb1, hb2, hb3⟩, hkc, hvc, hk0, hv0⟩ := h
  have hb1' : Stops isKeyChar (b1 ++ '=' :: (b2 ++ (value ++ (b3 ++ tail)))) := by
    apply stops_append
    . intro c r hr
      apply isKeyChar_space
      apply hb1
      simp [hr]
    . intro _
      exact stops_cons (by decide)
  have hb3' : Stops isValueChar (b3 ++ tail) := by
    apply stops_append
    . intro c r hr
      apply isValueChar_space
      apply hb3
      simp [hr]
    . intro _
      exact htail.stops_value
  have hkey' : Stops zzcfgIsSpace
      (key ++ (b1 ++ '=' :: (b2 ++ (value ++ (b3 ++ tail))))) := by
    apply stops_append
    . intro c r hr
      apply isKeyChar_not_space
      apply hkc
      simp [hr]
    . intro h
      contradiction
  have hvalue' : Stops zzcfgIsSpace (value ++ (b3 ++ tail)) := by
    apply stops_append
    . intro c r hr
      apply isValueChar_not_space
      apply hvc
      simp [hr]
    . intro h
      contradiction
  have e0 : line.dropWhile zzcfgIsSpace =
      key ++ (b1 ++ '=' :: (b2 ++ (value ++ (b3 ++ tail)))) := by
    rw [hline, dropWhile_append_stops hb0 hkey']
  have e1 : copyWhile isKeyChar (keySize - 1) (line.dropWhile zzcfgIsSpace) =
      (key, b1 ++ '=' :: (b2 ++ (value ++ (b3 ++ tail)))) := by
    rw [e0, copyWhile_append hkc hkey hb1']
  have e2 : (b1 ++ '=' :: (b2 ++ (value ++ (b3 ++ tail)))).dropWhile zzcfgIsSpace =
      '=' :: (b2 ++ (value ++ (b3 ++ tail))) := by
    exact dropWhile_append_stops hb1 (stops_cons (by decide))
  have e3 : copyWhile isValueChar (valueSize - 1)
      ((b2 ++ (value ++ (b3 ++ tail))).dropWhile zzcfgIsSpace) = (value, b3 ++ tail) := by
    rw [dropWhile_append_stops hb2 hvalue', copyWhile_append hvc hvalue hb3']
  have e4 : (b3 ++ tail).dropWhile zzcfgIsSpace = tail := by
    exact dropWhile_append_stops hb3 htail.stops_space
  have hextra : hasExtraValue tail = false := by
    cases tail with
    | nil => rfl
    | cons c r => simp [hasExtraValue, htail c r rfl]
  unfold zzcfgParseLine
  dsimp only
  rw [e1]
  dsimp only
  rw [e2, List.tail_cons, e3]
  dsimp only
  rw [e4, hextra]
  have hk0' : key.isEmpty = false := by simpa using hk0
  have hv0' : value.isEmpty = false := by simpa using hv0
  simp only [hk0', hv0', List.head?_cons, ne_eq, not_true_eq_false, decide_false, Bool.or_self,
    Bool.false_and, Bool.false_eq_true, if_false]
  rw [if_neg]
  . rfl
  . intro h
    simp only [Bool.and_eq_true, Bool.not_eq_true'] at h
    have := hfr h.1
    rw [h.2] at this
    contradiction

end ZZCfg
