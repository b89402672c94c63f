import Mathlib.Tactic.IntervalCases
import ZZ9000.Config.LineLemmas

/-!
This module contains the proof that a malformed Fast RAM line poisons the parsed configuration and
that otherwise the last Fast RAM line decides.
-/

namespace ZZCfg

section Lower

theorem zzcfgLower_cases (c : Char) :
    zzcfgLower c = c ∨ ('a' ≤ zzcfgLower c ∧ zzcfgLower c ≤ 'z') := by
  unfold zzcfgLower
  split
  . next h =>
    right
    simp only [Bool.and_eq_true, decide_eq_true_eq] at h
    have hlo : 65 ≤ c.toNat := h.1
    have hhi : c.toNat ≤ 90 := h.2
    generalize c.toNat = n at hlo hhi
    interval_cases n <;> decide
  . left
    rfl

theorem zzcfgLower_eq_of_not_letter {c k : Char} (h : zzcfgLower c = k)
    (hk : ¬('a' ≤ k ∧ k ≤ 'z')) :
    c = k := by
  cases zzcfgLower_cases c with
  | inl hc => rw [← h, hc]
  | inr hc =>
    rw [h] at hc
    contradiction

theorem isKeyChar_of_lower {c : Char} (h : isKeyChar (zzcfgLower c) = true) :
    isKeyChar c = true := by
  cases zzcfgLower_cases c with
  | inl hc => rwa [hc] at h
  | inr hc =>
    cases hk : isKeyChar c with
    | true => rfl
    | false =>
      exfalso
      have hs : c = '=' ∨ c = '#' ∨ c = ';' ∨ c = ' ' ∨ c = '\t' ∨ c = '\r' := by
        simp only [isKeyChar, isComment, zzcfgIsSpace, Bool.and_eq_false_iff,
          Bool.not_eq_false', Bool.or_eq_true, decide_eq_true_eq, decide_eq_false_iff_not,
          ne_eq, not_not] at hk
        tauto
      rcases hs with h | h | h | h | h | h <;> subst h <;> revert hc <;> decide

theorem isValueChar_of_isKeyChar {c : Char} (h : isKeyChar c = true) : isValueChar c = true := by
  unfold isKeyChar at h
  unfold isValueChar
  simp only [Bool.and_eq_true] at h ⊢
  exact ⟨h.1.2, h.2⟩

theorem isIdentChar_isKeyChar {c : Char} (h : zzcfgIsIdentChar c = true) :
    isKeyChar c = true := by
  cases hk : isKeyChar c with
  | true => rfl
  | false =>
    exfalso
    have hs : c = '=' ∨ c = '#' ∨ c = ';' ∨ c = ' ' ∨ c = '\t' ∨ c = '\r' := by
      simp only [isKeyChar, isComment, zzcfgIsSpace, Bool.and_eq_false_iff,
        Bool.not_eq_false', Bool.or_eq_true, decide_eq_true_eq, decide_eq_false_iff_not,
        ne_eq, not_not] at hk
      tauto
    rcases hs with h | h | h | h | h | h <;> subst h <;> revert h <;> decide

end Lower

/-- The identifier that a line starts with, comments ignored. -/
def firstToken (line : List Char) : List Char :=
  ((lineContent line).dropWhile zzcfgIsSpace).takeWhile zzcfgIsIdentChar

def NamesFastRam (line : List Char) : Prop := (firstToken line).map zzcfgLower = fastRamKey

instance (line : List Char) : Decidable (NamesFastRam line) :=
  inferInstanceAs (Decidable (_ = _))

def switchWords (on : Bool) : List (List Char) :=
  if on then ["on".toList, "1".toList] else ["off".toList, "0".toList]

/-- The line is a well-formed setting of Fast RAM to `on`. -/
def FastRamSets (line : List Char) (on : Bool) : Prop :=
  (lineContent line).length ≤ 127 ∧
  ∃ b0 key b1 b2 value b3,
    lineContent line = b0 ++ (key ++ (b1 ++ '=' :: (b2 ++ (value ++ b3)))) ∧
    Blank b0 ∧ Blank b1 ∧ Blank b2 ∧ Blank b3 ∧
    key.map zzcfgLower = fastRamKey ∧ value.map zzcfgLower ∈ switchWords on

def Malformed (line : List Char) : Prop := NamesFastRam line ∧ ∀ on, ¬FastRamSets line on

theorem zzcfgFirstTokenIs_go_iff (keyword line : List Char)
    (hk : ∀ k ∈ keyword, ∀ c, zzcfgLower c = k → zzcfgIsIdentChar c = true) :
    zzcfgFirstTokenIs.go line keyword = true ↔
      (line.takeWhile zzcfgIsIdentChar).map zzcfgLower = keyword := by
  induction keyword generalizing line with
  | nil =>
    cases line with
    | nil => simp [zzcfgFirstTokenIs.go]
    | cons c line =>
      cases hc : zzcfgIsIdentChar c <;> simp [zzcfgFirstTokenIs.go, hc]
  | cons k keyword ih =>
    cases line with
    | nil => simp [zzcfgFirstTokenIs.go]
    | cons c line =>
      unfold zzcfgFirstTokenIs.go
      by_cases hc : zzcfgLower c = k
      . have hident := hk k (by simp) c hc
        have := ih line (fun k' hk' => hk k' (by simp [hk']))
        simp [hc, hident, this]
      . rw [if_pos hc]
        cases hident : zzcfgIsIdentChar c <;> simp [hident, hc]

theorem fastRamKey_ident : ∀ k ∈ fastRamKey, ∀ c, zzcfgLower c = k →
    zzcfgIsIdentChar c = true := by
  intro k hk c hc
  by_cases hletter : 'a' ≤ k ∧ k ≤ 'z'
  . unfold zzcfgIsIdentChar
    dsimp only
    rw [hc]
    simp [hletter.1, hletter.2]
  . have hck := zzcfgLower_eq_of_not_letter hc hletter
    subst hck
    have : ∀ k ∈ fastRamKey, ¬('a' ≤ k ∧ k ≤ 'z') → zzcfgIsIdentChar k = true := by decide
    exact this c hk hletter

theorem isFastRamLine_iff (line : List Char) : isFastRamLine line = true ↔ NamesFastRam line := by
  unfold isFastRamLine zzcfgFirstTokenIs NamesFastRam firstToken
  exact zzcfgFirstTokenIs_go_iff fastRamKey _ fastRamKey_ident

theorem zzcfgFindKey_congr {a b : List Char} (h : a.map zzcfgLower = b.map zzcfgLower) :
    zzcfgFindKey a = zzcfgFindKey b := by
  unfold zzcfgFindKey
  have : (fun entry : List Char × ZzcfgKey => zzcfgStrEqCi a entry.1) =
      fun entry => zzcfgStrEqCi b entry.1 := by
    funext entry
    rw [Bool.eq_iff_iff, zzcfgStrEqCi_iff, zzcfgStrEqCi_iff, h]
  rw [this]

theorem zzcfgFindKey_fastRam_iff (key : List Char) :
    zzcfgFindKey key = some .fastRam ↔ key.map zzcfgLower = fastRamKey := by
  have hlower : fastRamKey.map zzcfgLower = fastRamKey := by decide
  constructor
  . intro h
    unfold zzcfgFindKey at h
    cases hf : zzcfgKeys.find? fun entry => zzcfgStrEqCi key entry.1 with
    | none =>
      rw [hf] at h
      cases h
    | some entry =>
      rw [hf] at h
      have hentry : entry.2 = .fastRam := by simpa using h
      have hmem := List.mem_of_find?_eq_some hf
      have hname : ∀ entry ∈ zzcfgKeys, entry.2 = .fastRam → entry.1 = fastRamKey := by
        decide +kernel
      have heq := List.find?_some hf
      rw [zzcfgStrEqCi_iff, hname entry hmem hentry, hlower] at heq
      exact heq
  . intro h
    have : zzcfgFindKey fastRamKey = some .fastRam := by decide +kernel
    rw [← this]
    apply zzcfgFindKey_congr
    rw [h, hlower]

section Content

theorem lineContent_append {a : List Char} (ha : ∀ c ∈ a, isComment c = false) (b : List Char) :
    lineContent (a ++ b) = a ++ lineContent b := by
  unfold lineContent
  apply List.takeWhile_append_of_pos
  intro c hc
  simp [ha c hc]

theorem lineContent_cons {c : Char} (hc : isComment c = false) (b : List Char) :
    lineContent (c :: b) = c :: lineContent b := by
  unfold lineContent
  rw [List.takeWhile_cons_of_pos (by simp [hc])]

theorem lineContent_tail {tail : List Char} (h : IsTail tail) : lineContent tail = [] := by
  have := takeWhile_append_stops (a := []) (by simp) h.stops_content
  simpa [lineContent] using this

theorem Blank.not_comment {b : List Char} (h : Blank b) : ∀ c ∈ b, isComment c = false := by
  intro c hc
  exact zzcfgIsSpace_not_comment (h c hc)

variable {line key value tail : List Char}

/-- The content of an assignment, cut in the pieces that the parser sees. -/
theorem LineShape.content (h : LineShape line key value tail) :
    ∃ b0 b1 b2 b3, lineContent line =
        b0 ++ (key ++ (b1 ++ '=' :: (b2 ++ (value ++ (b3 ++ lineContent tail))))) ∧
      Blank b0 ∧ Blank b1 ∧ Blank b2 ∧ Blank b3 := by
  obtain ⟨⟨b0, b1, b2, b3, hline, hb0, hb1, hb2, hb3⟩, hkc, hvc, _, _⟩ := h
  refine ⟨b0, b1, b2, b3, ?_, hb0, hb1, hb2, hb3⟩
  rw [hline, lineContent_append hb0.not_comment,
    lineContent_append (fun c hc => isKeyChar_not_comment (hkc c hc)),
    lineContent_append hb1.not_comment, lineContent_cons (by decide),
    lineContent_append hb2.not_comment,
    lineContent_append (fun c hc => isValueChar_not_comment (hvc c hc)),
    lineContent_append hb3.not_comment]

theorem cString_split (bytes : List Char) :
    ∃ rest, bytes = cString bytes ++ rest ∧ ∀ c r, rest = c :: r → c = '\x00' := by
  refine ⟨bytes.dropWhile (· ≠ '\x00'), ?_, ?_⟩
  . unfold cString
    rw [List.takeWhile_append_dropWhile]
  . intro c r hr
    have := stops_dropWhile (p := (· ≠ '\x00')) bytes c r hr
    simpa using this

theorem cString_eq_self {bytes : List Char} (h : '\x00' ∉ bytes) : cString bytes = bytes := by
  unfold cString
  rw [List.takeWhile_eq_self_iff]
  intro c hc
  simp only [ne_eq, decide_not, Bool.not_eq_eq_eq_not, Bool.not_true, decide_eq_false_iff_not]
  intro h0
  subst h0
  contradiction

theorem mem_fastRamKey_ident {key : List Char} (h : key.map zzcfgLower = fastRamKey) :
    ∀ c ∈ key, zzcfgIsIdentChar c = true := by
  intro c hc
  apply fastRamKey_ident (zzcfgLower c) _ c rfl
  rw [← h]
  exact List.mem_map_of_mem hc

/-- Only a line whose first token is the Fast RAM key reaches its branch. -/
theorem LineShape.names (h : LineShape line key value tail)
    (hkey : (cString key).map zzcfgLower = fastRamKey) :
    NamesFastRam line := by
  obtain ⟨b0, b1, b2, b3, hcontent, hb0, hb1, hb2, hb3⟩ := h.content
  obtain ⟨rest, hrest, hnul⟩ := cString_split key
  unfold NamesFastRam firstToken
  rw [hcontent]
  rw [dropWhile_append_stops hb0]
  . rw [hrest, List.append_assoc]
    rw [takeWhile_append_stops (mem_fastRamKey_ident hkey)]
    . exact hkey
    . apply stops_append
      . intro c r hr
        rw [hnul c r hr]
        decide
      . intro _
        apply stops_append
        . intro c r hr
          have hc : zzcfgIsSpace c = true := by
            apply hb1
            simp [hr]
          cases hid : zzcfgIsIdentChar c with
          | false => rfl
          | true =>
            rw [isKeyChar_not_space (isIdentChar_isKeyChar hid)] at hc
            contradiction
        . intro _
          exact stops_cons (by decide)
  . apply stops_append
    . intro c r hr
      apply isKeyChar_not_space
      apply h.keyChars
      simp [hr]
    . intro h0
      exact absurd h0 h.keyNonempty

end Content

/-- The Fast RAM fields of the record. -/
structure FastRamFields where
  fastRam : Bool
  present : Bool
  invalid : Bool
deriving DecidableEq

def ZzcfgValues.fastRamFields (v : ZzcfgValues) : FastRamFields :=
  ⟨v.fastRam, v.fastRamPresent, v.fastRamInvalid⟩

def FastRamFields.poison : FastRamFields := ⟨false, false, true⟩

/-- What a well-formed line does: a record that is invalid stays as it is. -/
def FastRamFields.assign (f : FastRamFields) (on : Bool) : FastRamFields :=
  if f.invalid then f else { f with fastRam := on, present := true }

@[simp]
theorem fastRamInvalidate_fields (s : ParseState) :
    s.fastRamInvalidate.values.fastRamFields = .poison := rfl

@[simp]
theorem setLegacy_fields (s : ParseState) (legacy : LegacyKeys) :
    (s.setLegacy legacy).values.fastRamFields = s.values.fastRamFields := rfl

theorem FastRamFields.assign_poison (on : Bool) : FastRamFields.poison.assign on = .poison := rfl

theorem zzcfgAudioSceneKey_fields (v : ZzcfgValues) (scene : Fin 8) (field : Fin 16)
    (value : List Char) :
    (zzcfgAudioSceneKey v scene field value).fastRamFields = v.fastRamFields := by
  unfold zzcfgAudioSceneKey
  split <;> rfl

theorem zzcfgApplyKey_frame {key : ZzcfgKey} (hkey : key ≠ .fastRam) (value : List Char)
    (s : ParseState) :
    (zzcfgApplyKey key value s).values.fastRamFields = s.values.fastRamFields := by
  unfold zzcfgApplyKey
  cases key with
  | fastRam => contradiction
  | audioScene scene field => exact zzcfgAudioSceneKey_fields _ scene field value
  | _ => dsimp only; repeat' (first | rfl | split)

theorem zzcfgApplyKey_fastRam (value : List Char) (s : ParseState) :
    (zzcfgApplyKey .fastRam value s).values.fastRamFields =
      match zzcfgParseSwitch value with
      | some on => s.values.fastRamFields.assign on
      | none => .poison := by
  unfold zzcfgApplyKey
  dsimp only
  cases zzcfgParseSwitch value with
  | none => rfl
  | some on =>
    have hinvalid : s.values.fastRamFields.invalid = s.values.fastRamInvalid := rfl
    dsimp only
    unfold FastRamFields.assign
    rw [hinvalid]
    split <;> rfl

theorem applyAssign_poison {key value : List Char} {s : ParseState}
    (h : s.values.fastRamFields = .poison) :
    (applyAssign key value s).values.fastRamFields = .poison := by
  unfold applyAssign
  split
  . next k _ =>
    by_cases hk : k = .fastRam
    . rw [hk, zzcfgApplyKey_fastRam, h]
      split
      . rw [FastRamFields.assign_poison]
      . rfl
    . rw [zzcfgApplyKey_frame hk, h]
  . exact h

theorem poisonIf_poison {b : Bool} {s : ParseState} (h : s.values.fastRamFields = .poison) :
    (poisonIf b s).values.fastRamFields = .poison := by
  unfold poisonIf
  split
  . rfl
  . exact h

theorem zzcfgParseLine_poison {line : List Char} {s : ParseState}
    (h : s.values.fastRamFields = .poison) :
    (zzcfgParseLine line s).values.fastRamFields = .poison := by
  have hlen : (afterLength line s).values.fastRamFields = .poison := poisonIf_poison h
  cases zzcfgParseLine_cases line s with
  | inl hdrop =>
    rw [hdrop]
    exact poisonIf_poison hlen
  | inr hshape =>
    obtain ⟨key, value, tail, _, _, _, heq⟩ := hshape
    rw [heq]
    exact applyAssign_poison hlen

/-- A line that does not name Fast RAM leaves its fields alone. -/
theorem zzcfgParseLine_other {line : List Char} (h : ¬NamesFastRam line) (s : ParseState) :
    (zzcfgParseLine line s).values.fastRamFields = s.values.fastRamFields := by
  have hline : isFastRamLine line = false := by
    rw [← isFastRamLine_iff] at h
    simpa using h
  have hlen : afterLength line s = s := by
    unfold afterLength poisonIf
    rw [hline, Bool.and_false, if_neg (by simp)]
  cases zzcfgParseLine_cases line s with
  | inl hdrop =>
    rw [hdrop, hlen, hline]
    rfl
  | inr hshape =>
    obtain ⟨key, value, tail, hshape, _, _, heq⟩ := hshape
    rw [heq, hlen]
    unfold applyAssign
    split
    . next k hk =>
      apply zzcfgApplyKey_frame
      intro hfast
      subst hfast
      rw [zzcfgFindKey_fastRam_iff] at hk
      exact h (hshape.names hk)
    . rfl

theorem zzcfgParseSwitch_iff (value : List Char) (on : Bool) :
    zzcfgParseSwitch value = some on ↔ value.map zzcfgLower ∈ switchWords on := by
  have hon : ("on".toList).map zzcfgLower = "on".toList := by decide
  have h1 : ("1".toList).map zzcfgLower = "1".toList := by decide
  have hoff : ("off".toList).map zzcfgLower = "off".toList := by decide
  have h0 : ("0".toList).map zzcfgLower = "0".toList := by decide
  unfold zzcfgParseSwitch switchWords
  simp only [Bool.or_eq_true, zzcfgStrEqCi_iff, hon, h1, hoff, h0]
  split
  . next h =>
    cases on with
    | true => simpa using h
    | false =>
      rcases h with h | h <;> rw [h] <;> decide
  . next h =>
    split
    . next h' =>
      cases on with
      | true =>
        rcases h' with h' | h' <;> rw [h'] <;> decide
      | false => simpa using h'
    . next h' =>
      cases on with
      | true => simpa using h
      | false => simpa using h'

theorem zzcfgParseLine_malformed {line : List Char} (h : Malformed line) (hnul : '\x00' ∉ line)
    (s : ParseState) :
    (zzcfgParseLine line s).values.fastRamFields = .poison := by
  have hline : isFastRamLine line = true := (isFastRamLine_iff line).mpr h.1
  cases zzcfgParseLine_cases line s with
  | inl hdrop =>
    rw [hdrop, hline]
    rfl
  | inr hshape =>
    obtain ⟨key, value, tail, hshape, _, hfr, heq⟩ := hshape
    obtain ⟨htail, hkey⟩ := hfr hline
    obtain ⟨b0, b1, b2, b3, hcontent, hb0, hb1, hb2, hb3⟩ := hshape.content
    have hmem : ∀ c ∈ lineContent line, c ≠ '\x00' := by
      intro c hc h0
      subst h0
      exact hnul ((List.takeWhile_prefix _).subset hc)
    have hkeyEq : cString key = key := by
      apply cString_eq_self
      intro h0
      exact hmem _ (by rw [hcontent]; simp [h0]) rfl
    have hvalueEq : cString value = value := by
      apply cString_eq_self
      intro h0
      exact hmem _ (by rw [hcontent]; simp [h0]) rfl
    have hlower : key.map zzcfgLower = fastRamKey := by
      rw [hkeyEq, zzcfgStrEqCi_iff] at hkey
      rw [hkey]
      decide
    have hfind : zzcfgFindKey key = some .fastRam := (zzcfgFindKey_fastRam_iff key).mpr hlower
    rw [heq]
    by_cases hlen : (lineContent line).length ≤ 127
    . unfold applyAssign
      rw [hkeyEq, hvalueEq, hfind]
      dsimp only
      rw [zzcfgApplyKey_fastRam]
      cases hsw : zzcfgParseSwitch value with
      | none => rfl
      | some on =>
        -- such a line is a well-formed setting
        exfalso
        apply h.2 on
        refine ⟨hlen, b0, key, b1, b2, value, b3, ?_, hb0, hb1, hb2, hb3, hlower, ?_⟩
        . rw [hcontent, lineContent_tail htail, List.append_nil]
        . rw [← zzcfgParseSwitch_iff]
          exact hsw
    . apply applyAssign_poison
      unfold afterLength
      rw [hline, decide_eq_true (by omega)]
      rfl

theorem isKeyChar_of_word {word key : List Char} (h : key.map zzcfgLower = word)
    (hword : ∀ c ∈ word, isKeyChar c = true) :
    ∀ c ∈ key, isKeyChar c = true := by
  intro c hc
  apply isKeyChar_of_lower
  apply hword
  rw [← h]
  exact List.mem_map_of_mem hc

theorem switchWords_spec {word : List Char} {on : Bool} (h : word ∈ switchWords on) :
    word ≠ [] ∧ word.length ≤ 3 ∧ (∀ c ∈ word, isKeyChar c = true) ∧ '\x00' ∉ word := by
  revert h word
  cases on <;> decide

theorem not_mem_nul_of_lower {l word : List Char} (h : l.map zzcfgLower = word)
    (hword : '\x00' ∉ word) :
    '\x00' ∉ l := by
  intro h0
  apply hword
  rw [← h]
  exact List.mem_map_of_mem h0

theorem Blank.no_nul {b : List Char} (h : Blank b) : '\x00' ∉ b := by
  intro h0
  have := h _ h0
  revert this
  decide

/-- A well-formed setting has no NUL byte before its comment. -/
theorem FastRamSets.no_nul {line : List Char} {on : Bool} (h : FastRamSets line on) :
    '\x00' ∉ lineContent line := by
  obtain ⟨_, b0, key, b1, b2, value, b3, hcontent, hb0, hb1, hb2, hb3, hkey, hvalue⟩ := h
  rw [hcontent]
  simp only [List.mem_append, List.mem_cons, not_or]
  refine ⟨hb0.no_nul, ?_, hb1.no_nul, by decide, hb2.no_nul, ?_, hb3.no_nul⟩
  . exact not_mem_nul_of_lower hkey (by decide)
  . exact not_mem_nul_of_lower rfl (switchWords_spec hvalue).2.2.2

theorem FastRamSets.shape {line : List Char} {on : Bool} (h : FastRamSets line on) :
    ∃ key value tail, LineShape line key value tail ∧ IsTail tail ∧
      key.map zzcfgLower = fastRamKey ∧ value.map zzcfgLower ∈ switchWords on := by
  obtain ⟨_, b0, key, b1, b2, value, b3, hcontent, hb0, hb1, hb2, hb3, hkey, hvalue⟩ := h
  have hword := switchWords_spec hvalue
  have hvc := isKeyChar_of_word (rfl : value.map zzcfgLower = _) hword.2.2.1
  refine ⟨key, value, line.dropWhile (!isComment ·), ⟨⟨b0, b1, b2, b3, ?_, hb0, hb1, hb2, hb3⟩,
    ?_, ?_, ?_, ?_⟩, ?_, hkey, hvalue⟩
  . have hsplit : line = lineContent line ++ line.dropWhile (!isComment ·) := by
      unfold lineContent
      rw [List.takeWhile_append_dropWhile]
    conv => lhs; rw [hsplit, hcontent]
    simp only [List.append_assoc, List.cons_append]
  . exact isKeyChar_of_word hkey (by decide)
  . intro c hc
    exact isValueChar_of_isKeyChar (hvc c hc)
  . intro h0
    subst h0
    revert hkey
    decide
  . intro h0
    subst h0
    exact hword.1 rfl
  . intro c r hr
    have := stops_dropWhile (p := (!isComment ·)) line c r hr
    simpa using this

theorem zzcfgParseLine_sets {line : List Char} {on : Bool} (h : FastRamSets line on)
    (s : ParseState) :
    (zzcfgParseLine line s).values.fastRamFields = s.values.fastRamFields.assign on := by
  obtain ⟨key, value, tail, hshape, htail, hkey, hvalue⟩ := h.shape
  have hword := switchWords_spec hvalue
  have hkeyEq : cString key = key :=
    cString_eq_self (not_mem_nul_of_lower hkey (by decide))
  have hvalueEq : cString value = value :=
    cString_eq_self (not_mem_nul_of_lower rfl hword.2.2.2)
  have hkeyLen : key.length ≤ keySize - 1 := by
    rw [← List.length_map (f := zzcfgLower), hkey]
    decide
  have hvalueLen : value.length ≤ valueSize - 1 := by
    rw [← List.length_map (f := zzcfgLower)]
    exact Nat.le_trans hword.2.1 (by decide)
  have hlower : fastRamKey.map zzcfgLower = fastRamKey := by decide
  rw [zzcfgParseLine_shape s hshape htail hkeyLen hvalueLen]
  . unfold applyAssign
    rw [hkeyEq, hvalueEq, (zzcfgFindKey_fastRam_iff key).mpr hkey]
    dsimp only
    rw [zzcfgApplyKey_fastRam, (zzcfgParseSwitch_iff value on).mpr hvalue]
    unfold afterLength
    rw [decide_eq_false (by have := h.1; omega)]
    rfl
  . intro _
    rw [hkeyEq, zzcfgStrEqCi_iff, hkey, hlower]

/-- The last line that names Fast RAM. -/
def lastFastRam (lines : List (List Char)) : Option (List Char) :=
  (lines.filter fun line => decide (NamesFastRam line)).getLast?

theorem lastFastRam_cons_other {line : List Char} (h : ¬NamesFastRam line)
    (lines : List (List Char)) :
    lastFastRam (line :: lines) = lastFastRam lines := by
  unfold lastFastRam
  rw [List.filter_cons_of_neg (by simpa using h)]

theorem lastFastRam_cons_names {line : List Char} (h : NamesFastRam line)
    (lines : List (List Char)) :
    lastFastRam (line :: lines) = some ((lastFastRam lines).getD line) := by
  unfold lastFastRam
  rw [List.filter_cons_of_pos (by simpa using h), List.getLast?_cons]

theorem zzcfgParseLines_poison {lines : List (List Char)} {s : ParseState}
    (h : s.values.fastRamFields = .poison) :
    (zzcfgParseLines lines s).values.fastRamFields = .poison := by
  induction lines generalizing s with
  | nil => exact h
  | cons line lines ih =>
    unfold zzcfgParseLines
    exact ih (zzcfgParseLine_poison h)

/-- One malformed line decides, whatever stands before and after it. -/
theorem zzcfgParseLines_malformed {lines : List (List Char)}
    (hnul : ∀ line ∈ lines, NamesFastRam line → '\x00' ∉ line)
    (h : ∃ line ∈ lines, Malformed line) (s : ParseState) :
    (zzcfgParseLines lines s).values.fastRamFields = .poison := by
  induction lines generalizing s with
  | nil =>
    obtain ⟨line, hmem, _⟩ := h
    cases hmem
  | cons line lines ih =>
    unfold zzcfgParseLines
    by_cases hline : Malformed line
    . apply zzcfgParseLines_poison
      exact zzcfgParseLine_malformed hline (hnul line (by simp) hline.1) s
    . apply ih
      . intro l hl
        exact hnul l (by simp [hl])
      . obtain ⟨l, hmem, hl⟩ := h
        cases List.mem_cons.mp hmem with
        | inl heq =>
          subst heq
          contradiction
        | inr hmem => exact ⟨l, hmem, hl⟩

theorem FastRamFields.assign_assign (f : FastRamFields) (a b : Bool) :
    (f.assign a).assign b = f.assign b := by
  unfold FastRamFields.assign
  cases hf : f.invalid <;> simp [hf]

theorem FastRamSets.of_not_malformed {line : List Char} (hnames : NamesFastRam line)
    (h : ¬Malformed line) :
    ∃ on, FastRamSets line on := by
  by_contra hno
  exact h ⟨hnames, fun on hon => hno ⟨on, hon⟩⟩

/-- Without malformed lines the fields are those that the last line assigns. -/
theorem zzcfgParseLines_wellFormed {lines : List (List Char)}
    (h : ∀ line ∈ lines, ¬Malformed line) (s : ParseState) :
    (lastFastRam lines = none →
      (zzcfgParseLines lines s).values.fastRamFields = s.values.fastRamFields) ∧
    (∀ line on, lastFastRam lines = some line → FastRamSets line on →
      (zzcfgParseLines lines s).values.fastRamFields = s.values.fastRamFields.assign on) := by
  induction lines generalizing s with
  | nil =>
    refine ⟨fun _ => rfl, ?_⟩
    intro line on hlast
    cases hlast
  | cons l lines ih =>
    have ih := ih (fun line hline => h line (by simp [hline])) (zzcfgParseLine l s)
    unfold zzcfgParseLines
    by_cases hl : NamesFastRam l
    . obtain ⟨a, ha⟩ := FastRamSets.of_not_malformed hl (h l (by simp))
      rw [zzcfgParseLine_sets ha s] at ih
      rw [lastFastRam_cons_names hl]
      refine ⟨fun hnone => absurd hnone (by simp), ?_⟩
      intro line on hlast hon
      have hlast := Option.some.inj hlast
      cases hrest : lastFastRam lines with
      | none =>
        rw [hrest] at hlast
        have hlast : l = line := hlast
        subst hlast
        rw [ih.1 hrest, ← zzcfgParseLine_sets ha s, zzcfgParseLine_sets hon s]
      | some line' =>
        rw [hrest] at hlast
        have hlast : line' = line := hlast
        subst hlast
        rw [ih.2 line' on hrest hon, FastRamFields.assign_assign]
    . rw [lastFastRam_cons_other hl]
      rw [zzcfgParseLine_other hl s] at ih
      exact ih

end ZZCfg
