import ZZ9000.Config.GenerateLemmas

/-!
This module contains the guarantee for Fast RAM over a whole text, up to the file that is written
from the parsed record.
-/

namespace ZZCfg

/-- A text that the parser stores in a field of `size` bytes. -/
structure StoredText (size : Nat) (value : List Char) : Prop where
  chars : ∀ c ∈ value, isTokenChar c = true
  copied : value.length ≤ valueSize - 1
  fits : value.length < size

/-- The text fields are old, or a text that the parser stores. -/
def TextsFrom (before after : ZzcfgValues) : Prop :=
  (after.mac = before.mac ∨ StoredText macSize after.mac) ∧
  (after.hdf = before.hdf ∨ StoredText hdfSize after.hdf)

theorem TextsFrom.refl (v : ZzcfgValues) : TextsFrom v v := ⟨Or.inl rfl, Or.inl rfl⟩

theorem TextsFrom.trans {a b c : ZzcfgValues} (hab : TextsFrom a b) (hbc : TextsFrom b c) :
    TextsFrom a c := by
  refine ⟨?_, ?_⟩
  . cases hbc.1 with
    | inl h =>
      rw [h]
      exact hab.1
    | inr h => exact Or.inr h
  . cases hbc.2 with
    | inl h =>
      rw [h]
      exact hab.2
    | inr h => exact Or.inr h

theorem TextsFrom.no_newline {a b : ZzcfgValues} (h : TextsFrom a b) (hmac : '\n' ∉ a.mac)
    (hhdf : '\n' ∉ a.hdf) :
    '\n' ∉ b.mac ∧ '\n' ∉ b.hdf := by
  refine ⟨?_, ?_⟩
  . cases h.1 with
    | inl h => rwa [h]
    | inr h => exact no_newline_of_token h.chars
  . cases h.2 with
    | inl h => rwa [h]
    | inr h => exact no_newline_of_token h.chars

theorem zzcfgApplyKey_texts (key : ZzcfgKey) {value : List Char}
    (hchars : ∀ c ∈ value, isTokenChar c = true) (hlen : value.length ≤ valueSize - 1)
    (s : ParseState) :
    TextsFrom s.values (zzcfgApplyKey key value s).values := by
  unfold zzcfgApplyKey
  cases key with
  | mac =>
    dsimp only
    split
    . next hfits => exact ⟨Or.inr ⟨hchars, hlen, hfits⟩, Or.inl rfl⟩
    . exact TextsFrom.refl _
  | hdf =>
    dsimp only
    split
    . next hfits => exact ⟨Or.inl rfl, Or.inr ⟨hchars, hlen, hfits⟩⟩
    . exact TextsFrom.refl _
  | audioScene scene field =>
    dsimp only
    unfold zzcfgAudioSceneKey
    split <;> exact ⟨Or.inl rfl, Or.inl rfl⟩
  | _ => dsimp only; repeat' (first | exact ⟨Or.inl rfl, Or.inl rfl⟩ | split)

theorem LineShape.value_subset {line key value tail : List Char}
    (h : LineShape line key value tail) :
    ∀ c ∈ value, c ∈ line := by
  obtain ⟨⟨b0, b1, b2, b3, hline, _⟩, _⟩ := h
  intro c hc
  rw [hline]
  simp [hc]

theorem LineShape.value_token {line key value tail : List Char}
    (h : LineShape line key value tail) (hline : '\n' ∉ line) :
    ∀ c ∈ cString value, isTokenChar c = true := by
  intro c hc
  have hmem : c ∈ value := (List.takeWhile_prefix _).subset hc
  rw [isTokenChar_iff]
  refine ⟨h.valueChars c hmem, ?_, ?_⟩
  . intro hnew
    subst hnew
    exact hline (h.value_subset _ hmem)
  . have := List.mem_takeWhile_imp hc
    simpa using this

theorem poisonIf_texts (b : Bool) (s : ParseState) :
    TextsFrom s.values (poisonIf b s).values := by
  unfold poisonIf
  split <;> exact ⟨Or.inl rfl, Or.inl rfl⟩

theorem zzcfgParseLine_texts {line : List Char} (hline : '\n' ∉ line) (s : ParseState) :
    TextsFrom s.values (zzcfgParseLine line s).values := by
  have hlen : TextsFrom s.values (afterLength line s).values := poisonIf_texts _ s
  apply hlen.trans
  cases zzcfgParseLine_cases line s with
  | inl hdrop =>
    rw [hdrop]
    exact poisonIf_texts _ _
  | inr hshape =>
    obtain ⟨key, value, tail, hshape, hlength, _, heq⟩ := hshape
    rw [heq]
    unfold applyAssign
    split
    . next k _ =>
      apply zzcfgApplyKey_texts k (hshape.value_token hline)
      have := (List.takeWhile_prefix (· ≠ '\x00') (l := value)).length_le
      exact Nat.le_trans this hlength
    . exact TextsFrom.refl _

theorem zzcfgParseLines_texts {lines : List (List Char)} (h : ∀ line ∈ lines, '\n' ∉ line)
    (s : ParseState) :
    TextsFrom s.values (zzcfgParseLines lines s).values := by
  induction lines generalizing s with
  | nil => exact TextsFrom.refl _
  | cons line lines ih =>
    unfold zzcfgParseLines
    apply (zzcfgParseLine_texts (h line (by simp)) s).trans
    exact ih (fun l hl => h l (by simp [hl])) (zzcfgParseLine line s)

theorem zzcfgParseText_texts (text : List Char) (v : ZzcfgValues) :
    TextsFrom v (zzcfgParseText text v) := by
  unfold zzcfgParseText
  exact zzcfgParseLines_texts (fun line hline => (splitLines_not_newline hline).1)
    ⟨v, zzcfgProfileToLegacy v.videocapProfile⟩

/-- A record whose Fast RAM setting is invalid is written without one. -/
theorem generatedLines_not_names {v : ZzcfgValues} (h : v.fastRamInvalid = true) :
    ∀ line ∈ generatedLines v, ¬NamesFastRam line := by
  apply generatedLines_forall v (P := fun line => ¬NamesFastRam line)
  . decide
  . decide
  . intro _ hinvalid
    rw [h] at hinvalid
    contradiction
  . intro present name value hname _
    apply cfgAssign_not_names (fun c hc => (hname.1 c hc).1) hname.2.1 hname.2.2.1

theorem zzcfgGenerate_not_names {v : ZzcfgValues} (h : v.fastRamInvalid = true)
    (hmac : '\n' ∉ v.mac) (hhdf : '\n' ∉ v.hdf) {outsz : Nat} {out : List Char}
    (hout : zzcfgGenerate v outsz = some out) :
    ∀ line ∈ splitLines out, ¬NamesFastRam line := by
  rw [zzcfgGenerate_eq] at hout
  split at hout
  . cases hout
    rw [splitLines_joinLines (generatedLines_no_newline hmac hhdf)]
    exact generatedLines_not_names h
  . contradiction

/--
Over a text whose Fast RAM lines have no NUL byte: one malformed line makes the setting invalid and
keeps it out of the file that is written from the record; without malformed lines the mark is
unchanged, and the last line decides unless the record was invalid before.
-/
theorem zzcfgParseText_fastRam (text : List Char) (v : ZzcfgValues)
    (hnul : ∀ line ∈ splitLines text, NamesFastRam line → '\x00' ∉ line) :
    ((∃ line ∈ splitLines text, Malformed line) →
      (zzcfgParseText text v).fastRamInvalid = true ∧
      (zzcfgParseText text v).fastRam = false ∧
      (zzcfgParseText text v).fastRamPresent = false ∧
      ('\n' ∉ v.mac → '\n' ∉ v.hdf → ∀ outsz out,
        zzcfgGenerate (zzcfgParseText text v) outsz = some out →
        ∀ line ∈ splitLines out, ¬NamesFastRam line)) ∧
    ((∀ line ∈ splitLines text, ¬Malformed line) →
      (zzcfgParseText text v).fastRamInvalid = v.fastRamInvalid ∧
      (∀ line on, lastFastRam (splitLines text) = some line → FastRamSets line on →
        v.fastRamInvalid = false →
        (zzcfgParseText text v).fastRam = on ∧ (zzcfgParseText text v).fastRamPresent = true) ∧
      (lastFastRam (splitLines text) = none ∨ v.fastRamInvalid = true →
        (zzcfgParseText text v).fastRam = v.fastRam ∧
        (zzcfgParseText text v).fastRamPresent = v.fastRamPresent)) := by
  have hproj : ∀ (w : ZzcfgValues) (f : FastRamFields), w.fastRamFields = f →
      w.fastRam = f.fastRam ∧ w.fastRamPresent = f.present ∧ w.fastRamInvalid = f.invalid := by
    intro w f h
    subst h
    exact ⟨rfl, rfl, rfl⟩
  unfold zzcfgParseText
  generalize hs : (⟨v, zzcfgProfileToLegacy v.videocapProfile⟩ : ParseState) = s
  have hv : s.values = v := by rw [← hs]
  refine ⟨?_, ?_⟩
  . intro hbad
    have hpoison := hproj _ _ (zzcfgParseLines_malformed hnul hbad s)
    refine ⟨hpoison.2.2, hpoison.1, hpoison.2.1, ?_⟩
    intro hmac hhdf outsz out hout
    have htexts := zzcfgParseLines_texts
      (fun line (hline : line ∈ splitLines text) => (splitLines_not_newline hline).1) s
    rw [hv] at htexts
    have htexts := htexts.no_newline hmac hhdf
    exact zzcfgGenerate_not_names hpoison.2.2 htexts.1 htexts.2 hout
  . intro hgood
    have hrun := zzcfgParseLines_wellFormed hgood s
    rw [hv] at hrun
    have hinvalid : (zzcfgParseLines (splitLines text) s).values.fastRamInvalid =
        v.fastRamInvalid := by
      cases hlast : lastFastRam (splitLines text) with
      | none => exact (hproj _ _ (hrun.1 hlast)).2.2
      | some line =>
        have hmem : line ∈ splitLines text ∧ NamesFastRam line := by
          have := List.mem_of_getLast? hlast
          simpa using this
        obtain ⟨on, hon⟩ := FastRamSets.of_not_malformed hmem.2 (hgood line hmem.1)
        rw [(hproj _ _ (hrun.2 line on hlast hon)).2.2]
        unfold FastRamFields.assign
        split <;> rfl
    refine ⟨hinvalid, ?_, ?_⟩
    . intro line on hlast hon hv0
      have := hproj _ _ (hrun.2 line on hlast hon)
      have hassign : v.fastRamFields.assign on = ⟨on, true, false⟩ := by
        unfold FastRamFields.assign ZzcfgValues.fastRamFields
        simp [hv0]
      rw [hassign] at this
      exact ⟨this.1, this.2.1⟩
    . intro hcase
      have hsame : (zzcfgParseLines (splitLines text) s).values.fastRamFields =
          v.fastRamFields := by
        cases hlast : lastFastRam (splitLines text) with
        | none => exact hrun.1 hlast
        | some line =>
          have hmem : line ∈ splitLines text ∧ NamesFastRam line := by
            have := List.mem_of_getLast? hlast
            simpa using this
          obtain ⟨on, hon⟩ := FastRamSets.of_not_malformed hmem.2 (hgood line hmem.1)
          rw [hrun.2 line on hlast hon]
          unfold FastRamFields.assign
          rw [if_pos]
          cases hcase with
          | inl h =>
            rw [h] at hlast
            cases hlast
          | inr h => exact h
      have := hproj _ _ hsame
      exact ⟨this.1, this.2.1⟩

theorem zzcfgParseText_fastRam_poisons :
    let v := defaultValues true 0xff 0 0 100
    let text := "FAST_RAM = on\nfast_ram = maybe ; no\n fast_ram = 1".toList
    (zzcfgParseText text v).fastRamInvalid = true ∧
    (zzcfgParseText text v).fastRam = false ∧
    (zzcfgParseText text v).fastRamPresent = false := by
  have h := (zzcfgParseText_fastRam "FAST_RAM = on\nfast_ram = maybe ; no\n fast_ram = 1".toList
    (defaultValues true 0xff 0 0 100) (by decide +kernel)).1
  have hmalformed : Malformed "fast_ram = maybe ; no".toList := by
    refine ⟨by decide, ?_⟩
    intro on hon
    have := zzcfgParseLine_sets hon ⟨defaultValues true 0xff 0 0 100, ⟨0, 1, 0⟩⟩
    revert this
    cases on <;> decide +kernel
  have h := h ⟨_, by decide +kernel, hmalformed⟩
  exact ⟨h.1, h.2.1, h.2.2.1⟩

/--
Neither half of the guarantee holds for every text and record. A record that is invalid before a
well-formed line stays invalid, and a NUL byte hides what makes a line malformed.
-/
theorem zzcfgParseText_fastRam_fails :
    (¬∀ text v, (∀ line ∈ splitLines text, ¬Malformed line) →
      ∀ line on, lastFastRam (splitLines text) = some line → FastRamSets line on →
        (zzcfgParseText text v).fastRam = on ∧ (zzcfgParseText text v).fastRamPresent = true) ∧
    ¬∀ text v, (∃ line ∈ splitLines text, Malformed line) →
      (zzcfgParseText text v).fastRamInvalid = true := by
  have hsets : FastRamSets "fast_ram = on".toList true := by
    refine ⟨by decide, [], fastRamKey, [' '], [' '], "on".toList, [], by decide, ?_⟩
    unfold Blank
    decide
  refine ⟨?_, ?_⟩
  . intro h
    have := h "fast_ram = on".toList (zzcfgFastRamInvalidate (defaultValues true 0xff 0 0 100))
      (by
        intro line hline hbad
        have hlines : splitLines "fast_ram = on".toList = ["fast_ram = on".toList] := by decide
        rw [hlines, List.mem_singleton] at hline
        subst hline
        exact hbad.2 true hsets)
      "fast_ram = on".toList true (by decide) hsets
    revert this
    decide +kernel
  . intro h
    have := h "fast_ram = on\x00off".toList (defaultValues true 0xff 0 0 100)
      ⟨"fast_ram = on\x00off".toList, by decide, by decide, fun on hon => hon.no_nul (by decide)⟩
    revert this
    decide +kernel

end ZZCfg
