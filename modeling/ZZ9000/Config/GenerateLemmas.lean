import ZZ9000.Config.FastRamLemmas
import ZZ9000.Config.Generate

/-!
This module contains what `zzcfg_generate` writes, line by line.
-/

namespace ZZCfg

section Lines

def joinLines (lines : List (List Char)) : List Char :=
  match lines with
  | [] => []
  | line :: lines => line ++ '\n' :: joinLines lines

@[simp]
theorem joinLines_nil : joinLines [] = [] := rfl

@[simp]
theorem joinLines_cons (line : List Char) (lines : List (List Char)) :
    joinLines (line :: lines) = line ++ '\n' :: joinLines lines := rfl

@[simp]
theorem joinLines_append (a b : List (List Char)) :
    joinLines (a ++ b) = joinLines a ++ joinLines b := by
  induction a with
  | nil => rfl
  | cons line a ih => simp [ih]

theorem splitLines_line {line : List Char} (h : '\n' ∉ line) (rest : List Char) :
    splitLines (line ++ '\n' :: rest) = line :: splitLines rest := by
  induction line with
  | nil => simp [splitLines]
  | cons c line ih =>
    simp only [List.mem_cons, not_or] at h
    rw [List.cons_append, splitLines, if_neg (fun hc => h.1 hc.symm), ih h.2]

theorem splitLines_joinLines {lines : List (List Char)} (h : ∀ line ∈ lines, '\n' ∉ line) :
    splitLines (joinLines lines) = lines := by
  induction lines with
  | nil => rfl
  | cons line lines ih =>
    rw [joinLines_cons, splitLines_line (h line (by simp))]
    rw [ih (fun l hl => h l (by simp [hl]))]

theorem splitLines_not_newline {text line : List Char} (h : line ∈ splitLines text) :
    '\n' ∉ line ∧ ∀ c ∈ line, c ∈ text := by
  induction text generalizing line with
  | nil => cases h
  | cons c text ih =>
    unfold splitLines at h
    split at h
    . cases List.mem_cons.mp h with
      | inl h =>
        subst h
        simp
      | inr h =>
        have := ih h
        exact ⟨this.1, fun d hd => by simp [this.2 d hd]⟩
    . next hc =>
      split at h
      . simp only [List.mem_singleton] at h
        subst h
        simp [Ne.symm hc]
      . next first lines heq =>
        cases List.mem_cons.mp h with
        | inl h =>
          subst h
          have hmem : first ∈ splitLines text := by
            rw [heq]
            simp
          have := ih hmem
          simp only [List.mem_cons, not_or]
          refine ⟨⟨fun hc' => hc hc'.symm, this.1⟩, ?_⟩
          intro d hd
          cases hd with
          | inl hd => simp [hd]
          | inr hd => simp [this.2 d hd]
        | inr h =>
          have hmem : line ∈ splitLines text := by
            rw [heq]
            simp [h]
          have := ih hmem
          exact ⟨this.1, fun d hd => by simp [this.2 d hd]⟩

end Lines

/-- A line of the writer without its newline. -/
def cfgAssign (present : Bool) (name value : List Char) : List Char :=
  commentPrefix present ++ (name ++ (" = ".toList ++ value))

theorem cfgLine_eq (present : Bool) (name value : List Char) :
    cfgLine present name value = cfgAssign present name value ++ ['\n'] := by
  unfold cfgLine cfgAssign
  simp only [List.append_assoc]

def profileLines (v : ZzcfgValues) : List (List Char) :=
  let profile := zzcfgProfileSanitize v.videocapProfile v.firmwareCapabilities
  let legacy := zzcfgProfileToLegacy profile
  let present := v.videocapProfilePresent
  if v.useVideocapProfileKey then
    [cfgAssign present "videocap_profile".toList
      (match zzcfgProfiles[profile.toNat]? with
        | some p => p.name
        | none => [])]
  else
    [cfgAssign present "videocap_mode".toList
        (if legacy.palMode != 0 then "pal".toList else "800x600".toList),
      cfgAssign present "videocap_shres".toList
        (if legacy.full != 0 then "full".toList else "filter".toList),
      cfgAssign present "nonstandard_vsync".toList (vsyncNames.getD legacy.vsync.toNat [])]

def fastRamLines (v : ZzcfgValues) : List (List Char) :=
  if v.fastRamPresent && !v.fastRamInvalid then
    [cfgAssign true "fast_ram".toList (onOff v.fastRam)]
  else
    []

def headerLine : List Char := "# ZZ9000.CFG written by ZZTop; power-cycle to apply".toList

def nativeLines (v : ZzcfgValues) : List (List Char) :=
  let sample := if v.videocapSample ≤ 2 then v.videocapSample else 0
  let gamma := if v.gammaPresent then v.gamma else gammaHundredthsIdentity
  [cfgAssign v.videocapSamplePresent "videocap_sample".toList (sampleNames.getD sample.toNat []),
    cfgAssign v.videocapCropHPresent "videocap_crop_h".toList
      (decimal (v.videocapCropH &&& 4095).toNat),
    cfgAssign v.videocapCropVPresent "videocap_crop_v".toList
      (decimal (v.videocapCropV &&& 4095).toNat),
    cfgAssign v.videocapPhasePresent "videocap_phase".toList
      (signedDecimal v.videocapPhase.toInt),
    cfgAssign v.videocapC28PhasePresent "videocap_c28_phase".toList
      (signedDecimal v.videocapC28Phase.toInt),
    cfgAssign v.videocapWidthPresent "videocap_width".toList (decimal v.videocapWidth.toNat),
    cfgAssign v.videocapHeightPresent "videocap_height".toList (decimal v.videocapHeight.toNat),
    cfgAssign v.scanlineModePresent "scanline_mode".toList (decimal (v.scanlineMode &&& 3).toNat),
    cfgAssign v.scanlineParityPresent "scanline_parity".toList
      (decimal (v.scanlineParity &&& 1).toNat),
    cfgAssign v.gammaPresent "gamma".toList
      (decimal (gamma.toNat / 100) ++ '.' :: twoDigits (gamma.toNat % 100)),
    cfgAssign true "int2".toList (onOff v.int2)]

def systemLines (v : ZzcfgValues) : List (List Char) :=
  [cfgAssign true "offscreen_bitmaps".toList (onOff v.offscreenBitmaps),
    cfgAssign true "video_overlay".toList (onOff v.videoOverlay),
    cfgAssign (!v.mac.isEmpty) "mac".toList
      (if v.mac.isEmpty then "68:82:F2:00:00:01".toList else v.mac),
    cfgAssign (!v.hdf.isEmpty) "hdf".toList (if v.hdf.isEmpty then hdfDefault else v.hdf)]

def mainLines (v : ZzcfgValues) : List (List Char) :=
  headerLine :: (profileLines v ++ (nativeLines v ++ (fastRamLines v ++ systemLines v)))

def sceneAssign (i : Fin 8) (scene : AudioScene) (f : Fin 16) : List Char :=
  cfgAssign true (sceneKeyName i f) (decimal (scene.get f).toNat)

def sceneLines (i : Fin 8) (scene : AudioScene) (fields : List (Fin 16)) : List (List Char) :=
  match fields with
  | [] => []
  | f :: fields =>
    if scene.mask f then
      sceneAssign i scene f :: sceneLines i scene fields
    else
      sceneLines i scene fields

def scenesLines (v : ZzcfgValues) (scenes : List (Fin 8)) : List (List Char) :=
  match scenes with
  | [] => []
  | i :: scenes => sceneLines i (v.audioScene i) (List.finRange 16) ++ scenesLines v scenes

def audioHeadLines (v : ZzcfgValues) : List (List Char) :=
  [[], cfgAssign v.audioActivePresent "audio_active".toList (decimal v.audioActive.toNat),
    cfgAssign v.audioBaselinePresent "audio_baseline".toList (decimal v.audioBaseline.toNat),
    cfgAssign v.audioCeilingPaulaPresent "audio_ceiling_paula".toList
      (decimal v.audioCeilingPaula.toNat),
    cfgAssign v.audioCeilingAxPresent "audio_ceiling_ax".toList
      (decimal v.audioCeilingAx.toNat)]

def audioLines (v : ZzcfgValues) : List (List Char) :=
  if zzcfgAudioPresent v then
    audioHeadLines v ++ scenesLines v (List.finRange 8)
  else
    []

def generatedLines (v : ZzcfgValues) : List (List Char) := mainLines v ++ audioLines v

theorem zzcfgProfileSanitize_lt (profile caps : UInt16) :
    (zzcfgProfileSanitize profile caps).toNat < Vcap.profileCount := by
  unfold zzcfgProfileSanitize
  split
  . next p hp =>
    split
    . have := List.getElem?_eq_some_iff.mp hp
      exact this.1
    . have : ∀ p ∈ zzcfgProfiles, p.fallbackProfile.toNat < Vcap.profileCount := by decide
      exact this p (List.mem_of_getElem? hp)
  . decide

/-- The buffer of the profile lines holds every spelling of every profile. -/
theorem videoConfig_eq (v : ZzcfgValues) : videoConfig v = joinLines (profileLines v) := by
  have hlt := zzcfgProfileSanitize_lt v.videocapProfile v.firmwareCapabilities
  unfold videoConfig profileLines
  generalize zzcfgProfileSanitize v.videocapProfile v.firmwareCapabilities = profile at hlt
  generalize v.videocapProfilePresent = present
  have hprofile : profile = UInt16.ofNat profile.toNat := by simp
  dsimp only
  rw [hprofile]
  generalize profile.toNat = n at hlt
  unfold Vcap.profileCount at hlt
  cases v.useVideocapProfileKey <;> cases present <;> interval_cases n <;> decide +kernel

theorem fastRamConfig_eq (v : ZzcfgValues) : fastRamConfig v = joinLines (fastRamLines v) := by
  unfold fastRamConfig fastRamLines
  split
  . cases v.fastRam <;> decide
  . rfl

theorem mainText_eq (v : ZzcfgValues) : mainText v = joinLines (mainLines v) := by
  have hheader : "# ZZ9000.CFG written by ZZTop; power-cycle to apply\n".toList =
      headerLine ++ ['\n'] := by
    decide
  unfold mainText mainLines nativeLines systemLines
  rw [videoConfig_eq, fastRamConfig_eq, hheader]
  simp only [joinLines_append, joinLines_cons, joinLines_nil, cfgLine_eq, List.append_assoc,
    List.cons_append, List.nil_append]

theorem sceneLine_eq (i : Fin 8) (scene : AudioScene) (f : Fin 16) :
    sceneLine i scene f = sceneAssign i scene f ++ ['\n'] := by
  have hdigit : ∀ i : Fin 8, decimal i.val = [sceneDigits.getD i.val '0'] := by decide
  have hfield : (sceneFields scene)[f.val]? =
      some (sceneSuffixes.getD f.val [], scene.get f) := by
    fin_cases f <;> rfl
  unfold sceneLine
  rw [hfield]
  dsimp only
  rw [cfgLine_eq]
  unfold sceneAssign sceneKeyName
  rw [hdigit i]
  rfl

theorem appendChunk_eq (outsz : Nat) (text chunk : List Char) :
    appendChunk outsz text chunk =
      if (text ++ chunk).length < outsz then some (text ++ chunk) else none := by
  unfold appendChunk
  split
  . rw [if_neg (by omega)]
  . rw [if_pos (by omega)]

theorem appendScene_eq (outsz : Nat) (i : Fin 8) (scene : AudioScene) (fields : List (Fin 16))
    {text : List Char} (htext : text.length < outsz) :
    appendScene outsz i scene fields text =
      if (text ++ joinLines (sceneLines i scene fields)).length < outsz then
        some (text ++ joinLines (sceneLines i scene fields))
      else
        none := by
  induction fields generalizing text with
  | nil => simp [appendScene, sceneLines, htext]
  | cons f fields ih =>
    unfold appendScene sceneLines
    split
    . rw [appendChunk_eq, sceneLine_eq, joinLines_cons]
      by_cases hfit : (text ++ (sceneAssign i scene f ++ ['\n'])).length < outsz
      . rw [if_pos hfit]
        dsimp only
        rw [ih hfit]
        simp only [List.append_assoc, List.cons_append, List.nil_append]
      . rw [if_neg hfit, if_neg]
        simp only [List.length_append, List.length_cons, List.length_nil] at hfit ⊢
        omega
    . exact ih htext

theorem appendScenes_eq (outsz : Nat) (v : ZzcfgValues) (scenes : List (Fin 8))
    {text : List Char} (htext : text.length < outsz) :
    appendScenes outsz v scenes text =
      if (text ++ joinLines (scenesLines v scenes)).length < outsz then
        some (text ++ joinLines (scenesLines v scenes))
      else
        none := by
  induction scenes generalizing text with
  | nil => simp [appendScenes, scenesLines, htext]
  | cons i scenes ih =>
    unfold appendScenes scenesLines
    rw [appendScene_eq outsz i _ _ htext, joinLines_append]
    by_cases hfit : (text ++
        joinLines (sceneLines i (v.audioScene i) (List.finRange 16))).length < outsz
    . rw [if_pos hfit]
      dsimp only
      rw [ih hfit]
      simp only [List.append_assoc]
    . rw [if_neg hfit, if_neg]
      simp only [List.length_append] at hfit ⊢
      omega

/-- The writer writes its lines when they fit the buffer, and else refuses. -/
theorem zzcfgGenerate_eq (v : ZzcfgValues) (outsz : Nat) :
    zzcfgGenerate v outsz =
      if (joinLines (generatedLines v)).length < outsz then
        some (joinLines (generatedLines v))
      else
        none := by
  unfold zzcfgGenerate generatedLines audioLines
  rw [appendChunk_eq, List.nil_append, mainText_eq, joinLines_append]
  have hhead : audioHead v = joinLines (audioHeadLines v) := by
    unfold audioHead audioHeadLines
    simp only [joinLines_cons, joinLines_nil, cfgLine_eq, List.append_assoc, List.cons_append,
      List.nil_append]
  by_cases hmain : (joinLines (mainLines v)).length < outsz
  . rw [if_pos hmain]
    dsimp only
    split
    . unfold zzcfgAppendAudio
      rw [appendChunk_eq, hhead, joinLines_append]
      by_cases hfit : (joinLines (mainLines v) ++ joinLines (audioHeadLines v)).length < outsz
      . rw [if_pos hfit]
        dsimp only
        rw [appendScenes_eq outsz v _ hfit]
        simp only [List.append_assoc]
      . rw [if_neg hfit, if_neg]
        simp only [List.length_append] at hfit ⊢
        omega
    . simp [hmain]
  . rw [if_neg hmain, if_neg]
    simp only [List.length_append] at hmain ⊢
    omega

section FirstToken

theorem lineContent_cfgAssign_absent (name value : List Char) :
    lineContent (cfgAssign false name value) = [] := rfl

theorem firstToken_cfgAssign {name : List Char} (h : ∀ c ∈ name, zzcfgIsIdentChar c = true)
    (hne : name ≠ []) (value : List Char) :
    firstToken (cfgAssign true name value) = name := by
  have hcontent : lineContent (cfgAssign true name value) =
      name ++ lineContent (" = ".toList ++ value) := by
    unfold cfgAssign commentPrefix
    rw [if_pos rfl, List.nil_append, lineContent_append]
    intro c hc
    exact isKeyChar_not_comment (isIdentChar_isKeyChar (h c hc))
  have hspace : Stops zzcfgIsSpace (name ++ lineContent (" = ".toList ++ value)) := by
    apply stops_append
    . intro c r hr
      apply isKeyChar_not_space
      apply isIdentChar_isKeyChar
      apply h
      simp [hr]
    . intro h0
      contradiction
  have hident : Stops zzcfgIsIdentChar (lineContent (" = ".toList ++ value)) := by
    have : " = ".toList ++ value = ' ' :: ("= ".toList ++ value) := rfl
    rw [this, lineContent_cons (by decide)]
    exact stops_cons (by decide)
  unfold firstToken
  rw [hcontent]
  have := dropWhile_append_stops (a := []) (by simp) hspace
  rw [List.nil_append] at this
  rw [this, takeWhile_append_stops h hident]

/-- Only a line under the name itself names Fast RAM. -/
theorem cfgAssign_not_names {name : List Char} (h : ∀ c ∈ name, zzcfgIsIdentChar c = true)
    (hne : name ≠ []) (hname : name.map zzcfgLower ≠ fastRamKey) (present : Bool)
    (value : List Char) :
    ¬NamesFastRam (cfgAssign present name value) := by
  unfold NamesFastRam
  cases present with
  | false =>
    unfold firstToken
    rw [lineContent_cfgAssign_absent]
    decide
  | true =>
    rw [firstToken_cfgAssign h hne]
    exact hname

end FirstToken

section Written

/-- A character of a value that survives the writer and the parser. -/
def isTokenChar (c : Char) : Bool := isValueChar c && c ≠ '\n' && c ≠ '\x00'

theorem isTokenChar_iff (c : Char) :
    isTokenChar c = true ↔ isValueChar c = true ∧ c ≠ '\n' ∧ c ≠ '\x00' := by
  unfold isTokenChar
  simp [and_assoc]

/-- A value that the writer prints itself. -/
def Printed (value : List Char) : Prop := (∀ c ∈ value, isTokenChar c = true) ∧ value.length ≤ 24

theorem no_newline_of_token {value : List Char} (h : ∀ c ∈ value, isTokenChar c = true) :
    '\n' ∉ value := by
  intro hc
  have := h _ hc
  revert this
  decide

theorem isTokenChar_of_isDigit {c : Char} (h : c.isDigit = true) : isTokenChar c = true := by
  unfold isTokenChar isValueChar isComment zzcfgIsSpace
  simp only [Bool.and_eq_true, Bool.not_eq_true', Bool.or_eq_false_iff, decide_eq_true_eq,
    decide_eq_false_iff_not, ne_eq]
  refine ⟨⟨⟨⟨?_, ?_⟩, ⟨?_, ?_⟩, ?_⟩, ?_⟩, ?_⟩ <;> (intro hc; subst hc; revert h; decide)

theorem decimal_chars {n : Nat} {c : Char} (h : c ∈ decimal n) : isTokenChar c = true := by
  apply isTokenChar_of_isDigit
  exact Nat.isDigit_of_mem_toDigits (by decide) (by decide) h

theorem decimal_length {n : Nat} (h : n < 65536) : (decimal n).length ≤ 5 := by
  unfold decimal
  rw [Nat.length_toDigits_le_iff (by decide) (by decide)]
  omega

theorem printed_decimal {n : Nat} (h : n < 65536) : Printed (decimal n) := by
  refine ⟨fun c hc => decimal_chars hc, ?_⟩
  have := decimal_length h
  omega

theorem printed_signedDecimal (n : Int16) : Printed (signedDecimal n.toInt) := by
  have hlo := n.le_toInt
  have hhi := n.toInt_lt
  have hn : n.toInt.natAbs < 65536 := by omega
  have hp := printed_decimal hn
  unfold signedDecimal
  split
  . refine ⟨?_, ?_⟩
    . intro c hc
      cases List.mem_cons.mp hc with
      | inl hc =>
        subst hc
        decide
      | inr hc => exact hp.1 c hc
    . have := decimal_length hn
      simp only [List.length_cons]
      omega
  . exact hp

theorem printed_gamma (gamma : UInt16) :
    Printed (decimal (gamma.toNat / 100) ++ '.' :: twoDigits (gamma.toNat % 100)) := by
  have hlt := gamma.toNat_lt
  have htwo : (∀ c ∈ twoDigits (gamma.toNat % 100), isTokenChar c = true) ∧
      (twoDigits (gamma.toNat % 100)).length ≤ 6 := by
    have hlen := decimal_length (n := gamma.toNat % 100) (by omega)
    unfold twoDigits
    split
    . refine ⟨?_, ?_⟩
      . intro c hc
        cases List.mem_cons.mp hc with
        | inl hc =>
          subst hc
          decide
        | inr hc => exact decimal_chars hc
      . simp only [List.length_cons]
        omega
    . exact ⟨fun c hc => decimal_chars hc, by omega⟩
  have hlen := decimal_length (n := gamma.toNat / 100) (by omega)
  refine ⟨?_, ?_⟩
  . intro c hc
    simp only [List.mem_append, List.mem_cons] at hc
    rcases hc with hc | hc | hc
    . exact decimal_chars hc
    . subst hc
      decide
    . exact htwo.1 c hc
  . simp only [List.length_append, List.length_cons]
    have := htwo.2
    omega

instance (value : List Char) : Decidable (Printed value) :=
  inferInstanceAs (Decidable (_ ∧ _))

theorem printed_onOff (b : Bool) : Printed (onOff b) := by
  cases b <;> decide

/-- A key that is an identifier other than the Fast RAM key. -/
def PlainName (name : List Char) : Prop :=
  (∀ c ∈ name, zzcfgIsIdentChar c = true ∧ c ≠ '\n') ∧ name ≠ [] ∧
    name.map zzcfgLower ≠ fastRamKey ∧ name.length ≤ 23

instance (name : List Char) : Decidable (PlainName name) :=
  inferInstanceAs (Decidable (_ ∧ _))

theorem PlainName.no_newline {name : List Char} (h : PlainName name) : '\n' ∉ name := by
  intro hc
  exact (h.1 _ hc).2 rfl

theorem plainName_sceneKeyName (i : Fin 8) (f : Fin 16) : PlainName (sceneKeyName i f) := by
  revert i f
  decide +kernel

theorem mem_sceneLines {i : Fin 8} {scene : AudioScene} {fields : List (Fin 16)}
    {line : List Char} (h : line ∈ sceneLines i scene fields) :
    ∃ f ∈ fields, scene.mask f = true ∧ line = sceneAssign i scene f := by
  induction fields with
  | nil => cases h
  | cons f fields ih =>
    unfold sceneLines at h
    split at h
    . next hmask =>
      cases List.mem_cons.mp h with
      | inl h => exact ⟨f, by simp, hmask, h⟩
      | inr h =>
        obtain ⟨g, hg, hline⟩ := ih h
        exact ⟨g, by simp [hg], hline⟩
    . obtain ⟨g, hg, hline⟩ := ih h
      exact ⟨g, by simp [hg], hline⟩

theorem mem_scenesLines {v : ZzcfgValues} {scenes : List (Fin 8)} {line : List Char}
    (h : line ∈ scenesLines v scenes) :
    ∃ i f, line = sceneAssign i (v.audioScene i) f := by
  induction scenes with
  | nil => cases h
  | cons i scenes ih =>
    unfold scenesLines at h
    cases List.mem_append.mp h with
    | inl h =>
      obtain ⟨f, _, _, hline⟩ := mem_sceneLines h
      exact ⟨i, f, hline⟩
    | inr h => exact ih h

theorem profileLines_printed (v : ZzcfgValues) {line : List Char} (h : line ∈ profileLines v) :
    ∃ name value, PlainName name ∧ Printed value ∧
      line = cfgAssign v.videocapProfilePresent name value := by
  have hlt := zzcfgProfileSanitize_lt v.videocapProfile v.firmwareCapabilities
  unfold profileLines at h
  generalize zzcfgProfileSanitize v.videocapProfile v.firmwareCapabilities = profile at h hlt
  dsimp only at h
  split at h
  . simp only [List.mem_singleton] at h
    subst h
    refine ⟨_, _, by decide, ?_, rfl⟩
    split
    . next p hp =>
      have : ∀ p ∈ zzcfgProfiles, Printed p.name := by decide
      exact this p (List.mem_of_getElem? hp)
    . decide
  . simp only [List.mem_cons, List.not_mem_nil, or_false] at h
    rcases h with h | h | h
    . subst h
      refine ⟨_, _, by decide, ?_, rfl⟩
      split <;> decide
    . subst h
      refine ⟨_, _, by decide, ?_, rfl⟩
      split <;> decide
    . subst h
      refine ⟨_, _, by decide, ?_, rfl⟩
      generalize (zzcfgProfileToLegacy profile).vsync.toNat = n
      unfold vsyncNames
      match n with
      | 0 => decide
      | 1 => decide
      | 2 => decide
      | n + 3 =>
        simp only [List.getD_cons_succ, List.getD_nil]
        decide

/-- What holds of every line of the writer. -/
theorem generatedLines_forall (v : ZzcfgValues) {P : List Char → Prop} (hheader : P headerLine)
    (hblank : P [])
    (hfast : v.fastRamPresent = true → v.fastRamInvalid = false →
      P (cfgAssign true fastRamKey (onOff v.fastRam)))
    (hassign : ∀ present name value, PlainName name →
      Printed value ∨ value = v.mac ∨ value = v.hdf → P (cfgAssign present name value)) :
    ∀ line ∈ generatedLines v, P line := by
  have hmem : ∀ name, PlainName name → ∀ present value, Printed value →
      P (cfgAssign present name value) := by
    intro name hname present value hvalue
    exact hassign present name value hname (Or.inl hvalue)
  intro line hline
  unfold generatedLines mainLines at hline
  rw [List.cons_append, List.mem_cons] at hline
  simp only [List.mem_append] at hline
  rcases hline with hline | (hline | hline | hline | hline) | hline
  . rw [hline]
    exact hheader
  . obtain ⟨name, value, hname, hvalue, heq⟩ := profileLines_printed v hline
    rw [heq]
    exact hmem name hname _ value hvalue
  . unfold nativeLines at hline
    simp only [List.mem_cons, List.not_mem_nil, or_false] at hline
    rcases hline with h | h | h | h | h | h | h | h | h | h | h <;>
      (rw [h]; apply hmem _ (by decide))
    . generalize (if v.videocapSample ≤ 2 then v.videocapSample else 0).toNat = n
      unfold sampleNames
      match n with
      | 0 => decide
      | 1 => decide
      | 2 => decide
      | n + 3 =>
        simp only [List.getD_cons_succ, List.getD_nil]
        decide
    . exact printed_decimal (UInt16.toNat_lt _)
    . exact printed_decimal (UInt16.toNat_lt _)
    . exact printed_signedDecimal _
    . exact printed_signedDecimal _
    . exact printed_decimal (UInt16.toNat_lt _)
    . exact printed_decimal (UInt16.toNat_lt _)
    . exact printed_decimal (UInt16.toNat_lt _)
    . exact printed_decimal (UInt16.toNat_lt _)
    . exact printed_gamma _
    . exact printed_onOff _
  . unfold fastRamLines at hline
    split at hline
    . next h =>
      simp only [Bool.and_eq_true, Bool.not_eq_true'] at h
      simp only [List.mem_singleton] at hline
      rw [hline]
      exact hfast h.1 h.2
    . cases hline
  . unfold systemLines at hline
    simp only [List.mem_cons, List.not_mem_nil, or_false] at hline
    rcases hline with h | h | h | h
    . rw [h]
      exact hmem _ (by decide) _ _ (printed_onOff _)
    . rw [h]
      exact hmem _ (by decide) _ _ (printed_onOff _)
    . rw [h]
      apply hassign _ _ _ (by decide)
      split
      . left
        decide
      . right
        left
        rfl
    . rw [h]
      apply hassign _ _ _ (by decide)
      split
      . left
        decide
      . right
        right
        rfl
  . unfold audioLines at hline
    split at hline
    . cases List.mem_append.mp hline with
      | inl hline =>
        unfold audioHeadLines at hline
        simp only [List.mem_cons, List.not_mem_nil, or_false] at hline
        rcases hline with h | h | h | h | h
        . rw [h]
          exact hblank
        . rw [h]
          exact hmem _ (by decide) _ _ (printed_decimal (UInt16.toNat_lt _))
        . rw [h]
          exact hmem _ (by decide) _ _ (printed_decimal (UInt16.toNat_lt _))
        . rw [h]
          exact hmem _ (by decide) _ _ (printed_decimal (UInt16.toNat_lt _))
        . rw [h]
          exact hmem _ (by decide) _ _ (printed_decimal (UInt16.toNat_lt _))
      | inr hline =>
        obtain ⟨i, f, heq⟩ := mem_scenesLines hline
        rw [heq]
        exact hmem _ (plainName_sceneKeyName i f) _ _ (printed_decimal (UInt16.toNat_lt _))
    . cases hline

theorem generatedLines_no_newline {v : ZzcfgValues} (hmac : '\n' ∉ v.mac) (hhdf : '\n' ∉ v.hdf) :
    ∀ line ∈ generatedLines v, '\n' ∉ line := by
  have hassign : ∀ present name value, '\n' ∉ name → '\n' ∉ value →
      '\n' ∉ cfgAssign present name value := by
    intro present name value hname hvalue
    unfold cfgAssign
    simp only [List.mem_append, not_or]
    refine ⟨?_, hname, by decide, hvalue⟩
    cases present <;> decide
  apply generatedLines_forall v (P := fun line => '\n' ∉ line)
  . decide
  . decide
  . intro _ _
    exact hassign _ _ _ (by decide) (no_newline_of_token (printed_onOff _).1)
  . intro present name value hname hvalue
    apply hassign
    . exact hname.no_newline
    . rcases hvalue with h | h | h
      . exact no_newline_of_token h.1
      . rw [h]
        exact hmac
      . rw [h]
        exact hhdf

end Written

end ZZCfg
