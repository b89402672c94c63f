import ZZ9000.Config.FastRamPoison
import ZZ9000.Config.Numerals
import ZZ9000.Config.SettingsLemmas

/-!
This module contains the proof that a record that is written and parsed again is the same record.
-/

namespace ZZCfg

section Lines

/-- A line without content is dropped. -/
theorem zzcfgParseLine_comment {line : List Char} (h : lineContent line = []) (s : ParseState) :
    zzcfgParseLine line s = s := by
  have hline : isFastRamLine line = false := by
    unfold isFastRamLine
    rw [h]
    decide
  have hlen : afterLength line s = s := by
    unfold afterLength poisonIf
    rw [hline, Bool.and_false, if_neg (by simp)]
  cases zzcfgParseLine_cases line s with
  | inl hdrop =>
    rw [hdrop, hlen, hline]
    rfl
  | inr hshape =>
    obtain ⟨key, value, tail, hshape, _⟩ := hshape
    obtain ⟨b0, b1, b2, b3, hcontent, _⟩ := hshape.content
    rw [h] at hcontent
    simp at hcontent

/-- What the parser can read back as a value. -/
structure Token (value : List Char) : Prop where
  chars : ∀ c ∈ value, isTokenChar c = true
  nonempty : value ≠ []
  length : value.length ≤ valueSize - 1

theorem Token.of_printed {value : List Char} (h : Printed value) (hne : value ≠ []) :
    Token value where
  chars := h.1
  nonempty := hne
  length := Nat.le_trans h.2 (by decide)

theorem Token.valueChars {value : List Char} (h : Token value) :
    ∀ c ∈ value, isValueChar c = true := by
  intro c hc
  exact ((isTokenChar_iff c).mp (h.chars c hc)).1

theorem Token.cString {value : List Char} (h : Token value) : cString value = value := by
  apply cString_eq_self
  intro hc
  have := h.chars _ hc
  revert this
  decide

theorem cfgAssign_shape {name value : List Char} (hname : ∀ c ∈ name, zzcfgIsIdentChar c = true)
    (hne : name ≠ []) (hvalue : Token value) :
    LineShape (cfgAssign true name value) name value [] where
  split := by
    refine ⟨[], [' '], [' '], [], ?_, ?_⟩
    . simp [cfgAssign, commentPrefix]
    . unfold Blank
      decide
  keyChars := fun c hc => isIdentChar_isKeyChar (hname c hc)
  valueChars := hvalue.valueChars
  keyNonempty := hne
  valueNonempty := hvalue.nonempty

theorem cString_ident {name : List Char} (h : ∀ c ∈ name, zzcfgIsIdentChar c = true) :
    cString name = name := by
  apply cString_eq_self
  intro hc
  have := h _ hc
  revert this
  decide

theorem isTail_nil : IsTail [] := by
  intro c r h
  cases h

/-- The parser takes the branch of the key for a line of the writer. -/
theorem zzcfgParseLine_cfgAssign {name value : List Char} (key : ZzcfgKey)
    (hname : PlainName name) (hkey : zzcfgFindKey name = some key) (hvalue : Token value)
    (s : ParseState) :
    zzcfgParseLine (cfgAssign true name value) s = zzcfgApplyKey key value s := by
  have hident : ∀ c ∈ name, zzcfgIsIdentChar c = true := fun c hc => (hname.1 c hc).1
  have hline : isFastRamLine (cfgAssign true name value) = false := by
    have := cfgAssign_not_names hident hname.2.1 hname.2.2.1 true value
    rw [← isFastRamLine_iff] at this
    simpa using this
  have hlen : afterLength (cfgAssign true name value) s = s := by
    unfold afterLength poisonIf
    rw [hline, Bool.and_false, if_neg (by simp)]
  rw [zzcfgParseLine_shape s (cfgAssign_shape hident hname.2.1 hvalue) isTail_nil hname.2.2.2
    hvalue.length]
  . unfold applyAssign
    rw [cString_ident hident, hvalue.cString, hkey, hlen]
  . intro h
    rw [hline] at h
    contradiction

theorem zzcfgParseLine_fastRamAssign (on : Bool) (s : ParseState) :
    zzcfgParseLine (cfgAssign true fastRamKey (onOff on)) s =
      zzcfgApplyKey .fastRam (onOff on) s := by
  have htoken : Token (onOff on) :=
    Token.of_printed (printed_onOff on) (by cases on <;> decide)
  have hlen : afterLength (cfgAssign true fastRamKey (onOff on)) s = s := by
    unfold afterLength poisonIf
    rw [decide_eq_false (by cases on <;> decide), Bool.false_and, if_neg (by simp)]
  rw [zzcfgParseLine_shape s (cfgAssign_shape (by decide) (by decide) htoken) isTail_nil (by decide)
    htoken.length]
  . unfold applyAssign
    rw [cString_ident (by decide), htoken.cString, hlen]
    rw [(zzcfgFindKey_fastRam_iff fastRamKey).mpr (by decide)]
  . intro _
    decide

/-- A setting that is written commented out when it is absent. -/
theorem zzcfgParseLine_optional {present : Bool} {name value : List Char} {key : ZzcfgKey}
    (hname : PlainName name) (hkey : zzcfgFindKey name = some key)
    (hvalue : present = true → Token value) (s : ParseState) :
    zzcfgParseLine (cfgAssign present name value) s =
      if present then zzcfgApplyKey key value s else s := by
  cases present with
  | true =>
    rw [if_pos rfl]
    exact zzcfgParseLine_cfgAssign key hname hkey (hvalue rfl) s
  | false =>
    rw [if_neg (by simp)]
    exact zzcfgParseLine_comment (lineContent_cfgAssign_absent name value) s

theorem zzcfgParseLines_append (a b : List (List Char)) (s : ParseState) :
    zzcfgParseLines (a ++ b) s = zzcfgParseLines b (zzcfgParseLines a s) := by
  induction a generalizing s with
  | nil => rfl
  | cons line a ih =>
    exact ih (zzcfgParseLine line s)

end Lines

/-- The parser itself puts this text in the field that `get` reads. -/
def StoredByParser (get : ZzcfgValues → List Char) (value : List Char) : Prop :=
  ∃ text v, get v ≠ value ∧ get (zzcfgParseText text v) = value

/-- The values of a record are ones that the parser admits. -/
structure Admitted (v : ZzcfgValues) : Prop where
  profile : v.videocapProfilePresent = true →
    zzcfgProfileSupported v.videocapProfile v.firmwareCapabilities = true ∧
    (v.useVideocapProfileKey = false → v.videocapProfile ≤ Vcap.filteredNtscExact)
  sample : v.videocapSamplePresent = true → v.videocapSample ≤ 2
  cropH : v.videocapCropHPresent = true → v.videocapCropH ≤ 4095
  cropV : v.videocapCropVPresent = true → v.videocapCropV ≤ 4095
  phase : v.videocapPhasePresent = true →
    -255 ≤ v.videocapPhase.toInt ∧ v.videocapPhase.toInt ≤ 255
  c28Phase : v.videocapC28PhasePresent = true →
    -896 ≤ v.videocapC28Phase.toInt ∧ v.videocapC28Phase.toInt ≤ 895
  width : v.videocapWidthPresent = true →
    v.videocapWidth ≥ 256 ∧ v.videocapWidth ≤ 1280 ∧ v.videocapWidth &&& 15 = 0
  height : v.videocapHeightPresent = true → v.videocapHeight ≥ 100 ∧ v.videocapHeight ≤ 1024
  scanlineMode : v.scanlineModePresent = true → v.scanlineMode ≤ 3
  scanlineParity : v.scanlineParityPresent = true → v.scanlineParity ≤ 1
  gamma : v.gammaPresent = true → v.gamma ≥ 20 ∧ v.gamma ≤ 500
  fastRam : v.fastRamPresent = true → v.fastRamInvalid = false
  mac : v.mac ≠ [] → StoredByParser (·.mac) v.mac
  hdf : v.hdf ≠ [] → StoredByParser (·.hdf) v.hdf
  audioCeilingPaula : v.audioCeilingPaulaPresent = true →
    v.audioCeilingPaula ≥ 1 ∧ v.audioCeilingPaula ≤ 4095
  audioCeilingAx : v.audioCeilingAxPresent = true →
    v.audioCeilingAx ≥ 1 ∧ v.audioCeilingAx ≤ 4095

/-- No key has been read into the record yet. -/
structure Unread (d : ZzcfgValues) : Prop where
  profile : d.videocapProfilePresent = false
  sample : d.videocapSamplePresent = false
  cropH : d.videocapCropHPresent = false
  cropV : d.videocapCropVPresent = false
  phase : d.videocapPhasePresent = false
  c28Phase : d.videocapC28PhasePresent = false
  width : d.videocapWidthPresent = false
  height : d.videocapHeightPresent = false
  scanlineMode : d.scanlineModePresent = false
  scanlineParity : d.scanlineParityPresent = false
  gamma : d.gammaPresent = false
  fastRam : d.fastRamPresent = false
  fastRamInvalid : d.fastRamInvalid = false
  mac : d.mac = []
  hdf : d.hdf = []
  audioActive : d.audioActivePresent = false
  audioBaseline : d.audioBaselinePresent = false
  audioCeilingPaula : d.audioCeilingPaulaPresent = false
  audioCeilingAx : d.audioCeilingAxPresent = false
  audioScene : ∀ i f, (d.audioScene i).mask f = false

theorem defaultValues_unread (useProfileKey : Bool) (caps mode parity gamma : UInt16) :
    Unread (defaultValues useProfileKey caps mode parity gamma) := by
  constructor <;> intros <;> rfl

/-- The values behind absent keys are those of the record `d`. -/
structure AbsentFrom (d v : ZzcfgValues) : Prop where
  profile : v.videocapProfilePresent = false → v.videocapProfile = d.videocapProfile
  sample : v.videocapSamplePresent = false → v.videocapSample = d.videocapSample
  cropH : v.videocapCropHPresent = false → v.videocapCropH = d.videocapCropH
  cropV : v.videocapCropVPresent = false → v.videocapCropV = d.videocapCropV
  phase : v.videocapPhasePresent = false → v.videocapPhase = d.videocapPhase
  c28Phase : v.videocapC28PhasePresent = false → v.videocapC28Phase = d.videocapC28Phase
  width : v.videocapWidthPresent = false → v.videocapWidth = d.videocapWidth
  height : v.videocapHeightPresent = false → v.videocapHeight = d.videocapHeight
  scanlineMode : v.scanlineModePresent = false → v.scanlineMode = d.scanlineMode
  scanlineParity : v.scanlineParityPresent = false → v.scanlineParity = d.scanlineParity
  gamma : v.gammaPresent = false → v.gamma = d.gamma
  fastRam : v.fastRamPresent = false → v.fastRam = d.fastRam
  audioActive : v.audioActivePresent = false → v.audioActive = d.audioActive
  audioBaseline : v.audioBaselinePresent = false → v.audioBaseline = d.audioBaseline
  audioCeilingPaula : v.audioCeilingPaulaPresent = false →
    v.audioCeilingPaula = d.audioCeilingPaula
  audioCeilingAx : v.audioCeilingAxPresent = false → v.audioCeilingAx = d.audioCeilingAx
  audioScene : ∀ i f, (v.audioScene i).mask f = false →
    (v.audioScene i).get f = (d.audioScene i).get f

theorem StoredByParser.storedText_mac {value : List Char} (h : StoredByParser (·.mac) value) :
    StoredText macSize value := by
  obtain ⟨text, v, hne, heq⟩ := h
  dsimp only at hne heq
  have := (zzcfgParseText_texts text v).1
  rw [heq] at this
  cases this with
  | inl h => exact absurd h.symm hne
  | inr h => exact h

theorem StoredByParser.storedText_hdf {value : List Char} (h : StoredByParser (·.hdf) value) :
    StoredText hdfSize value := by
  obtain ⟨text, v, hne, heq⟩ := h
  dsimp only at hne heq
  have := (zzcfgParseText_texts text v).2
  rw [heq] at this
  cases this with
  | inl h => exact absurd h.symm hne
  | inr h => exact h

section Fields

theorem fieldCopy_same {dst src : ZzcfgValues} {f : CfgField} (h : FieldAgrees dst src f) :
    fieldCopy dst src f = dst := by
  cases dst
  cases src
  unfold FieldAgrees at h
  unfold fieldCopy
  cases f <;> simp_all

/-- The lines that the writer gives to a field. -/
def fieldLines (v : ZzcfgValues) (f : CfgField) : List (List Char) :=
  match f with
  | .profile => profileLines v
  | .sample =>
    let sample := if v.videocapSample ≤ 2 then v.videocapSample else 0
    [cfgAssign v.videocapSamplePresent "videocap_sample".toList
      (sampleNames.getD sample.toNat [])]
  | .cropH =>
    [cfgAssign v.videocapCropHPresent "videocap_crop_h".toList
      (decimal (v.videocapCropH &&& 4095).toNat)]
  | .cropV =>
    [cfgAssign v.videocapCropVPresent "videocap_crop_v".toList
      (decimal (v.videocapCropV &&& 4095).toNat)]
  | .phaseE7m =>
    [cfgAssign v.videocapPhasePresent "videocap_phase".toList
      (signedDecimal v.videocapPhase.toInt)]
  | .phaseC28 =>
    [cfgAssign v.videocapC28PhasePresent "videocap_c28_phase".toList
      (signedDecimal v.videocapC28Phase.toInt)]
  | .width =>
    [cfgAssign v.videocapWidthPresent "videocap_width".toList (decimal v.videocapWidth.toNat)]
  | .height =>
    [cfgAssign v.videocapHeightPresent "videocap_height".toList (decimal v.videocapHeight.toNat)]
  | .scanMode =>
    [cfgAssign v.scanlineModePresent "scanline_mode".toList
      (decimal (v.scanlineMode &&& 3).toNat)]
  | .scanParity =>
    [cfgAssign v.scanlineParityPresent "scanline_parity".toList
      (decimal (v.scanlineParity &&& 1).toNat)]
  | .gamma =>
    let gamma := if v.gammaPresent then v.gamma else gammaHundredthsIdentity
    [cfgAssign v.gammaPresent "gamma".toList
      (decimal (gamma.toNat / 100) ++ '.' :: twoDigits (gamma.toNat % 100))]
  | .int2 => [cfgAssign true "int2".toList (onOff v.int2)]
  | .fastRam => fastRamLines v
  | .offscreen => [cfgAssign true "offscreen_bitmaps".toList (onOff v.offscreenBitmaps)]
  | .overlay => [cfgAssign true "video_overlay".toList (onOff v.videoOverlay)]
  | .mac =>
    [cfgAssign (!v.mac.isEmpty) "mac".toList
      (if v.mac.isEmpty then "68:82:F2:00:00:01".toList else v.mac)]
  | .hdf =>
    [cfgAssign (!v.hdf.isEmpty) "hdf".toList (if v.hdf.isEmpty then hdfDefault else v.hdf)]

/-- The fields in the order of the writer. -/
def writtenFields : List CfgField :=
  [.profile, .sample, .cropH, .cropV, .phaseE7m, .phaseC28, .width, .height, .scanMode,
    .scanParity, .gamma, .int2, .fastRam, .offscreen, .overlay, .mac, .hdf]

theorem mainLines_eq (v : ZzcfgValues) :
    mainLines v = headerLine :: writtenFields.flatMap (fieldLines v) := by
  unfold mainLines writtenFields nativeLines systemLines
  simp only [List.flatMap_cons, List.flatMap_nil, List.append_nil, fieldLines]
  simp only [List.cons_append, List.nil_append]

variable {v d : ZzcfgValues} {s : ParseState}

/-- Each key before those of the scenes is found under its own name. -/
theorem zzcfgFindKey_main (i : Nat) {name : List Char} {key : ZzcfgKey}
    (h : (zzcfgKeys.take 24)[i]? = some (name, key)) :
    zzcfgFindKey name = some key := by
  have : ∀ entry ∈ zzcfgKeys.take 24, zzcfgFindKey entry.1 = some entry.2 := by decide +kernel
  exact this _ (List.mem_of_getElem? h)

theorem parse_optional {f : CfgField} {present : Bool} {name value : List Char} (key : ZzcfgKey)
    (hs : FieldAgrees s.values d f) (hname : PlainName name)
    (hkey : zzcfgFindKey name = some key) (hvalue : present = true → Token value)
    (hpresent : present = true → (zzcfgApplyKey key value s).values = fieldCopy s.values v f)
    (habsent : present = false → FieldAgrees d v f) :
    (zzcfgParseLines [cfgAssign present name value] s).values = fieldCopy s.values v f := by
  have hline := zzcfgParseLine_optional hname hkey hvalue s
  unfold zzcfgParseLines zzcfgParseLines
  rw [hline]
  cases present with
  | true => exact hpresent rfl
  | false =>
    rw [if_neg (by simp)]
    exact (fieldCopy_same (hs.trans (habsent rfl))).symm

theorem token_decimal (n : UInt16) : Token (decimal n.toNat) :=
  Token.of_printed (printed_decimal n.toNat_lt) (decimal_ne_nil _)

theorem token_signedDecimal (n : Int16) : Token (signedDecimal n.toInt) := by
  apply Token.of_printed (printed_signedDecimal n)
  unfold signedDecimal
  split
  . simp
  . exact decimal_ne_nil _

theorem token_onOff (b : Bool) : Token (onOff b) :=
  Token.of_printed (printed_onOff b) (by cases b <;> decide)

theorem token_gamma (gamma : UInt16) :
    Token (decimal (gamma.toNat / 100) ++ '.' :: twoDigits (gamma.toNat % 100)) :=
  Token.of_printed (printed_gamma gamma) (by simp)

theorem StoredText.token {size : Nat} {value : List Char} (h : StoredText size value)
    (hne : value ≠ []) :
    Token value where
  chars := h.chars
  nonempty := hne
  length := h.copied

theorem parse_sample (hs : FieldAgrees s.values d .sample) (hv : Admitted v) (hd : Unread d)
    (habs : AbsentFrom d v) :
    (zzcfgParseLines (fieldLines v .sample) s).values = fieldCopy s.values v .sample := by
  have hcases : v.videocapSamplePresent = true →
      v.videocapSample = 0 ∨ v.videocapSample = 1 ∨ v.videocapSample = 2 := by
    intro hp
    have hle : v.videocapSample.toNat ≤ 2 := hv.sample hp
    have : ∀ n : Nat, n ≤ 2 → n = 0 ∨ n = 1 ∨ n = 2 := by omega
    rcases this _ hle with h | h | h
    . exact Or.inl (UInt16.toNat.inj h)
    . exact Or.inr (Or.inl (UInt16.toNat.inj h))
    . exact Or.inr (Or.inr (UInt16.toNat.inj h))
  unfold fieldLines
  apply parse_optional .videocapSample hs (by decide) (zzcfgFindKey_main 2 rfl)
  . intro hp
    rcases hcases hp with h | h | h <;> rw [h] <;>
      exact Token.of_printed (by decide) (by decide)
  . intro hp
    unfold fieldCopy
    rcases hcases hp with h | h | h <;> rw [h, hp] <;> rfl
  . intro hp
    exact ⟨(habs.sample hp).symm, hd.sample.trans hp.symm⟩

theorem parse_cropH (hs : FieldAgrees s.values d .cropH) (hv : Admitted v) (hd : Unread d)
    (habs : AbsentFrom d v) :
    (zzcfgParseLines (fieldLines v .cropH) s).values = fieldCopy s.values v .cropH := by
  unfold fieldLines
  apply parse_optional .videocapCropH hs (by decide) (zzcfgFindKey_main 4 rfl)
  . intro _
    exact token_decimal _
  . intro hp
    unfold zzcfgApplyKey fieldCopy
    rw [zzcfgParseU12_decimal (hv.cropH hp), hp]
  . intro hp
    exact ⟨(habs.cropH hp).symm, hd.cropH.trans hp.symm⟩

theorem parse_cropV (hs : FieldAgrees s.values d .cropV) (hv : Admitted v) (hd : Unread d)
    (habs : AbsentFrom d v) :
    (zzcfgParseLines (fieldLines v .cropV) s).values = fieldCopy s.values v .cropV := by
  unfold fieldLines
  apply parse_optional .videocapCropV hs (by decide) (zzcfgFindKey_main 5 rfl)
  . intro _
    exact token_decimal _
  . intro hp
    unfold zzcfgApplyKey fieldCopy
    rw [zzcfgParseU12_decimal (hv.cropV hp), hp]
  . intro hp
    exact ⟨(habs.cropV hp).symm, hd.cropV.trans hp.symm⟩

theorem parse_phaseE7m (hs : FieldAgrees s.values d .phaseE7m) (hv : Admitted v) (hd : Unread d)
    (habs : AbsentFrom d v) :
    (zzcfgParseLines (fieldLines v .phaseE7m) s).values = fieldCopy s.values v .phaseE7m := by
  unfold fieldLines
  apply parse_optional .videocapPhase hs (by decide) (zzcfgFindKey_main 6 rfl)
  . intro _
    exact token_signedDecimal _
  . intro hp
    unfold zzcfgApplyKey fieldCopy
    rw [zzcfgParsePhase_signed (hv.phase hp).1 (hv.phase hp).2, hp]
  . intro hp
    exact ⟨(habs.phase hp).symm, hd.phase.trans hp.symm⟩

theorem parse_phaseC28 (hs : FieldAgrees s.values d .phaseC28) (hv : Admitted v) (hd : Unread d)
    (habs : AbsentFrom d v) :
    (zzcfgParseLines (fieldLines v .phaseC28) s).values = fieldCopy s.values v .phaseC28 := by
  unfold fieldLines
  apply parse_optional .videocapC28Phase hs (by decide) (zzcfgFindKey_main 7 rfl)
  . intro _
    exact token_signedDecimal _
  . intro hp
    unfold zzcfgApplyKey fieldCopy
    rw [zzcfgParsePhase_signed (hv.c28Phase hp).1 (hv.c28Phase hp).2, hp]
  . intro hp
    exact ⟨(habs.c28Phase hp).symm, hd.c28Phase.trans hp.symm⟩

theorem parse_width (hs : FieldAgrees s.values d .width) (hv : Admitted v) (hd : Unread d)
    (habs : AbsentFrom d v) :
    (zzcfgParseLines (fieldLines v .width) s).values = fieldCopy s.values v .width := by
  unfold fieldLines
  apply parse_optional .videocapWidth hs (by decide) (zzcfgFindKey_main 8 rfl)
  . intro _
    exact token_decimal _
  . intro hp
    unfold zzcfgApplyKey fieldCopy
    have h := hv.width hp
    rw [zzcfgParseU16_decimal]
    dsimp only
    rw [if_pos (by simp [h.1, h.2.1, h.2.2]), hp]
  . intro hp
    exact ⟨(habs.width hp).symm, hd.width.trans hp.symm⟩

theorem parse_height (hs : FieldAgrees s.values d .height) (hv : Admitted v) (hd : Unread d)
    (habs : AbsentFrom d v) :
    (zzcfgParseLines (fieldLines v .height) s).values = fieldCopy s.values v .height := by
  unfold fieldLines
  apply parse_optional .videocapHeight hs (by decide) (zzcfgFindKey_main 9 rfl)
  . intro _
    exact token_decimal _
  . intro hp
    unfold zzcfgApplyKey fieldCopy
    have h := hv.height hp
    rw [zzcfgParseU16_decimal]
    dsimp only
    rw [if_pos (by simp [h.1, h.2]), hp]
  . intro hp
    exact ⟨(habs.height hp).symm, hd.height.trans hp.symm⟩

theorem parse_scanMode (hs : FieldAgrees s.values d .scanMode) (hv : Admitted v) (hd : Unread d)
    (habs : AbsentFrom d v) :
    (zzcfgParseLines (fieldLines v .scanMode) s).values = fieldCopy s.values v .scanMode := by
  unfold fieldLines
  apply parse_optional .scanlineMode hs (by decide) (zzcfgFindKey_main 11 rfl)
  . intro _
    exact token_decimal _
  . intro hp
    have hle : v.scanlineMode.toNat ≤ 3 := hv.scanlineMode hp
    have hcases : v.scanlineMode = 0 ∨ v.scanlineMode = 1 ∨ v.scanlineMode = 2 ∨
        v.scanlineMode = 3 := by
      have : ∀ n : Nat, n ≤ 3 → n = 0 ∨ n = 1 ∨ n = 2 ∨ n = 3 := by omega
      rcases this _ hle with h | h | h | h
      . exact Or.inl (UInt16.toNat.inj h)
      . exact Or.inr (Or.inl (UInt16.toNat.inj h))
      . exact Or.inr (Or.inr (Or.inl (UInt16.toNat.inj h)))
      . exact Or.inr (Or.inr (Or.inr (UInt16.toNat.inj h)))
    unfold fieldCopy
    rcases hcases with h | h | h | h <;> rw [h, hp] <;> rfl
  . intro hp
    exact ⟨(habs.scanlineMode hp).symm, hd.scanlineMode.trans hp.symm⟩

theorem parse_scanParity (hs : FieldAgrees s.values d .scanParity) (hv : Admitted v)
    (hd : Unread d) (habs : AbsentFrom d v) :
    (zzcfgParseLines (fieldLines v .scanParity) s).values =
      fieldCopy s.values v .scanParity := by
  unfold fieldLines
  apply parse_optional .scanlineParity hs (by decide) (zzcfgFindKey_main 12 rfl)
  . intro _
    exact token_decimal _
  . intro hp
    have hle : v.scanlineParity.toNat ≤ 1 := hv.scanlineParity hp
    have hcases : v.scanlineParity = 0 ∨ v.scanlineParity = 1 := by
      have : ∀ n : Nat, n ≤ 1 → n = 0 ∨ n = 1 := by omega
      rcases this _ hle with h | h
      . exact Or.inl (UInt16.toNat.inj h)
      . exact Or.inr (UInt16.toNat.inj h)
    unfold fieldCopy
    rcases hcases with h | h <;> rw [h, hp] <;> rfl
  . intro hp
    exact ⟨(habs.scanlineParity hp).symm, hd.scanlineParity.trans hp.symm⟩

theorem parse_gamma (hs : FieldAgrees s.values d .gamma) (hv : Admitted v) (hd : Unread d)
    (habs : AbsentFrom d v) :
    (zzcfgParseLines (fieldLines v .gamma) s).values = fieldCopy s.values v .gamma := by
  unfold fieldLines
  apply parse_optional .gamma hs (by decide) (zzcfgFindKey_main 13 rfl)
  . intro _
    exact token_gamma _
  . intro hp
    have h := hv.gamma hp
    unfold zzcfgApplyKey fieldCopy
    rw [hp, if_pos rfl, zzgammaParseValue_text h.1 h.2]
    dsimp only
    rw [UInt16.ofNat_toNat]
  . intro hp
    exact ⟨(habs.gamma hp).symm, hd.gamma.trans hp.symm⟩

theorem parse_int2 (hs : FieldAgrees s.values d .int2) :
    (zzcfgParseLines (fieldLines v .int2) s).values = fieldCopy s.values v .int2 := by
  unfold fieldLines
  apply parse_optional .int2 hs (by decide) (zzcfgFindKey_main 14 rfl)
  . intro _
    exact token_onOff _
  . intro _
    unfold zzcfgApplyKey fieldCopy
    rw [zzcfgParseSwitch_onOff]
  . intro h
    contradiction

theorem parse_offscreen (hs : FieldAgrees s.values d .offscreen) :
    (zzcfgParseLines (fieldLines v .offscreen) s).values = fieldCopy s.values v .offscreen := by
  unfold fieldLines
  apply parse_optional .offscreenBitmaps hs (by decide) (zzcfgFindKey_main 16 rfl)
  . intro _
    exact token_onOff _
  . intro _
    unfold zzcfgApplyKey fieldCopy
    rw [zzcfgParseSwitch_onOff]
  . intro h
    contradiction

theorem parse_overlay (hs : FieldAgrees s.values d .overlay) :
    (zzcfgParseLines (fieldLines v .overlay) s).values = fieldCopy s.values v .overlay := by
  unfold fieldLines
  apply parse_optional .videoOverlay hs (by decide) (zzcfgFindKey_main 17 rfl)
  . intro _
    exact token_onOff _
  . intro _
    unfold zzcfgApplyKey fieldCopy
    rw [zzcfgParseSwitch_onOff]
  . intro h
    contradiction

theorem parse_mac (hs : FieldAgrees s.values d .mac) (hv : Admitted v) (hd : Unread d) :
    (zzcfgParseLines (fieldLines v .mac) s).values = fieldCopy s.values v .mac := by
  unfold fieldLines
  apply parse_optional .mac hs (by decide) (zzcfgFindKey_main 18 rfl)
  . intro hp
    have hne : v.mac ≠ [] := by simpa using hp
    rw [if_neg (by simpa using hne)]
    exact (hv.mac hne).storedText_mac.token hne
  . intro hp
    have hne : v.mac ≠ [] := by simpa using hp
    unfold zzcfgApplyKey fieldCopy
    rw [if_neg (by simpa using hne)]
    dsimp only
    rw [if_pos (hv.mac hne).storedText_mac.fits]
  . intro hp
    have hnil : v.mac = [] := by simpa using hp
    exact hd.mac.trans hnil.symm

theorem parse_hdf (hs : FieldAgrees s.values d .hdf) (hv : Admitted v) (hd : Unread d) :
    (zzcfgParseLines (fieldLines v .hdf) s).values = fieldCopy s.values v .hdf := by
  unfold fieldLines
  apply parse_optional .hdf hs (by decide) (zzcfgFindKey_main 19 rfl)
  . intro hp
    have hne : v.hdf ≠ [] := by simpa using hp
    rw [if_neg (by simpa using hne)]
    exact (hv.hdf hne).storedText_hdf.token hne
  . intro hp
    have hne : v.hdf ≠ [] := by simpa using hp
    unfold zzcfgApplyKey fieldCopy
    rw [if_neg (by simpa using hne)]
    dsimp only
    rw [if_pos (hv.hdf hne).storedText_hdf.fits]
  . intro hp
    have hnil : v.hdf = [] := by simpa using hp
    exact hd.hdf.trans hnil.symm

theorem parse_fastRam (hs : FieldAgrees s.values d .fastRam) (hd : Unread d)
    (habs : AbsentFrom d v) (hinvalid : v.fastRamInvalid = false) :
    (zzcfgParseLines (fieldLines v .fastRam) s).values = fieldCopy s.values v .fastRam := by
  unfold fieldLines fastRamLines
  dsimp only
  split
  . next hp =>
    have hp : v.fastRamPresent = true := by
      simp only [Bool.and_eq_true] at hp
      exact hp.1
    have hs0 : s.values.fastRamInvalid = false := hs.2.2.trans hd.fastRamInvalid
    have hline := zzcfgParseLine_fastRamAssign v.fastRam s
    unfold fastRamKey at hline
    unfold zzcfgParseLines zzcfgParseLines
    rw [hline]
    unfold zzcfgApplyKey fieldCopy
    rw [zzcfgParseSwitch_onOff]
    dsimp only
    rw [if_neg (by simp [hs0]), hp, hinvalid, ← hs0]
  . next hp =>
    have hp : v.fastRamPresent = false := by simpa [hinvalid] using hp
    unfold zzcfgParseLines
    apply Eq.symm
    apply fieldCopy_same
    apply hs.trans
    exact ⟨(habs.fastRam hp).symm, hd.fastRam.trans hp.symm, hd.fastRamInvalid.trans hinvalid.symm⟩

theorem zzcfgProfileSanitize_supported {profile caps : UInt16}
    (h : zzcfgProfileSupported profile caps = true) :
    zzcfgProfileSanitize profile caps = profile ∧ profile.toNat < Vcap.profileCount := by
  have hsanitize : zzcfgProfileSanitize profile caps = profile := by
    unfold zzcfgProfileSanitize
    rw [h]
    unfold zzcfgProfileSupported at h
    cases hp : zzcfgProfiles[profile.toNat]? with
    | some p => rfl
    | none =>
      rw [hp] at h
      contradiction
  refine ⟨hsanitize, ?_⟩
  have := zzcfgProfileSanitize_lt profile caps
  rwa [hsanitize] at this

/-- The three legacy keys together stand for each of the six legacy profiles. -/
theorem parse_legacyProfile {profile : UInt16} (h : profile ≤ Vcap.filteredNtscExact)
    (s : ParseState) :
    let legacy := zzcfgProfileToLegacy profile
    (zzcfgParseLines
      [cfgAssign true "videocap_mode".toList
          (if legacy.palMode != 0 then "pal".toList else "800x600".toList),
        cfgAssign true "videocap_shres".toList
          (if legacy.full != 0 then "full".toList else "filter".toList),
        cfgAssign true "nonstandard_vsync".toList
          (vsyncNames.getD legacy.vsync.toNat [])] s).values =
      { s.values with videocapProfile := profile, videocapProfilePresent := true } := by
  intro legacy
  have hprofile : profile = 0 ∨ profile = 1 ∨ profile = 2 ∨ profile = 3 ∨ profile = 4 ∨
      profile = 5 := by
    have hle : profile.toNat ≤ 5 := h
    have : ∀ n : Nat, n ≤ 5 → n = 0 ∨ n = 1 ∨ n = 2 ∨ n = 3 ∨ n = 4 ∨ n = 5 := by omega
    rcases this _ hle with h | h | h | h | h | h
    . exact Or.inl (UInt16.toNat.inj h)
    . exact Or.inr (Or.inl (UInt16.toNat.inj h))
    . exact Or.inr (Or.inr (Or.inl (UInt16.toNat.inj h)))
    . exact Or.inr (Or.inr (Or.inr (Or.inl (UInt16.toNat.inj h))))
    . exact Or.inr (Or.inr (Or.inr (Or.inr (Or.inl (UInt16.toNat.inj h)))))
    . exact Or.inr (Or.inr (Or.inr (Or.inr (Or.inr (UInt16.toNat.inj h)))))
  have hmode : Token (if legacy.palMode != 0 then "pal".toList else "800x600".toList) := by
    split <;> exact Token.of_printed (by decide) (by decide)
  have hshres : Token (if legacy.full != 0 then "full".toList else "filter".toList) := by
    split <;> exact Token.of_printed (by decide) (by decide)
  have hvsync : Token (vsyncNames.getD legacy.vsync.toNat []) := by
    rcases hprofile with h | h | h | h | h | h <;> subst h <;>
      exact Token.of_printed (by decide) (by decide)
  have n1 : PlainName "videocap_mode".toList := by decide
  have n2 : PlainName "videocap_shres".toList := by decide
  have n3 : PlainName "nonstandard_vsync".toList := by decide
  have e1 := zzcfgParseLine_cfgAssign .videocapMode n1 (zzcfgFindKey_main 1 rfl) hmode s
  have e2 := zzcfgParseLine_cfgAssign .videocapShres n2 (zzcfgFindKey_main 3 rfl) hshres
  have e3 := zzcfgParseLine_cfgAssign .nonstandardVsync n3 (zzcfgFindKey_main 10 rfl) hvsync
  unfold zzcfgParseLines zzcfgParseLines zzcfgParseLines zzcfgParseLines
  rw [e1, e2, e3]
  rcases hprofile with h | h | h | h | h | h <;> subst h <;> rfl

theorem parse_profile (hs : FieldAgrees s.values d .profile) (hv : Admitted v) (hd : Unread d)
    (habs : AbsentFrom d v) :
    (zzcfgParseLines (fieldLines v .profile) s).values = fieldCopy s.values v .profile := by
  unfold fieldLines profileLines
  dsimp only
  cases hp : v.videocapProfilePresent with
  | false =>
    have hsame : fieldCopy s.values v .profile = s.values := by
      apply fieldCopy_same
      apply hs.trans
      exact ⟨(habs.profile hp).symm, hd.profile.trans hp.symm⟩
    have hcomment := fun name value s =>
      zzcfgParseLine_comment (lineContent_cfgAssign_absent name value) s
    rw [hsame]
    split
    . unfold zzcfgParseLines zzcfgParseLines
      rw [hcomment]
    . unfold zzcfgParseLines zzcfgParseLines zzcfgParseLines zzcfgParseLines
      rw [hcomment, hcomment, hcomment]
  | true =>
    have h := hv.profile hp
    have hsanitize := zzcfgProfileSanitize_supported h.1
    have htarget : fieldCopy s.values v .profile =
        { s.values with
          videocapProfile := v.videocapProfile
          videocapProfilePresent := true } := by
      unfold fieldCopy
      rw [hp]
    rw [hsanitize.1, htarget]
    split
    . obtain ⟨p, hget, hne, hparse⟩ := zzcfgParseProfile_name hsanitize.2
      have hprinted : ∀ p ∈ zzcfgProfiles, Printed p.name := by decide
      rw [hget]
      dsimp only
      unfold zzcfgParseLines zzcfgParseLines
      rw [zzcfgParseLine_cfgAssign .videocapProfile (by decide) (zzcfgFindKey_main 0 rfl)
        (Token.of_printed (hprinted p (List.mem_of_getElem? hget)) hne)]
      unfold zzcfgApplyKey
      dsimp only
      rw [hparse]
    . next huse =>
      exact parse_legacyProfile (h.2 (by simpa using huse)) s

/-- What the lines of one field do to a record in which it is unread. -/
theorem parse_field (f : CfgField) (hs : FieldAgrees s.values d f) (hv : Admitted v)
    (hd : Unread d) (habs : AbsentFrom d v) (hinvalid : v.fastRamInvalid = false) :
    (zzcfgParseLines (fieldLines v f) s).values = fieldCopy s.values v f := by
  cases f with
  | profile => exact parse_profile hs hv hd habs
  | sample => exact parse_sample hs hv hd habs
  | scanMode => exact parse_scanMode hs hv hd habs
  | scanParity => exact parse_scanParity hs hv hd habs
  | cropH => exact parse_cropH hs hv hd habs
  | cropV => exact parse_cropV hs hv hd habs
  | phaseE7m => exact parse_phaseE7m hs hv hd habs
  | phaseC28 => exact parse_phaseC28 hs hv hd habs
  | width => exact parse_width hs hv hd habs
  | height => exact parse_height hs hv hd habs
  | int2 => exact parse_int2 hs
  | mac => exact parse_mac hs hv hd
  | hdf => exact parse_hdf hs hv hd
  | offscreen => exact parse_offscreen hs
  | overlay => exact parse_overlay hs
  | fastRam => exact parse_fastRam hs hd habs hinvalid
  | gamma => exact parse_gamma hs hv hd habs

def copyFields (dst src : ZzcfgValues) (fields : List CfgField) : ZzcfgValues :=
  SettingsState.copyDirty (fun _ => true) dst src fields

theorem parse_fields {fields : List CfgField} (hnodup : fields.Nodup)
    (hs : ∀ f ∈ fields, FieldAgrees s.values d f) (hv : Admitted v) (hd : Unread d)
    (habs : AbsentFrom d v) (hinvalid : v.fastRamInvalid = false) :
    (zzcfgParseLines (fields.flatMap (fieldLines v)) s).values =
      copyFields s.values v fields := by
  induction fields generalizing s with
  | nil => rfl
  | cons f fields ih =>
    have hfield := parse_field f (hs f (by simp)) hv hd habs hinvalid
    have hnodup := List.nodup_cons.mp hnodup
    rw [List.flatMap_cons, zzcfgParseLines_append]
    rw [ih hnodup.2]
    . rw [hfield]
      rfl
    . intro g hg
      rw [hfield]
      apply (fieldCopy_other s.values v _).trans (hs g (by simp [hg]))
      intro hgf
      subst hgf
      exact hnodup.1 hg

theorem zzcfgParseLine_header (s : ParseState) : zzcfgParseLine headerLine s = s :=
  zzcfgParseLine_comment (by decide) s

/-- All settings but the audio keys come back. -/
theorem parse_mainLines (hs : s.values = d) (hv : Admitted v) (hd : Unread d)
    (habs : AbsentFrom d v) (hinvalid : v.fastRamInvalid = false) :
    (∀ f, FieldAgrees (zzcfgParseLines (mainLines v) s).values v f) ∧
    RestAgrees (zzcfgParseLines (mainLines v) s).values d := by
  have hmem : ∀ f, f ∈ writtenFields := by
    intro f
    cases f <;> decide
  rw [mainLines_eq]
  unfold zzcfgParseLines
  rw [zzcfgParseLine_header]
  rw [parse_fields (d := d) (by decide) (fun f _ => by rw [hs]; exact FieldAgrees.refl d f) hv hd
    habs hinvalid]
  have hspec := SettingsState.copyDirty_spec (fun _ => true) s.values v writtenFields
  refine ⟨fun f => hspec.1 f rfl (hmem f), ?_⟩
  rw [hs] at hspec ⊢
  exact hspec.2.2

end Fields

end ZZCfg
