import ZZ9000.Config.AudioRoundTrip

/-!
This module contains what every parsed record satisfies, and what writing such a record and parsing
the text again yields.
-/

namespace ZZCfg

section Keys

/-- A relation of parser states that the branches of the keys keep. -/
structure KeptByKeys (R : ParseState → ParseState → Prop) : Prop where
  invalidate : ∀ s t, R s t → R s.fastRamInvalidate t.fastRamInvalidate
  apply : ∀ key value s t, R s t → R (zzcfgApplyKey key value s) (zzcfgApplyKey key value t)

namespace KeptByKeys

variable {R : ParseState → ParseState → Prop} {s t : ParseState}

/-- The branches of a line do not depend on what has been read before it. -/
theorem line (hR : KeptByKeys R) (line : List Char) (h : R s t) :
    R (zzcfgParseLine line s) (zzcfgParseLine line t) := by
  have hpoison : ∀ (b : Bool) (s t : ParseState), R s t →
      R (if b = true then s.fastRamInvalidate else s)
        (if b = true then t.fastRamInvalidate else t) := by
    intro b s t h
    cases b with
    | true => exact hR.invalidate s t h
    | false => exact h
  have hlen := hpoison (127 < (lineContent line).length && isFastRamLine line) s t h
  unfold zzcfgParseLine
  dsimp only
  generalize (if (127 < (lineContent line).length && isFastRamLine line) = true then
    s.fastRamInvalidate else s) = s' at hlen ⊢
  generalize (if (127 < (lineContent line).length && isFastRamLine line) = true then
    t.fastRamInvalidate else t) = t' at hlen ⊢
  by_cases hassign : ((copyWhile isKeyChar (keySize - 1) (line.dropWhile zzcfgIsSpace)).1.isEmpty ||
      decide (((copyWhile isKeyChar (keySize - 1) (line.dropWhile zzcfgIsSpace)).2.dropWhile
        zzcfgIsSpace).head? ≠ some '=')) = true
  . rw [if_pos hassign, if_pos hassign]
    exact hpoison _ _ _ hlen
  . rw [if_neg hassign, if_neg hassign]
    split
    . exact hpoison _ _ _ hlen
    . split
      . exact hR.invalidate _ _ hlen
      . split
        . exact hR.apply _ _ _ _ hlen
        . exact hlen

theorem lines (hR : KeptByKeys R) (lines : List (List Char)) (h : R s t) :
    R (zzcfgParseLines lines s) (zzcfgParseLines lines t) := by
  induction lines generalizing s t with
  | nil => exact h
  | cons line lines ih =>
    unfold zzcfgParseLines
    exact ih (hR.line line h)

end KeptByKeys

end Keys

section Bounds

theorem zzcfgParseUnsigned_go_le {limit value n : Nat} {s : List Char} (hvalue : value ≤ limit)
    (h : zzcfgParseUnsigned.go limit value s = some n) :
    n ≤ limit := by
  induction s generalizing value with
  | nil =>
    cases h
    exact hvalue
  | cons c s ih =>
    unfold zzcfgParseUnsigned.go at h
    split at h
    . contradiction
    . dsimp only at h
      split at h
      . contradiction
      . next hle => exact ih (by omega) h

theorem zzcfgParseUnsigned_le {limit : Nat} {s : List Char} {n : UInt16} (hlimit : limit < 65536)
    (h : zzcfgParseUnsigned limit s = some n) :
    n.toNat ≤ limit := by
  unfold zzcfgParseUnsigned at h
  split at h
  . contradiction
  . obtain ⟨m, hgo, hm⟩ := Option.map_eq_some_iff.mp h
    have hle := zzcfgParseUnsigned_go_le (Nat.zero_le limit) hgo
    rw [← hm, UInt16.toNat_ofNat_of_lt' (by unfold UInt16.size; omega)]
    exact hle

theorem zzcfgParseU12_le {s : List Char} {n : UInt16} (h : zzcfgParseU12 s = some n) :
    n ≤ 4095 :=
  UInt16.le_iff_toNat_le.mpr (zzcfgParseUnsigned_le (by decide) h)

theorem zzcfgParsePhase_bounds {s : List Char} {min max : Int} {n : Int16} (hmin : -256 * 4 ≤ min)
    (hmax : max ≤ 256 * 4) (h : zzcfgParsePhase s min max = some n) :
    min ≤ n.toInt ∧ n.toInt ≤ max := by
  unfold zzcfgParsePhase at h
  dsimp only at h
  split at h
  . contradiction
  . next magnitude _ =>
    generalize (if (s.head? == some '-') = true then -(magnitude.toNat : Int)
      else magnitude.toNat) = value at h
    split at h
    . contradiction
    . next hrange =>
      simp only [Bool.or_eq_true, decide_eq_true_eq, not_or, Int.not_lt] at hrange
      cases h
      rw [Int16.toInt_ofInt_of_le (by omega) (by omega)]
      exact hrange

theorem zzgammaParseValue_bounds {s : List Char} {n : Nat} (h : zzgammaParseValue s = some n) :
    20 ≤ n ∧ n ≤ 500 := by
  unfold zzgammaParseValue at h
  split at h
  . contradiction
  . split at h
    . contradiction
    . next scan _ =>
      split at h
      . contradiction
      . dsimp only at h
        generalize scan.whole * 100 + (if (scan.digits == 1) = true then scan.frac * 10
          else scan.frac) = value at h
        split at h
        . contradiction
        . next hrange =>
          unfold gammaHundredthsMin gammaHundredthsMax at hrange
          simp only [Bool.or_eq_true, decide_eq_true_eq, not_or, Nat.not_lt] at hrange
          cases h
          exact hrange

end Bounds

/-- What the parser keeps of a record that it reads over the record `d`. -/
structure ReadOver (d v : ZzcfgValues) : Prop where
  useVideocapProfileKey : v.useVideocapProfileKey = d.useVideocapProfileKey
  firmwareCapabilities : v.firmwareCapabilities = d.firmwareCapabilities
  absent : AbsentFrom d v
  sample : v.videocapSamplePresent = true → v.videocapSample ≤ 2
  cropH : v.videocapCropHPresent = true → v.videocapCropH ≤ 4095
  cropV : v.videocapCropVPresent = true → v.videocapCropV ≤ 4095
  phase : v.videocapPhasePresent = true →
    -255 ≤ v.videocapPhase.toInt ∧ v.videocapPhase.toInt ≤ 255
  c28Phase : v.videocapC28PhasePresent = true →
    -896 ≤ v.videocapC28Phase.toInt ∧ v.videocapC28Phase.toInt ≤ 895
  width : v.videocapWidthPresent = true →
    v.videocapWidth ≥ 256 ∧ v.videocapWidth ≤ 1280 ∧ v.videocapWidth &&& 15 = 0
  height : v.videocapHeightPresent = true → v.videocapHeight ≥ 100 ∧ v.videocapHeight ≤ 1024
  scanlineMode : v.scanlineModePresent = true → v.scanlineMode ≤ 3
  scanlineParity : v.scanlineParityPresent = true → v.scanlineParity ≤ 1
  gamma : v.gammaPresent = true → v.gamma ≥ 20 ∧ v.gamma ≤ 500
  fastRam : v.fastRamPresent = true → v.fastRamInvalid = false
  audioCeilingPaula : v.audioCeilingPaulaPresent = true →
    v.audioCeilingPaula ≥ 1 ∧ v.audioCeilingPaula ≤ 4095
  audioCeilingAx : v.audioCeilingAxPresent = true →
    v.audioCeilingAx ≥ 1 ∧ v.audioCeilingAx ≤ 4095

namespace ReadOver

variable {d v : ZzcfgValues}

theorem of_unread (hd : Unread d) : ReadOver d d where
  useVideocapProfileKey := rfl
  firmwareCapabilities := rfl
  absent := by constructor <;> intros <;> rfl
  sample h := by simp [hd.sample] at h
  cropH h := by simp [hd.cropH] at h
  cropV h := by simp [hd.cropV] at h
  phase h := by simp [hd.phase] at h
  c28Phase h := by simp [hd.c28Phase] at h
  width h := by simp [hd.width] at h
  height h := by simp [hd.height] at h
  scanlineMode h := by simp [hd.scanlineMode] at h
  scanlineParity h := by simp [hd.scanlineParity] at h
  gamma h := by simp [hd.gamma] at h
  fastRam h := by simp [hd.fastRam] at h
  audioCeilingPaula h := by simp [hd.audioCeilingPaula] at h
  audioCeilingAx h := by simp [hd.audioCeilingAx] at h

theorem invalidate (hv : ReadOver d v) (hd : d.fastRam = false) :
    ReadOver d (zzcfgFastRamInvalidate v) :=
  { hv with
    absent := { hv.absent with fastRam := fun _ => hd.symm }
    fastRam := fun h => nomatch h }

theorem invalidateWithheld (hv : ReadOver d v) (hd : d.fastRam = false) (outcome : UInt16) :
    ReadOver d (zzcfgFastRamInvalidateWithheld v outcome) := by
  unfold zzcfgFastRamInvalidateWithheld
  split
  . exact hv.invalidate hd
  . exact hv

theorem setLegacy {s : ParseState} (hs : ReadOver d s.values) (legacy : LegacyKeys) :
    ReadOver d (s.setLegacy legacy).values :=
  { hs with absent := { hs.absent with profile := fun h => nomatch h } }

theorem applyKey (key : ZzcfgKey) (value : List Char) {s : ParseState} (hd : d.fastRam = false)
    (hs : ReadOver d s.values) :
    ReadOver d (zzcfgApplyKey key value s).values := by
  have habsent := hs.absent
  unfold zzcfgApplyKey
  cases key with
  | videocapProfile =>
    dsimp only
    split
    . exact { hs with absent := { habsent with profile := fun h => nomatch h } }
    . exact hs
  | videocapMode =>
    dsimp only
    split
    . exact hs.setLegacy _
    . split
      . exact hs.setLegacy _
      . exact hs
  | videocapSample =>
    have hset : ∀ sample : UInt16, sample ≤ 2 → ReadOver d { s.values with
        videocapSample := sample, videocapSamplePresent := true } := by
      intro sample hle
      exact { hs with
        absent := { habsent with sample := fun h => nomatch h }
        sample := fun _ => hle }
    dsimp only
    split
    . exact hset 0 (by decide)
    . split
      . exact hset 1 (by decide)
      . split
        . exact hset 2 (by decide)
        . exact hs
  | videocapShres =>
    dsimp only
    split
    . exact hs.setLegacy _
    . split
      . exact hs.setLegacy _
      . exact hs
  | videocapCropH =>
    dsimp only
    split
    . next crop hcrop =>
      exact { hs with
        absent := { habsent with cropH := fun h => nomatch h }
        cropH := fun _ => zzcfgParseU12_le hcrop }
    . exact hs
  | videocapCropV =>
    dsimp only
    split
    . next crop hcrop =>
      exact { hs with
        absent := { habsent with cropV := fun h => nomatch h }
        cropV := fun _ => zzcfgParseU12_le hcrop }
    . exact hs
  | videocapPhase =>
    dsimp only
    split
    . next phase hphase =>
      exact { hs with
        absent := { habsent with phase := fun h => nomatch h }
        phase := fun _ => zzcfgParsePhase_bounds (by decide) (by decide) hphase }
    . exact hs
  | videocapC28Phase =>
    dsimp only
    split
    . next phase hphase =>
      exact { hs with
        absent := { habsent with c28Phase := fun h => nomatch h }
        c28Phase := fun _ => zzcfgParsePhase_bounds (by decide) (by decide) hphase }
    . exact hs
  | videocapWidth =>
    dsimp only
    split
    . split
      . next hrange =>
        simp only [Bool.and_eq_true, decide_eq_true_eq, beq_iff_eq] at hrange
        exact { hs with
          absent := { habsent with width := fun h => nomatch h }
          width := fun _ => ⟨hrange.1.1, hrange.1.2, hrange.2⟩ }
      . exact hs
    . exact hs
  | videocapHeight =>
    dsimp only
    split
    . split
      . next hrange =>
        simp only [Bool.and_eq_true, decide_eq_true_eq] at hrange
        exact { hs with
          absent := { habsent with height := fun h => nomatch h }
          height := fun _ => hrange }
      . exact hs
    . exact hs
  | nonstandardVsync =>
    dsimp only
    split
    . exact hs.setLegacy _
    . split
      . exact hs.setLegacy _
      . split
        . exact hs.setLegacy _
        . exact hs
  | scanlineMode =>
    dsimp only
    split
    . next c =>
      split
      . next hc =>
        simp only [Bool.and_eq_true, decide_eq_true_eq] at hc
        have hlow : '0'.toNat ≤ c.toNat := hc.1
        have hhigh : c.toNat ≤ '3'.toNat := hc.2
        have hzero : '0'.toNat = 48 := rfl
        have hthree : '3'.toNat = 51 := rfl
        have hle : UInt16.ofNat (c.toNat - '0'.toNat) ≤ 3 := by
          rw [UInt16.le_iff_toNat_le, UInt16.toNat_ofNat_of_lt' (by unfold UInt16.size; omega)]
          have : (3 : UInt16).toNat = 3 := rfl
          omega
        exact { hs with
          absent := { habsent with scanlineMode := fun h => nomatch h }
          scanlineMode := fun _ => hle }
      . exact hs
    . exact hs
  | scanlineParity =>
    dsimp only
    split
    . next c =>
      split
      . next hc =>
        have hle : UInt16.ofNat (c.toNat - '0'.toNat) ≤ 1 := by
          simp only [Bool.or_eq_true, decide_eq_true_eq] at hc
          cases hc with
          | inl hc =>
            rw [hc]
            decide
          | inr hc =>
            rw [hc]
            decide
        exact { hs with
          absent := { habsent with scanlineParity := fun h => nomatch h }
          scanlineParity := fun _ => hle }
      . exact hs
    . exact hs
  | gamma =>
    dsimp only
    split
    . next hundredths hgamma =>
      have hrange := zzgammaParseValue_bounds hgamma
      have hnat : (UInt16.ofNat hundredths).toNat = hundredths := by
        rw [UInt16.toNat_ofNat_of_lt' (by unfold UInt16.size; omega)]
      have hle : UInt16.ofNat hundredths ≥ 20 ∧ UInt16.ofNat hundredths ≤ 500 := by
        unfold GE.ge
        rw [UInt16.le_iff_toNat_le, UInt16.le_iff_toNat_le, hnat]
        exact hrange
      exact { hs with
        absent := { habsent with gamma := fun h => nomatch h }
        gamma := fun _ => hle }
    . exact hs
  | int2 =>
    dsimp only
    split
    . exact { hs with absent := { habsent with } }
    . exact hs
  | fastRam =>
    dsimp only
    split
    . split
      . exact hs
      . next hinvalid =>
        exact { hs with
          absent := { habsent with fastRam := fun h => nomatch h }
          fastRam := fun _ => by simpa using hinvalid }
    . exact hs.invalidate hd
  | offscreenBitmaps =>
    dsimp only
    split
    . exact { hs with absent := { habsent with } }
    . exact hs
  | videoOverlay =>
    dsimp only
    split
    . exact { hs with absent := { habsent with } }
    . exact hs
  | mac =>
    dsimp only
    split
    . exact { hs with absent := { habsent with } }
    . exact hs
  | hdf =>
    dsimp only
    split
    . exact { hs with absent := { habsent with } }
    . exact hs
  | audioActive =>
    dsimp only
    split
    . exact { hs with absent := { habsent with audioActive := fun h => nomatch h } }
    . exact hs
  | audioBaseline =>
    dsimp only
    split
    . exact { hs with absent := { habsent with audioBaseline := fun h => nomatch h } }
    . exact hs
  | audioCeilingPaula =>
    dsimp only
    split
    . split
      . next hrange =>
        simp only [Bool.and_eq_true, decide_eq_true_eq] at hrange
        exact { hs with
          absent := { habsent with audioCeilingPaula := fun h => nomatch h }
          audioCeilingPaula := fun _ => hrange }
      . exact hs
    . exact hs
  | audioCeilingAx =>
    dsimp only
    split
    . split
      . next hrange =>
        simp only [Bool.and_eq_true, decide_eq_true_eq] at hrange
        exact { hs with
          absent := { habsent with audioCeilingAx := fun h => nomatch h }
          audioCeilingAx := fun _ => hrange }
      . exact hs
    . exact hs
  | audioScene scene field =>
    dsimp only
    unfold zzcfgAudioSceneKey
    split
    . exact hs
    . next packed _ =>
      refine { hs with absent := { habsent with audioScene := ?_ } }
      intro i f
      dsimp only
      by_cases hi : i = scene
      . subst hi
        rw [Function.update_self, AudioScene.set_mask, AudioScene.set_get]
        by_cases hf : f = field
        . subst hf
          rw [Function.update_self]
          intro h
          contradiction
        . rw [Function.update_of_ne hf, if_neg hf]
          exact habsent.audioScene i f
      . rw [Function.update_of_ne hi]
        exact habsent.audioScene i f

/-- A record parsed over one without keys is read over it. -/
theorem parseText (hd : Unread d) (hfast : d.fastRam = false) (text : List Char) :
    ReadOver d (zzcfgParseText text d) := by
  have hkept : KeptByKeys (fun s _ => ReadOver d s.values) := {
    invalidate := fun _ _ hs => hs.invalidate hfast
    apply := fun key value _ _ hs => applyKey key value hfast hs }
  unfold zzcfgParseText
  exact hkept.lines (t := ⟨d, zzcfgProfileToLegacy d.videocapProfile⟩) (splitLines text)
    (of_unread hd)

end ReadOver

section Live

/-- The record with the values that the board tells for absent keys, as they are in `d`. -/
def patchLive (d v : ZzcfgValues) : ZzcfgValues :=
  { v with
    scanlineMode := if v.scanlineModePresent then v.scanlineMode else d.scanlineMode
    scanlineParity := if v.scanlineParityPresent then v.scanlineParity else d.scanlineParity
    gamma := if v.gammaPresent then v.gamma else d.gamma }

def ParseState.patchLive (d : ZzcfgValues) (s : ParseState) : ParseState :=
  { s with values := ZZCfg.patchLive d s.values }

theorem zzcfgApplyKey_patchLive (d : ZzcfgValues) (key : ZzcfgKey) (value : List Char)
    (s : ParseState) :
    zzcfgApplyKey key value (s.patchLive d) = (zzcfgApplyKey key value s).patchLive d := by
  unfold zzcfgApplyKey
  cases key with
  | audioScene scene field =>
    dsimp only
    unfold zzcfgAudioSceneKey
    split <;> rfl
  | fastRam =>
    dsimp only
    split
    . unfold ParseState.patchLive ZZCfg.patchLive
      dsimp only
      split <;> rfl
    . rfl
  | _ =>
    dsimp only
    repeat' (first | rfl | split)

/-- What the board tells for absent keys does not change what the keys of a text say. -/
theorem zzcfgParseText_patchLive (text : List Char) (d v : ZzcfgValues) :
    zzcfgParseText text (patchLive d v) = patchLive d (zzcfgParseText text v) := by
  have hkept : KeptByKeys (fun s t => t = s.patchLive d) := {
    invalidate := by
      intro s t h
      rw [h]
      rfl
    apply := by
      intro key value s t h
      rw [h]
      exact zzcfgApplyKey_patchLive d key value s }
  have hlines := hkept.lines (splitLines text) (s := ⟨v, zzcfgProfileToLegacy v.videocapProfile⟩)
    rfl
  exact congrArg ParseState.values hlines

end Live

section Written

/-- The profile that the file of the writer stands for. -/
def writtenProfile (v : ZzcfgValues) : UInt16 :=
  let profile := zzcfgProfileSanitize v.videocapProfile v.firmwareCapabilities
  if v.useVideocapProfileKey then
    profile
  else if profile ≤ Vcap.filteredNtscExact then
    profile
  else
    Vcap.full60

theorem zzcfgProfileSanitize_isSupported (profile caps : UInt16) :
    zzcfgProfileSupported (zzcfgProfileSanitize profile caps) caps = true := by
  have hfull : zzcfgProfileSupported Vcap.full60 caps = true := rfl
  have hfallback : ∀ p ∈ zzcfgProfiles,
      (zzcfgProfiles[p.fallbackProfile.toNat]?).map (·.requiredCapability) = some 0 := by
    decide
  unfold zzcfgProfileSanitize
  cases hp : zzcfgProfiles[profile.toNat]? with
  | none => exact hfull
  | some p =>
    dsimp only
    split
    . next h => exact h
    . obtain ⟨q, hq, hzero⟩ :=
        Option.map_eq_some_iff.mp (hfallback p (List.mem_of_getElem? hp))
      unfold zzcfgProfileSupported
      rw [hq]
      dsimp only
      rw [hzero]
      rfl

theorem writtenProfile_supported (v : ZzcfgValues) :
    zzcfgProfileSupported (writtenProfile v) v.firmwareCapabilities = true ∧
    (v.useVideocapProfileKey = false → writtenProfile v ≤ Vcap.filteredNtscExact) := by
  have hsanitize := zzcfgProfileSanitize_isSupported v.videocapProfile v.firmwareCapabilities
  unfold writtenProfile
  dsimp only
  cases v.useVideocapProfileKey with
  | true => exact ⟨hsanitize, fun h => nomatch h⟩
  | false =>
    rw [if_neg (by simp)]
    split
    . next h => exact ⟨hsanitize, fun _ => h⟩
    . exact ⟨rfl, fun _ => by decide⟩

/-- The legacy keys of a profile that only its own key can name are those of `full60`. -/
theorem zzcfgProfileToLegacy_centered {profile : UInt16}
    (hle : ¬profile ≤ Vcap.filteredNtscExact) (hlt : profile.toNat < Vcap.profileCount) :
    zzcfgProfileToLegacy profile = zzcfgProfileToLegacy Vcap.full60 := by
  have hcentered : ∀ p ∈ zzcfgProfiles.drop 6, p.legacy = ⟨0, 1, 0⟩ := by decide
  have hlow : 5 < profile.toNat := by
    rw [UInt16.le_iff_toNat_le] at hle
    have : Vcap.filteredNtscExact.toNat = 5 := rfl
    omega
  unfold Vcap.profileCount at hlt
  obtain ⟨i, hi⟩ : ∃ i, profile.toNat = 6 + i := ⟨profile.toNat - 6, by omega⟩
  unfold zzcfgProfileToLegacy
  cases hp : zzcfgProfiles[profile.toNat]? with
  | none =>
    rw [List.getElem?_eq_none_iff] at hp
    have : zzcfgProfiles.length = 9 := rfl
    omega
  | some p =>
    rw [hi, ← List.getElem?_drop] at hp
    exact hcentered p (List.mem_of_getElem? hp)

/-- The record that the file of the writer parses to, over a record like `d`. -/
def settled (d v : ZzcfgValues) : ZzcfgValues :=
  { patchLive d v with
    videocapProfile := if v.videocapProfilePresent then writtenProfile v else v.videocapProfile
    fastRamInvalid := false }

theorem profileLines_settled (d : ZzcfgValues) {v : ZzcfgValues}
    (h : v.videocapProfilePresent = true) :
    profileLines (settled d v) = profileLines v := by
  have hwritten := zzcfgProfileSanitize_supported (writtenProfile_supported v).1
  have hprofile : (settled d v).videocapProfile = writtenProfile v := if_pos h
  have hcaps : (settled d v).firmwareCapabilities = v.firmwareCapabilities := rfl
  have hkey : (settled d v).useVideocapProfileKey = v.useVideocapProfileKey := rfl
  have hpresent : (settled d v).videocapProfilePresent = v.videocapProfilePresent := rfl
  unfold profileLines
  dsimp only
  rw [hprofile, hcaps, hkey, hpresent, hwritten.1]
  have hlt := zzcfgProfileSanitize_lt v.videocapProfile v.firmwareCapabilities
  unfold writtenProfile
  dsimp only
  split
  . rfl
  . split
    . rfl
    . next hle => rw [zzcfgProfileToLegacy_centered hle hlt]

/-- The lines of a field say the same for the record and for what it settles to. -/
theorem parse_settled (d : ZzcfgValues) {v : ZzcfgValues}
    (hfast : v.fastRamPresent = true → v.fastRamInvalid = false) (f : CfgField) (s : ParseState) :
    zzcfgParseLines (fieldLines v f) s = zzcfgParseLines (fieldLines (settled d v) f) s := by
  have hcomment : ∀ (name value : List Char) (s : ParseState),
      zzcfgParseLine (cfgAssign false name value) s = s :=
    fun name value s => zzcfgParseLine_comment (lineContent_cfgAssign_absent name value) s
  have hline : ∀ (name value value' : List Char) (s : ParseState),
      zzcfgParseLines [cfgAssign false name value] s =
        zzcfgParseLines [cfgAssign false name value'] s := by
    intro name value value' s
    unfold zzcfgParseLines zzcfgParseLines
    rw [hcomment, hcomment]
  cases f with
  | profile =>
    unfold fieldLines
    dsimp only
    cases hp : v.videocapProfilePresent with
    | true => rw [profileLines_settled d hp]
    | false =>
      have hp' : (settled d v).videocapProfilePresent = false := hp
      have hkey : (settled d v).useVideocapProfileKey = v.useVideocapProfileKey := rfl
      unfold profileLines
      dsimp only
      rw [hkey, hp, hp']
      split
      . exact hline _ _ _ s
      . unfold zzcfgParseLines zzcfgParseLines zzcfgParseLines zzcfgParseLines
        simp only [hcomment]
  | scanMode =>
    unfold fieldLines settled patchLive
    dsimp only
    cases v.scanlineModePresent with
    | true => rfl
    | false => exact hline _ _ _ s
  | scanParity =>
    unfold fieldLines settled patchLive
    dsimp only
    cases v.scanlineParityPresent with
    | true => rfl
    | false => exact hline _ _ _ s
  | gamma =>
    unfold fieldLines settled patchLive
    dsimp only
    cases v.gammaPresent with
    | true => rfl
    | false => exact hline _ _ _ s
  | fastRam =>
    have hlines : fastRamLines (settled d v) = fastRamLines v := by
      unfold fastRamLines settled patchLive
      dsimp only
      cases hp : v.fastRamPresent with
      | false => rfl
      | true => rw [hfast hp]
    unfold fieldLines
    dsimp only
    rw [hlines]
  | _ => rfl

theorem parseLines_flatMap_congr {a b : CfgField → List (List Char)}
    (h : ∀ f s, zzcfgParseLines (a f) s = zzcfgParseLines (b f) s) (fields : List CfgField)
    (s : ParseState) :
    zzcfgParseLines (fields.flatMap a) s = zzcfgParseLines (fields.flatMap b) s := by
  induction fields generalizing s with
  | nil => rfl
  | cons f fields ih =>
    rw [List.flatMap_cons, List.flatMap_cons, zzcfgParseLines_append, zzcfgParseLines_append, h f s]
    exact ih _

theorem parse_generatedLines_settled (d : ZzcfgValues) {v : ZzcfgValues}
    (hfast : v.fastRamPresent = true → v.fastRamInvalid = false) (s : ParseState) :
    zzcfgParseLines (generatedLines v) s = zzcfgParseLines (generatedLines (settled d v)) s := by
  have haudio : audioLines (settled d v) = audioLines v := rfl
  have hmain : ∀ s, zzcfgParseLines (mainLines v) s = zzcfgParseLines (mainLines (settled d v)) s := by
    intro s
    rw [mainLines_eq, mainLines_eq]
    unfold zzcfgParseLines
    exact parseLines_flatMap_congr (parse_settled d hfast) writtenFields _
  unfold generatedLines
  rw [zzcfgParseLines_append, zzcfgParseLines_append, haudio, hmain]

end Written

/-- The texts of a record are empty or come from the parser. -/
def TextsStored (v : ZzcfgValues) : Prop :=
  (v.mac ≠ [] → StoredByParser (·.mac) v.mac) ∧ (v.hdf ≠ [] → StoredByParser (·.hdf) v.hdf)

theorem TextsStored.parseText {d : ZzcfgValues} (hd : Unread d) (text : List Char) :
    TextsStored (zzcfgParseText text d) := by
  refine ⟨?_, ?_⟩
  . intro h
    exact ⟨text, d, fun heq => h (heq.symm.trans hd.mac), rfl⟩
  . intro h
    exact ⟨text, d, fun heq => h (heq.symm.trans hd.hdf), rfl⟩

section Defaults

variable {useProfileKey : Bool} {caps mode parity gamma mode' parity' gamma' : UInt16}

theorem ReadOver.patchLive {v : ZzcfgValues}
    (h : ReadOver (defaultValues useProfileKey caps mode parity gamma) v) :
    ReadOver (defaultValues useProfileKey caps mode' parity' gamma')
      (patchLive (defaultValues useProfileKey caps mode' parity' gamma') v) :=
  { h with
    absent := { h.absent with
      scanlineMode := fun hp => if_neg (ne_true_of_eq_false hp)
      scanlineParity := fun hp => if_neg (ne_true_of_eq_false hp)
      gamma := fun hp => if_neg (ne_true_of_eq_false hp) }
    scanlineMode := by
      intro hp
      have hp : v.scanlineModePresent = true := hp
      unfold ZZCfg.patchLive
      dsimp only
      rw [if_pos hp]
      exact h.scanlineMode hp
    scanlineParity := by
      intro hp
      have hp : v.scanlineParityPresent = true := hp
      unfold ZZCfg.patchLive
      dsimp only
      rw [if_pos hp]
      exact h.scanlineParity hp
    gamma := by
      intro hp
      have hp : v.gammaPresent = true := hp
      unfold ZZCfg.patchLive
      dsimp only
      rw [if_pos hp]
      exact h.gamma hp }

/-- A record that was read is written in full, and the text parses to what it settles to. -/
theorem zzcfgParseText_rewrite {v : ZzcfgValues}
    (h : ReadOver (defaultValues useProfileKey caps mode parity gamma) v)
    (htexts : TextsStored v) (mode' parity' gamma' : UInt16) :
    zzcfgGenerate v maxSize = some (joinLines (generatedLines v)) ∧
    zzcfgParseText (joinLines (generatedLines v))
        (defaultValues useProfileKey caps mode' parity' gamma') =
      settled (defaultValues useProfileKey caps mode' parity' gamma') v := by
  generalize hd : defaultValues useProfileKey caps mode' parity' gamma' = d'
  have hunread : Unread d' := by
    rw [← hd]
    exact defaultValues_unread _ _ _ _ _
  have hlive : ReadOver d' (patchLive d' v) := by
    rw [← hd]
    exact h.patchLive
  have hadmitted : Admitted (settled d' v) :=
    { profile := by
        intro hp
        have hprofile : (settled d' v).videocapProfile = writtenProfile v := if_pos hp
        rw [hprofile]
        exact writtenProfile_supported v
      sample := hlive.sample
      cropH := hlive.cropH
      cropV := hlive.cropV
      phase := hlive.phase
      c28Phase := hlive.c28Phase
      width := hlive.width
      height := hlive.height
      scanlineMode := hlive.scanlineMode
      scanlineParity := hlive.scanlineParity
      gamma := hlive.gamma
      fastRam := fun _ => rfl
      mac := htexts.1
      hdf := htexts.2
      audioCeilingPaula := hlive.audioCeilingPaula
      audioCeilingAx := hlive.audioCeilingAx }
  have habsent : AbsentFrom d' (settled d' v) :=
    { hlive.absent with
      profile := fun hp => (if_neg (ne_true_of_eq_false hp)).trans (hlive.absent.profile hp) }
  have hmac : v.mac.length < macSize ∧ '\n' ∉ v.mac := hadmitted.mac_fits
  have hhdf : v.hdf.length < hdfSize ∧ '\n' ∉ v.hdf := hadmitted.hdf_fits
  refine ⟨?_, ?_⟩
  . rw [zzcfgGenerate_eq, if_pos (generatedLines_size hmac.1 hhdf.1)]
  . unfold zzcfgParseText
    rw [splitLines_joinLines (generatedLines_no_newline hmac.2 hhdf.2)]
    have hfast : v.fastRamPresent = true → v.fastRamInvalid = false := h.fastRam
    rw [parse_generatedLines_settled d' hfast]
    rw [parse_generatedLines rfl hadmitted hunread habsent rfl]
    have hkey : d'.useVideocapProfileKey = (settled d' v).useVideocapProfileKey :=
      hlive.useVideocapProfileKey.symm
    have hcaps : d'.firmwareCapabilities = (settled d' v).firmwareCapabilities :=
      hlive.firmwareCapabilities.symm
    rw [hkey, hcaps]

end Defaults

end ZZCfg
