import Mathlib.Data.UInt
import Mathlib.Logic.Function.Basic
import Mathlib.Tactic.FinCases
import Mathlib.Data.Fintype.Basic

/-!
This module contains the record of `zzcfg_amiga.h` and the table of capture profiles behind both
spellings of the profile in ZZ9000.CFG.
-/

namespace ZZCfg

/-- Statements about the elements of a list are decided one element at a time. -/
scoped instance (priority := high) decidableForallMem {α : Type} {p : α → Prop} [DecidablePred p]
    {l : List α} : Decidable (∀ x ∈ l, p x) :=
  List.decidableBAll p l

def maxSize : Nat := 8192
def macChars : Nat := 17
def hdfChars : Nat := 63
def hdfDefault : List Char := "zz9000.hdf".toList
def videocapCropHCompat : UInt16 := 188
def videocapCropVCompat : UInt16 := 26
def gammaHundredthsMin : Nat := 20
def gammaHundredthsMax : Nat := 500
def gammaHundredthsIdentity : UInt16 := 100

def capVideocapProfile : UInt16 := 0x0001
def capVideocapCentered1080p : UInt16 := 0x0008
def capVideocapCentered1080p50 : UInt16 := 0x0010
def capVideocapSourceSync : UInt16 := 0x0020

namespace Vcap

def full60 : UInt16 := 0
def filtered60 : UInt16 := 2
def filteredPal : UInt16 := 3
def filteredPalExact : UInt16 := 4
def filteredNtscExact : UInt16 := 5
def fullExact : UInt16 := 1
def profileCount : Nat := 9

end Vcap

/-- The three keys that stand for the profile in files of old firmware. -/
structure LegacyKeys where
  palMode : UInt16
  full : UInt16
  vsync : UInt16
deriving DecidableEq, Repr

structure ProfileDesc where
  name : List Char
  legacy : LegacyKeys
  requiredCapability : UInt16
  fallbackProfile : UInt16
deriving DecidableEq, Repr

def zzcfgProfiles : List ProfileDesc := [
  { name := "full_60".toList, legacy := ⟨0, 1, 0⟩,
    requiredCapability := 0, fallbackProfile := Vcap.full60 },
  { name := "full_exact".toList, legacy := ⟨0, 1, 1⟩,
    requiredCapability := 0, fallbackProfile := Vcap.fullExact },
  { name := "filtered_60".toList, legacy := ⟨0, 0, 0⟩,
    requiredCapability := 0, fallbackProfile := Vcap.filtered60 },
  { name := "filtered_pal".toList, legacy := ⟨1, 0, 0⟩,
    requiredCapability := 0, fallbackProfile := Vcap.filteredPal },
  { name := "filtered_pal_exact".toList, legacy := ⟨1, 0, 1⟩,
    requiredCapability := 0, fallbackProfile := Vcap.filteredPalExact },
  { name := "filtered_ntsc_exact".toList, legacy := ⟨1, 0, 2⟩,
    requiredCapability := 0, fallbackProfile := Vcap.filteredNtscExact },
  { name := "centered_1080p_60".toList, legacy := ⟨0, 1, 0⟩,
    requiredCapability := capVideocapCentered1080p, fallbackProfile := Vcap.full60 },
  { name := "centered_1080p_50".toList, legacy := ⟨0, 1, 0⟩,
    requiredCapability := capVideocapCentered1080p ||| capVideocapCentered1080p50,
    fallbackProfile := Vcap.full60 },
  { name := "centered_1080p_match".toList, legacy := ⟨0, 1, 0⟩,
    requiredCapability :=
      capVideocapCentered1080p ||| capVideocapCentered1080p50 ||| capVideocapSourceSync,
    fallbackProfile := Vcap.full60 }]

def zzcfgProfileFromLegacy (keys : LegacyKeys) : UInt16 :=
  let isMatch (p : ProfileDesc) : Bool :=
    if (p.legacy.full != 0) != (keys.full != 0) then
      false
    else if keys.full != 0 then
      (p.legacy.vsync != 0) == (keys.vsync != 0)
    else
      (p.legacy.palMode != 0) == (keys.palMode != 0) && p.legacy.vsync == keys.vsync
  match zzcfgProfiles.findIdx? isMatch with
  | some i => UInt16.ofNat i
  | none => Vcap.filtered60

def zzcfgProfileToLegacy (profile : UInt16) : LegacyKeys :=
  match zzcfgProfiles[profile.toNat]? with
  | some p => p.legacy
  | none => ⟨0, 0, 0⟩

def zzcfgProfileSupported (profile firmwareCapabilities : UInt16) : Bool :=
  match zzcfgProfiles[profile.toNat]? with
  | some p =>
    p.requiredCapability == 0 ||
      firmwareCapabilities &&& p.requiredCapability == p.requiredCapability
  | none => false

def zzcfgProfileSanitize (profile firmwareCapabilities : UInt16) : UInt16 :=
  match zzcfgProfiles[profile.toNat]? with
  | some p =>
    if zzcfgProfileSupported profile firmwareCapabilities then profile else p.fallbackProfile
  | none => Vcap.full60

/-- The keys of one audio scene: bit `f` of the mask tells that field `f` of the scene is set. -/
@[ext]
structure AudioScene where
  lpf : UInt16
  eq : Fin 5 → UInt16
  out : UInt16
  pan : UInt16
  nm : Fin 8 → UInt16
  mask : Fin 16 → Bool

/--
`struct zzcfg_values`. The flags and the two-valued settings are only ever 0 or 1, and `mac` and
`hdf` are the strings up to their NUL.
-/
@[ext]
structure ZzcfgValues where
  videocapProfile : UInt16
  videocapSample : UInt16
  videocapProfilePresent : Bool
  videocapSamplePresent : Bool
  videocapCropH : UInt16
  videocapCropV : UInt16
  videocapCropHPresent : Bool
  videocapCropVPresent : Bool
  videocapPhase : Int16
  videocapC28Phase : Int16
  videocapPhasePresent : Bool
  videocapC28PhasePresent : Bool
  videocapWidth : UInt16
  videocapHeight : UInt16
  videocapWidthPresent : Bool
  videocapHeightPresent : Bool
  useVideocapProfileKey : Bool
  firmwareCapabilities : UInt16
  scanlineMode : UInt16
  scanlineParity : UInt16
  scanlineModePresent : Bool
  scanlineParityPresent : Bool
  gamma : UInt16
  gammaPresent : Bool
  int2 : Bool
  offscreenBitmaps : Bool
  videoOverlay : Bool
  fastRam : Bool
  fastRamPresent : Bool
  fastRamInvalid : Bool
  mac : List Char
  hdf : List Char
  audioActive : UInt16
  audioActivePresent : Bool
  audioBaseline : UInt16
  audioBaselinePresent : Bool
  audioCeilingPaula : UInt16
  audioCeilingPaulaPresent : Bool
  audioCeilingAx : UInt16
  audioCeilingAxPresent : Bool
  audioScene : Fin 8 → AudioScene

/-- The record of `values_defaults`, over what the board tells. -/
def defaultValues (useProfileKey : Bool)
    (firmwareCapabilities scanlineMode scanlineParity gamma : UInt16) : ZzcfgValues :=
  { videocapProfile := Vcap.full60
    videocapSample := 0
    videocapProfilePresent := false
    videocapSamplePresent := false
    videocapCropH := videocapCropHCompat
    videocapCropV := videocapCropVCompat
    videocapCropHPresent := false
    videocapCropVPresent := false
    videocapPhase := 0
    videocapC28Phase := 0
    videocapPhasePresent := false
    videocapC28PhasePresent := false
    videocapWidth := 0
    videocapHeight := 0
    videocapWidthPresent := false
    videocapHeightPresent := false
    useVideocapProfileKey := useProfileKey
    firmwareCapabilities := firmwareCapabilities
    scanlineMode := scanlineMode
    scanlineParity := scanlineParity
    scanlineModePresent := false
    scanlineParityPresent := false
    gamma := gamma
    gammaPresent := false
    int2 := false
    offscreenBitmaps := true
    videoOverlay := true
    fastRam := false
    fastRamPresent := false
    fastRamInvalid := false
    mac := []
    hdf := []
    audioActive := 0
    audioActivePresent := false
    audioBaseline := 0
    audioBaselinePresent := false
    audioCeilingPaula := 0
    audioCeilingPaulaPresent := false
    audioCeilingAx := 0
    audioCeilingAxPresent := false
    audioScene := fun _ => ⟨0, fun _ => 0, 0, 0, fun _ => 0, fun _ => false⟩ }

def macSize : Nat := macChars + 3
def hdfSize : Nat := hdfChars + 5

def zzcfgFastRamInvalidate (v : ZzcfgValues) : ZzcfgValues :=
  { v with fastRam := false, fastRamPresent := false, fastRamInvalid := true }

namespace FastRamOutcome

def pending : UInt16 := 0
def enabled : UInt16 := 1
def invalid : UInt16 := 4
def truncated : UInt16 := 5
def bakOn : UInt16 := 8

end FastRamOutcome

def zzcfgFastRamInvalidateWithheld (v : ZzcfgValues) (outcome : UInt16) : ZzcfgValues :=
  if outcome == FastRamOutcome.invalid || outcome == FastRamOutcome.truncated then
    zzcfgFastRamInvalidate v
  else
    v

/-- Field `f` of a scene, numbered as in `zzcfg_audio_scene_key`. -/
def AudioScene.get (scene : AudioScene) (field : Fin 16) : UInt16 :=
  if h : 1 ≤ field.val ∧ field.val ≤ 5 then
    scene.eq ⟨field.val - 1, by omega⟩
  else if field.val = 6 then
    scene.out
  else if field.val = 7 then
    scene.pan
  else if h : 8 ≤ field.val then
    scene.nm ⟨field.val - 8, by omega⟩
  else
    scene.lpf

def AudioScene.set (scene : AudioScene) (field : Fin 16) (packed : UInt16) : AudioScene :=
  let scene : AudioScene :=
    if h : 1 ≤ field.val ∧ field.val ≤ 5 then
      { scene with eq := Function.update scene.eq ⟨field.val - 1, by omega⟩ packed }
    else if field.val = 6 then
      { scene with out := packed }
    else if field.val = 7 then
      { scene with pan := packed }
    else if h : 8 ≤ field.val then
      { scene with nm := Function.update scene.nm ⟨field.val - 8, by omega⟩ packed }
    else
      { scene with lpf := packed }
  { scene with mask := Function.update scene.mask field true }

@[simp]
theorem AudioScene.set_mask (scene : AudioScene) (field : Fin 16) (packed : UInt16) :
    (scene.set field packed).mask = Function.update scene.mask field true := by
  unfold AudioScene.set
  split
  . rfl
  . split
    . rfl
    . split
      . rfl
      . split <;> rfl

theorem AudioScene.set_get (scene : AudioScene) (field g : Fin 16) (packed : UInt16) :
    (scene.set field packed).get g = if g = field then packed else scene.get g := by
  fin_cases field <;> fin_cases g <;> rfl

/-- A scene is its sixteen fields and its mask. -/
theorem AudioScene.ext_get {a b : AudioScene} (hget : ∀ f, a.get f = b.get f)
    (hmask : ∀ f, a.mask f = b.mask f) :
    a = b := by
  apply AudioScene.ext
  . exact hget 0
  . funext i
    have h := hget ⟨i.val + 1, by omega⟩
    unfold AudioScene.get at h
    rw [dif_pos (by dsimp only; omega), dif_pos (by dsimp only; omega)] at h
    exact h
  . exact hget 6
  . exact hget 7
  . funext i
    have h := hget ⟨i.val + 8, by omega⟩
    unfold AudioScene.get at h
    rw [dif_neg (by dsimp only; omega), if_neg (by dsimp only; omega),
      if_neg (by dsimp only; omega), dif_pos (by dsimp only; omega),
      dif_neg (by dsimp only; omega), if_neg (by dsimp only; omega),
      if_neg (by dsimp only; omega), dif_pos (by dsimp only; omega)] at h
    exact h
  . funext f
    exact hmask f

end ZZCfg
