import ZZ9000.Config.Values

/-!
This module contains the writer of ZZ9000.CFG, `zzcfg_generate`.
-/

namespace ZZCfg

/-- The conversion `%u`. -/
def decimal (n : Nat) : List Char := Nat.toDigits 10 n

/-- The conversion `%d`. -/
def signedDecimal (n : Int) : List Char :=
  if n < 0 then '-' :: decimal n.natAbs else decimal n.natAbs

/-- The conversion `%02u`. -/
def twoDigits (n : Nat) : List Char := if n < 10 then '0' :: decimal n else decimal n

/-- What `snprintf` leaves in a buffer of `size` bytes, without the NUL. -/
def snprintf (size : Nat) (text : List Char) : List Char := text.take (size - 1)

def commentPrefix (present : Bool) : List Char := if present then [] else ['#']

/-- The line `%s<name> = <value>\n`. -/
def cfgLine (present : Bool) (name value : List Char) : List Char :=
  commentPrefix present ++ name ++ " = ".toList ++ value ++ ['\n']

def onOff (b : Bool) : List Char := if b then "on".toList else "off".toList

def sampleNames : List (List Char) := ["average".toList, "even".toList, "odd".toList]
def vsyncNames : List (List Char) := ["off".toList, "pal".toList, "ntsc".toList]

def zzcfgAudioPresent (v : ZzcfgValues) : Bool :=
  v.audioActivePresent || v.audioBaselinePresent || v.audioCeilingPaulaPresent ||
    v.audioCeilingAxPresent ||
    (List.finRange 8).any fun i => (List.finRange 16).any fun f => (v.audioScene i).mask f

/-- The table `fields` of `zzcfg_append_audio`. -/
def sceneFields (scene : AudioScene) : List (List Char × UInt16) := [
  ("lpf".toList, scene.lpf),
  ("eq01".toList, scene.eq 0),
  ("eq23".toList, scene.eq 1),
  ("eq45".toList, scene.eq 2),
  ("eq67".toList, scene.eq 3),
  ("eq89".toList, scene.eq 4),
  ("out".toList, scene.out),
  ("pan".toList, scene.pan),
  ("nm1".toList, scene.nm 0),
  ("nm2".toList, scene.nm 1),
  ("nm3".toList, scene.nm 2),
  ("nm4".toList, scene.nm 3),
  ("nm5".toList, scene.nm 4),
  ("nm6".toList, scene.nm 5),
  ("nm7".toList, scene.nm 6),
  ("nm8".toList, scene.nm 7)]

/-- Appends what fits to the text in a buffer of `outsz` bytes. -/
def appendChunk (outsz : Nat) (text chunk : List Char) : Option (List Char) :=
  if outsz ≤ (text ++ chunk).length then none else some (text ++ chunk)

def sceneLine (i : Fin 8) (scene : AudioScene) (f : Fin 16) : List Char :=
  match (sceneFields scene)[f.val]? with
  | none => []
  | some (name, value) =>
    cfgLine true ("audio_scene".toList ++ decimal i.val ++ '_' :: name) (decimal value.toNat)

def appendScene (outsz : Nat) (i : Fin 8) (scene : AudioScene) (fields : List (Fin 16))
    (text : List Char) : Option (List Char) :=
  match fields with
  | [] => some text
  | f :: fields =>
    if scene.mask f then
      match appendChunk outsz text (sceneLine i scene f) with
      | none => none
      | some text => appendScene outsz i scene fields text
    else
      appendScene outsz i scene fields text

def appendScenes (outsz : Nat) (v : ZzcfgValues) (scenes : List (Fin 8)) (text : List Char) :
    Option (List Char) :=
  match scenes with
  | [] => some text
  | i :: scenes =>
    match appendScene outsz i (v.audioScene i) (List.finRange 16) text with
    | none => none
    | some text => appendScenes outsz v scenes text

def audioHead (v : ZzcfgValues) : List Char :=
  '\n' ::
    (cfgLine v.audioActivePresent "audio_active".toList (decimal v.audioActive.toNat) ++
    (cfgLine v.audioBaselinePresent "audio_baseline".toList (decimal v.audioBaseline.toNat) ++
    (cfgLine v.audioCeilingPaulaPresent "audio_ceiling_paula".toList
      (decimal v.audioCeilingPaula.toNat) ++
    cfgLine v.audioCeilingAxPresent "audio_ceiling_ax".toList
      (decimal v.audioCeilingAx.toNat))))

def zzcfgAppendAudio (v : ZzcfgValues) (outsz : Nat) (text : List Char) : Option (List Char) :=
  match appendChunk outsz text (audioHead v) with
  | none => none
  | some text => appendScenes outsz v (List.finRange 8) text

def videoConfig (v : ZzcfgValues) : List Char :=
  let profile := zzcfgProfileSanitize v.videocapProfile v.firmwareCapabilities
  let legacy := zzcfgProfileToLegacy profile
  let present := v.videocapProfilePresent
  snprintf 128 <|
    if v.useVideocapProfileKey then
      cfgLine present "videocap_profile".toList
        (match zzcfgProfiles[profile.toNat]? with
          | some p => p.name
          | none => [])
    else
      cfgLine present "videocap_mode".toList
        (if legacy.palMode != 0 then "pal".toList else "800x600".toList) ++
      (cfgLine present "videocap_shres".toList
        (if legacy.full != 0 then "full".toList else "filter".toList) ++
      cfgLine present "nonstandard_vsync".toList (vsyncNames.getD legacy.vsync.toNat []))

def fastRamConfig (v : ZzcfgValues) : List Char :=
  if v.fastRamPresent && !v.fastRamInvalid then
    snprintf 24 (cfgLine true "fast_ram".toList (onOff v.fastRam))
  else
    []

/-- The format of `zzcfg_generate`, without the audio keys. -/
def mainText (v : ZzcfgValues) : List Char :=
  let sample := if v.videocapSample ≤ 2 then v.videocapSample else 0
  let gamma := if v.gammaPresent then v.gamma else gammaHundredthsIdentity
  "# ZZ9000.CFG written by ZZTop; power-cycle to apply\n".toList ++
  (videoConfig v ++
  (cfgLine v.videocapSamplePresent "videocap_sample".toList (sampleNames.getD sample.toNat []) ++
  (cfgLine v.videocapCropHPresent "videocap_crop_h".toList
    (decimal (v.videocapCropH &&& 4095).toNat) ++
  (cfgLine v.videocapCropVPresent "videocap_crop_v".toList
    (decimal (v.videocapCropV &&& 4095).toNat) ++
  (cfgLine v.videocapPhasePresent "videocap_phase".toList (signedDecimal v.videocapPhase.toInt) ++
  (cfgLine v.videocapC28PhasePresent "videocap_c28_phase".toList
    (signedDecimal v.videocapC28Phase.toInt) ++
  (cfgLine v.videocapWidthPresent "videocap_width".toList (decimal v.videocapWidth.toNat) ++
  (cfgLine v.videocapHeightPresent "videocap_height".toList (decimal v.videocapHeight.toNat) ++
  (cfgLine v.scanlineModePresent "scanline_mode".toList
    (decimal (v.scanlineMode &&& 3).toNat) ++
  (cfgLine v.scanlineParityPresent "scanline_parity".toList
    (decimal (v.scanlineParity &&& 1).toNat) ++
  (cfgLine v.gammaPresent "gamma".toList
    (decimal (gamma.toNat / 100) ++ '.' :: twoDigits (gamma.toNat % 100)) ++
  (cfgLine true "int2".toList (onOff v.int2) ++
  (fastRamConfig v ++
  (cfgLine true "offscreen_bitmaps".toList (onOff v.offscreenBitmaps) ++
  (cfgLine true "video_overlay".toList (onOff v.videoOverlay) ++
  (cfgLine (!v.mac.isEmpty) "mac".toList
    (if v.mac.isEmpty then "68:82:F2:00:00:01".toList else v.mac) ++
  cfgLine (!v.hdf.isEmpty) "hdf".toList
    (if v.hdf.isEmpty then hdfDefault else v.hdf)))))))))))))))))

/-- `none` is the result 0, that the text does not fit the buffer. -/
def zzcfgGenerate (v : ZzcfgValues) (outsz : Nat) : Option (List Char) :=
  match appendChunk outsz [] (mainText v) with
  | none => none
  | some text => if zzcfgAudioPresent v then zzcfgAppendAudio v outsz text else some text

end ZZCfg
