import ZZ9000.Config.Values

/-!
This module contains the parser of ZZ9000.CFG, `zzcfg_parse_text`. A text is a list of bytes and
a C string the bytes up to the first NUL. Positions in a text are `UWORD`: they do not wrap, for
callers pass at most `maxSize` bytes.
-/

namespace ZZCfg

def zzcfgLower (c : Char) : Char :=
  if 'A' ≤ c && c ≤ 'Z' then Char.ofNat (c.toNat + 32) else c

def zzcfgIsSpace (c : Char) : Bool := c = ' ' || c = '\t' || c = '\r'

def zzcfgIsIdentChar (c : Char) : Bool :=
  let lower := zzcfgLower c
  ('a' ≤ lower && lower ≤ 'z') || ('0' ≤ c && c ≤ '9') || c = '_'

def isComment (c : Char) : Bool := c = '#' || c = ';'

def cString (bytes : List Char) : List Char := bytes.takeWhile (· ≠ '\x00')

def zzcfgFirstTokenIs.go (line keyword : List Char) : Bool :=
  match keyword, line with
  | [], [] => true
  | [], c :: _ => !zzcfgIsIdentChar c
  | _ :: _, [] => false
  | k :: keyword, c :: line => if zzcfgLower c ≠ k then false else go line keyword

def zzcfgFirstTokenIs (line keyword : List Char) : Bool :=
  zzcfgFirstTokenIs.go (line.dropWhile zzcfgIsSpace) keyword

def zzcfgStrEqCi (a b : List Char) : Bool :=
  match a, b with
  | [], [] => true
  | a :: as, b :: bs => if zzcfgLower a ≠ zzcfgLower b then false else zzcfgStrEqCi as bs
  | _, _ => false

def zzcfgParseUnsigned.go (limit : Nat) (value : Nat) (s : List Char) : Option Nat :=
  match s with
  | [] => some value
  | c :: s =>
    if c < '0' || '9' < c then
      none
    else
      let value := value * 10 + (c.toNat - '0'.toNat)
      if limit < value then none else go limit value s

/-- The digit loop that `zzcfg_parse_u12` and `zzcfg_parse_u16` share up to its bound. -/
def zzcfgParseUnsigned (limit : Nat) (s : List Char) : Option UInt16 :=
  match s with
  | [] => none
  | s => (zzcfgParseUnsigned.go limit 0 s).map UInt16.ofNat

def zzcfgParseU12 (s : List Char) : Option UInt16 := zzcfgParseUnsigned 4095 s

def zzcfgParseU16 (s : List Char) : Option UInt16 := zzcfgParseUnsigned 65535 s

def zzcfgParsePhase (s : List Char) (min max : Int) : Option Int16 :=
  let negative := s.head? == some '-'
  match zzcfgParseU16 (if negative then s.tail else s) with
  | none => none
  | some magnitude =>
    let value : Int := if negative then -(magnitude.toNat : Int) else magnitude.toNat
    if value < min || max < value then none else some (Int16.ofInt value)

structure GammaScan where
  whole : Nat
  frac : Nat
  digits : Nat
  seenDot : Bool
deriving DecidableEq

def zzgammaParseValue.go (s : List Char) (scan : GammaScan) : Option GammaScan :=
  match s with
  | [] => some scan
  | c :: s =>
    if c = '.' then
      if scan.seenDot then none else go s { scan with seenDot := true }
    else if '0' ≤ c && c ≤ '9' then
      let digit := c.toNat - '0'.toNat
      if scan.seenDot then
        if 2 < scan.digits + 1 then
          none
        else
          go s { scan with digits := scan.digits + 1, frac := scan.frac * 10 + digit }
      else
        let whole := scan.whole * 10 + digit
        if gammaHundredthsMax / 100 < whole then none else go s { scan with whole := whole }
    else
      none

def zzgammaParseValue (s : List Char) : Option Nat :=
  match s with
  | [] => none
  | s =>
    match zzgammaParseValue.go s ⟨0, 0, 0, false⟩ with
    | none => none
    | some scan =>
      if scan.seenDot && scan.digits == 0 then
        none
      else
        let frac := if scan.digits == 1 then scan.frac * 10 else scan.frac
        let value := scan.whole * 100 + frac
        if value < gammaHundredthsMin || gammaHundredthsMax < value then none else some value

def zzcfgParseProfile (value : List Char) : Option UInt16 :=
  (zzcfgProfiles.findIdx? fun p => zzcfgStrEqCi value p.name).map UInt16.ofNat

/-- The values of the keys that are on or off. -/
def zzcfgParseSwitch (value : List Char) : Option Bool :=
  if zzcfgStrEqCi value "on".toList || zzcfgStrEqCi value "1".toList then
    some true
  else if zzcfgStrEqCi value "off".toList || zzcfgStrEqCi value "0".toList then
    some false
  else
    none

def zzcfgAudioSceneKey (v : ZzcfgValues) (scene : Fin 8) (field : Fin 16) (value : List Char) :
    ZzcfgValues :=
  match zzcfgParseU16 value with
  | none => v
  | some packed =>
    { v with audioScene :=
        Function.update v.audioScene scene ((v.audioScene scene).set field packed) }

inductive ZzcfgKey where
  | videocapProfile
  | videocapMode
  | videocapSample
  | videocapShres
  | videocapCropH
  | videocapCropV
  | videocapPhase
  | videocapC28Phase
  | videocapWidth
  | videocapHeight
  | nonstandardVsync
  | scanlineMode
  | scanlineParity
  | gamma
  | int2
  | fastRam
  | offscreenBitmaps
  | videoOverlay
  | mac
  | hdf
  | audioActive
  | audioBaseline
  | audioCeilingPaula
  | audioCeilingAx
  | audioScene (scene : Fin 8) (field : Fin 16)
deriving DecidableEq, Repr

def sceneDigits : List Char := "01234567".toList

def sceneSuffixes : List (List Char) :=
  ["lpf".toList, "eq01".toList, "eq23".toList, "eq45".toList, "eq67".toList, "eq89".toList,
    "out".toList, "pan".toList, "nm1".toList, "nm2".toList, "nm3".toList, "nm4".toList,
    "nm5".toList, "nm6".toList, "nm7".toList, "nm8".toList]

/-- The key `audio_scene<N>_<field>`. -/
def sceneKeyName (scene : Fin 8) (field : Fin 16) : List Char :=
  "audio_scene".toList ++ sceneDigits.getD scene.val '0' :: '_' ::
    sceneSuffixes.getD field.val []

/-- The chain of key comparisons of `zzcfg_parse_text`, in its order. -/
def zzcfgKeys : List (List Char × ZzcfgKey) := [
  ("videocap_profile".toList, .videocapProfile),
  ("videocap_mode".toList, .videocapMode),
  ("videocap_sample".toList, .videocapSample),
  ("videocap_shres".toList, .videocapShres),
  ("videocap_crop_h".toList, .videocapCropH),
  ("videocap_crop_v".toList, .videocapCropV),
  ("videocap_phase".toList, .videocapPhase),
  ("videocap_c28_phase".toList, .videocapC28Phase),
  ("videocap_width".toList, .videocapWidth),
  ("videocap_height".toList, .videocapHeight),
  ("nonstandard_vsync".toList, .nonstandardVsync),
  ("scanline_mode".toList, .scanlineMode),
  ("scanline_parity".toList, .scanlineParity),
  ("gamma".toList, .gamma),
  ("int2".toList, .int2),
  ("fast_ram".toList, .fastRam),
  ("offscreen_bitmaps".toList, .offscreenBitmaps),
  ("video_overlay".toList, .videoOverlay),
  ("mac".toList, .mac),
  ("hdf".toList, .hdf),
  ("audio_active".toList, .audioActive),
  ("audio_baseline".toList, .audioBaseline),
  ("audio_ceiling_paula".toList, .audioCeilingPaula),
  ("audio_ceiling_ax".toList, .audioCeilingAx)] ++
  (List.finRange 8).flatMap fun scene =>
    (List.finRange 16).map fun field => (sceneKeyName scene field, .audioScene scene field)

def zzcfgFindKey (key : List Char) : Option ZzcfgKey :=
  (zzcfgKeys.find? fun entry => zzcfgStrEqCi key entry.1).map (·.2)

/-- What the line loop carries from line to line. -/
structure ParseState where
  values : ZzcfgValues
  legacy : LegacyKeys

/-- A legacy key changes the tuple and the profile that the tuple now stands for. -/
def ParseState.setLegacy (s : ParseState) (legacy : LegacyKeys) : ParseState :=
  { values := { s.values with
      videocapProfile := zzcfgProfileFromLegacy legacy
      videocapProfilePresent := true }
    legacy := legacy }

def ParseState.fastRamInvalidate (s : ParseState) : ParseState :=
  { s with values := zzcfgFastRamInvalidate s.values }

/-- The branch of the key, for the value as a C string. -/
def zzcfgApplyKey (key : ZzcfgKey) (value : List Char) (s : ParseState) : ParseState :=
  let v := s.values
  match key with
  | .videocapProfile =>
    match zzcfgParseProfile value with
    | some profile =>
      { values := { v with videocapProfile := profile, videocapProfilePresent := true }
        legacy := zzcfgProfileToLegacy profile }
    | none => s
  | .videocapMode =>
    if zzcfgStrEqCi value "pal".toList || zzcfgStrEqCi value "720x576".toList then
      s.setLegacy { s.legacy with palMode := 1, full := 0 }
    else if zzcfgStrEqCi value "800x600".toList then
      s.setLegacy { s.legacy with palMode := 0, full := 0 }
    else
      s
  | .videocapSample =>
    if zzcfgStrEqCi value "average".toList then
      { s with values := { v with videocapSample := 0, videocapSamplePresent := true } }
    else if zzcfgStrEqCi value "even".toList then
      { s with values := { v with videocapSample := 1, videocapSamplePresent := true } }
    else if zzcfgStrEqCi value "odd".toList then
      { s with values := { v with videocapSample := 2, videocapSamplePresent := true } }
    else
      s
  | .videocapShres =>
    if zzcfgStrEqCi value "filter".toList then
      s.setLegacy { s.legacy with full := 0 }
    else if zzcfgStrEqCi value "full".toList then
      s.setLegacy { s.legacy with full := 1 }
    else
      s
  | .videocapCropH =>
    match zzcfgParseU12 value with
    | some crop =>
      { s with values := { v with videocapCropH := crop, videocapCropHPresent := true } }
    | none => s
  | .videocapCropV =>
    match zzcfgParseU12 value with
    | some crop =>
      { s with values := { v with videocapCropV := crop, videocapCropVPresent := true } }
    | none => s
  | .videocapPhase =>
    match zzcfgParsePhase value (-255) 255 with
    | some phase =>
      { s with values := { v with videocapPhase := phase, videocapPhasePresent := true } }
    | none => s
  | .videocapC28Phase =>
    match zzcfgParsePhase value (-896) 895 with
    | some phase =>
      { s with values := { v with videocapC28Phase := phase, videocapC28PhasePresent := true } }
    | none => s
  | .videocapWidth =>
    match zzcfgParseU16 value with
    | some width =>
      if width ≥ 256 && width ≤ 1280 && width &&& 15 == 0 then
        { s with values := { v with videocapWidth := width, videocapWidthPresent := true } }
      else
        s
    | none => s
  | .videocapHeight =>
    match zzcfgParseU16 value with
    | some height =>
      if height ≥ 100 && height ≤ 1024 then
        { s with values := { v with videocapHeight := height, videocapHeightPresent := true } }
      else
        s
    | none => s
  | .nonstandardVsync =>
    if zzcfgStrEqCi value "off".toList then
      s.setLegacy { s.legacy with vsync := 0 }
    else if zzcfgStrEqCi value "pal".toList || zzcfgStrEqCi value "on".toList then
      s.setLegacy { s.legacy with vsync := 1 }
    else if zzcfgStrEqCi value "ntsc".toList then
      s.setLegacy { s.legacy with vsync := 2 }
    else
      s
  | .scanlineMode =>
    match value with
    | [c] =>
      if '0' ≤ c && c ≤ '3' then
        { s with values := { v with
            scanlineMode := UInt16.ofNat (c.toNat - '0'.toNat)
            scanlineModePresent := true } }
      else
        s
    | _ => s
  | .scanlineParity =>
    match value with
    | [c] =>
      if c = '0' || c = '1' then
        { s with values := { v with
            scanlineParity := UInt16.ofNat (c.toNat - '0'.toNat)
            scanlineParityPresent := true } }
      else
        s
    | _ => s
  | .gamma =>
    match zzgammaParseValue value with
    | some hundredths =>
      { s with values := { v with gamma := UInt16.ofNat hundredths, gammaPresent := true } }
    | none => s
  | .int2 =>
    match zzcfgParseSwitch value with
    | some on => { s with values := { v with int2 := on } }
    | none => s
  | .fastRam =>
    match zzcfgParseSwitch value with
    | some on =>
      if v.fastRamInvalid then
        s
      else
        { s with values := { v with fastRam := on, fastRamPresent := true } }
    | none => s.fastRamInvalidate
  | .offscreenBitmaps =>
    match zzcfgParseSwitch value with
    | some on => { s with values := { v with offscreenBitmaps := on } }
    | none => s
  | .videoOverlay =>
    match zzcfgParseSwitch value with
    | some on => { s with values := { v with videoOverlay := on } }
    | none => s
  | .mac => if value.length < macSize then { s with values := { v with mac := value } } else s
  | .hdf => if value.length < hdfSize then { s with values := { v with hdf := value } } else s
  | .audioActive =>
    match zzcfgParseU16 value with
    | some active =>
      { s with values := { v with audioActive := active, audioActivePresent := true } }
    | none => s
  | .audioBaseline =>
    match zzcfgParseU16 value with
    | some baseline =>
      { s with values := { v with audioBaseline := baseline, audioBaselinePresent := true } }
    | none => s
  | .audioCeilingPaula =>
    match zzcfgParseU16 value with
    | some ceiling =>
      if ceiling ≥ 1 && ceiling ≤ 4095 then
        { s with values := { v with
            audioCeilingPaula := ceiling
            audioCeilingPaulaPresent := true } }
      else
        s
    | none => s
  | .audioCeilingAx =>
    match zzcfgParseU16 value with
    | some ceiling =>
      if ceiling ≥ 1 && ceiling ≤ 4095 then
        { s with values := { v with audioCeilingAx := ceiling, audioCeilingAxPresent := true } }
      else
        s
    | none => s
  | .audioScene scene field =>
    { s with values := zzcfgAudioSceneKey v scene field value }

def keySize : Nat := 24
def valueSize : Nat := hdfChars + 2

def isKeyChar (c : Char) : Bool := c ≠ '=' && !isComment c && !zzcfgIsSpace c

def isValueChar (c : Char) : Bool := !isComment c && !zzcfgIsSpace c

/-- Copies characters while `p` holds and `room` is left: what is copied and what stays. -/
def copyWhile (p : Char → Bool) (room : Nat) (line : List Char) : List Char × List Char :=
  match room, line with
  | 0, line => ([], line)
  | _ + 1, [] => ([], [])
  | room + 1, c :: line =>
    if p c then
      let (copied, rest) := copyWhile p room line
      (c :: copied, rest)
    else
      ([], c :: line)

def fastRamKey : List Char := "fast_ram".toList

/-- What a line says before its comment. -/
def lineContent (line : List Char) : List Char := line.takeWhile (!isComment ·)

/-- `fast_ram_line`. -/
def isFastRamLine (line : List Char) : Bool := zzcfgFirstTokenIs (lineContent line) fastRamKey

def hasExtraValue (rest : List Char) : Bool :=
  match rest with
  | [] => false
  | c :: _ => !isComment c

def zzcfgParseLine (line : List Char) (s : ParseState) : ParseState :=
  let fastRamLine := isFastRamLine line
  let s := if 127 < (lineContent line).length && fastRamLine then s.fastRamInvalidate else s
  let (key, rest) := copyWhile isKeyChar (keySize - 1) (line.dropWhile zzcfgIsSpace)
  let rest := rest.dropWhile zzcfgIsSpace
  if key.isEmpty || rest.head? ≠ some '=' then
    if fastRamLine then s.fastRamInvalidate else s
  else
    let (value, rest) := copyWhile isValueChar (valueSize - 1) (rest.tail.dropWhile zzcfgIsSpace)
    let rest := rest.dropWhile zzcfgIsSpace
    let extraValue := hasExtraValue rest
    if value.isEmpty || (extraValue && fastRamLine) then
      if fastRamLine then s.fastRamInvalidate else s
    else if fastRamLine && !zzcfgStrEqCi (cString key) fastRamKey then
      s.fastRamInvalidate
    else
      match zzcfgFindKey (cString key) with
      | some key => zzcfgApplyKey key (cString value) s
      | none => s

/-- The lines of a text. What follows the last newline is a line only if it is not empty. -/
def splitLines (text : List Char) : List (List Char) :=
  match text with
  | [] => []
  | c :: text =>
    if c = '\n' then
      [] :: splitLines text
    else
      match splitLines text with
      | [] => [[c]]
      | line :: lines => (c :: line) :: lines

def zzcfgParseLines (lines : List (List Char)) (s : ParseState) : ParseState :=
  match lines with
  | [] => s
  | line :: lines => zzcfgParseLines lines (zzcfgParseLine line s)

def zzcfgParseText (text : List Char) (v : ZzcfgValues) : ZzcfgValues :=
  (zzcfgParseLines (splitLines text) ⟨v, zzcfgProfileToLegacy v.videocapProfile⟩).values

end ZZCfg
