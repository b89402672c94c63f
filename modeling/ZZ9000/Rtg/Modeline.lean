import ZZ9000.Rtg.CustomClock

/-!
This module contains the planning of a mode from `custom_modeline.h`, with the fixed timings of
`mode_timing.h` and the checks of `zz_custom_mode.h`.
-/

namespace ZZRtg

/-- `struct zz_rtg_mode_timing` -/
structure RtgModeTiming where
  width : UInt16
  height : UInt16
  modeId : UInt16
  hsyncStart : UInt16
  hsyncEnd : UInt16
  htotal : UInt16
  vsyncStart : UInt16
  vsyncEnd : UInt16
  vtotal : UInt16
  pixelClockHz : UInt32
  deriving DecidableEq, Repr

def rtgModeTimings : List RtgModeTiming := [
  ⟨1280,  720,  0, 1390, 1430, 1650,  725,  730,  750,  75000000⟩,
  ⟨ 800,  600,  1,  840,  968, 1056,  601,  605,  628,  40000000⟩,
  ⟨ 640,  480,  2,  656,  752,  800,  490,  492,  525,  25000000⟩,
  ⟨ 640,  400, 16,  656,  752,  800,  490,  492,  525,  25000000⟩,
  ⟨1024,  768,  3, 1048, 1184, 1344,  771,  777,  806,  65000000⟩,
  ⟨1280, 1024,  4, 1328, 1440, 1688, 1025, 1028, 1066, 108000000⟩,
  ⟨1920, 1080,  5, 2008, 2052, 2200, 1084, 1089, 1125, 148571429⟩,
  ⟨ 720,  576,  6,  732,  796,  864,  581,  586,  625,  27108434⟩,
  ⟨ 720,  480,  8,  736,  768,  800,  490,  492,  525,  25333333⟩,
  ⟨ 640,  512,  9,  840,  968, 1056,  601,  605,  628,  40000000⟩,
  ⟨1600, 1200, 10, 1704, 1880, 2160, 1201, 1204, 1242, 161538462⟩,
  ⟨2560, 1440, 11, 2680, 2944, 3328, 1441, 1444, 1465, 146428571⟩,
  ⟨1920,  800, 17, 2024, 2224, 2528,  801,  804,  828, 125000000⟩]

def rtgModeTimingForOutputSize (width height : UInt16) : Option RtgModeTiming :=
  rtgModeTimings.find? fun timing => timing.width == width && timing.height == height

def rtgModeTimingForLogicalSize (width height : UInt16) : Option RtgModeTiming :=
  if width < 640 ∧ height < 480 then
    rtgModeTimingForOutputSize (width * 2) (height * 2)
  else
    rtgModeTimingForOutputSize width height

def CustomMode.geometryValid (mode : CustomMode) : Bool :=
  mode.width ≥ 320
    && mode.width ≤ 2560
    && mode.width % 8 == 0
    && mode.height ≥ 200
    && mode.width < mode.hsyncStart
    && mode.hsyncStart < mode.hsyncEnd
    && mode.hsyncEnd < mode.htotal
    && mode.htotal ≤ 4095
    && mode.height < mode.vsyncStart
    && mode.vsyncStart < mode.vsyncEnd
    && mode.vsyncEnd < mode.vtotal
    && mode.vtotal ≤ 4095 && mode.polarity ≤ 1

/-- `zz_custom_mode_valid` -/
def CustomMode.valid (mode : CustomMode) : Bool :=
  let hz := customClockHz mode.mul mode.div mode.div2
  mode.geometryValid && hz ≥ customMinClockHz && hz ≤ customMaxClockHz

def p96HPolarity : UInt16 := 0x08
def p96VPolarity : UInt16 := 0x10

/-- The clock is doubled, or the scan is interlaced or doubled. -/
def p96UnsupportedScanFlags : UInt16 := 0x01 ||| 0x02 ||| 0x04 ||| 0x40

/-- `ZZ_FW_CAP_CUSTOM_MODE` -/
def capCustomMode : UInt16 := 0x80

inductive ModelineAction where
  | reject
  | preset
  | custom
  deriving DecidableEq, Repr

/-- `struct zz_modeline_plan`. The preset points to a row of the fixed timings. -/
structure PlanRecord where
  action : ModelineAction
  scale : UInt8
  preset : Option RtgModeTiming
  custom : CustomMode
  achievedClock : UInt32
  deriving DecidableEq, Repr

/-- The preset, and the scale that the caller finds in its variable. -/
def p96PresetForDimensions (p96 : P96Mode) (scale : UInt16) : Option RtgModeTiming × UInt16 :=
  if p96.width < 320 ∨ p96.height < 200 then
    (none, scale)
  else
    let scale := if p96.width < 640 ∧ p96.height < 480 then 3 else 0
    (rtgModeTimingForLogicalSize p96.width p96.height, scale)

def p96MatchingPreset (p96 : P96Mode) (scale : UInt16) : Option RtgModeTiming × UInt16 :=
  match p96PresetForDimensions p96 scale with
  | (none, scale) => (none, scale)
  | (some timing, scale) =>
    if p96.horTotal ≠ timing.htotal
        ∨ p96.horSyncStart ≠ timing.hsyncStart - p96.width
        ∨ p96.horSyncSize ≠ timing.hsyncEnd - timing.hsyncStart
        ∨ p96.verTotal ≠ timing.vtotal
        ∨ p96.verSyncStart ≠ timing.vsyncStart - p96.height
        ∨ p96.verSyncSize ≠ timing.vsyncEnd - timing.vsyncStart
        ∨ p96.pixelClock ≠ timing.pixelClockHz then
      (none, scale)
    else
      (some timing, scale)

def isNegative (flags polarity : UInt16) : UInt16 := if flags &&& polarity ≠ 0 then 1 else 0

/-- Without success the mode stays as it is, or holds a timing that is not valid. -/
def p96ToCustomMode (p96 : P96Mode) (mode : CustomMode) : Bool × CustomMode :=
  let hNegative := isNegative p96.flags p96HPolarity
  let vNegative := isNegative p96.flags p96VPolarity
  let hsyncStart := p96.width.toUInt32 + p96.horSyncStart.toUInt32
  let hsyncEnd := hsyncStart + p96.horSyncSize.toUInt32
  let vsyncStart := p96.height.toUInt32 + p96.verSyncStart.toUInt32
  let vsyncEnd := vsyncStart + p96.verSyncSize.toUInt32
  if p96.flags &&& p96UnsupportedScanFlags ≠ 0 then
    (false, mode)
  else if hNegative ≠ vNegative then
    (false, mode)
  else if hsyncEnd > 0xffff ∨ vsyncEnd > 0xffff then
    (false, mode)
  else
    let mode : CustomMode := {
      width := p96.width
      height := p96.height
      hsyncStart := hsyncStart.toUInt16
      hsyncEnd := hsyncEnd.toUInt16
      htotal := p96.horTotal
      vsyncStart := vsyncStart.toUInt16
      vsyncEnd := vsyncEnd.toUInt16
      vtotal := p96.verTotal
      polarity := hNegative
      mul := 0
      div := 0
      div2 := 0 }
    (mode.geometryValid, mode)

def PlanRecord.reset (plan : PlanRecord) : PlanRecord :=
  { plan with action := .reject, scale := 0, preset := none, achievedClock := 0 }

def PlanRecord.usePreset (plan : PlanRecord) (timing : RtgModeTiming) (scale : UInt16)
    : PlanRecord :=
  { plan with action := .preset, scale := scale.toUInt8, preset := some timing }

/-- Whether the planning goes on, and the mode that it goes on with. -/
def stageTiming (p96 : P96Mode) (requireCompleteTiming : Bool) (mode : CustomMode)
    : Bool × CustomMode :=
  if requireCompleteTiming then p96ToCustomMode p96 mode else (true, mode)

/-- `plan` is the record of the caller, with whatever it holds before. -/
def p96PlanCore (p96 : P96Mode) (firmwareCapabilities : UInt16) (requireCompleteTiming : Bool)
    (plan : PlanRecord) : Bool × PlanRecord :=
  let plan := plan.reset
  if firmwareCapabilities &&& capCustomMode ≠ 0 then
    match p96MatchingPreset p96 0 with
    | (some timing, scale) => (true, plan.usePreset timing scale)
    | (none, _) =>
      let staged := stageTiming p96 requireCompleteTiming plan.custom
      if staged.1 then
        let resolved := customResolveClock p96.pixelClock staged.2
        let plan := { plan with custom := resolved.2, achievedClock := resolved.1 }
        if resolved.1 = 0 then (false, plan) else (true, { plan with action := .custom })
      else
        (false, { plan with custom := staged.2 })
  else
    match p96PresetForDimensions p96 0 with
    | (none, _) => (false, plan)
    | (some timing, scale) => (true, plan.usePreset timing scale)

def p96PlanModeline (p96 : P96Mode) (firmwareCapabilities : UInt16) (plan : PlanRecord)
    : Bool × PlanRecord :=
  p96PlanCore p96 firmwareCapabilities true plan

def p96NegotiatePixelClock (p96 : P96Mode) (firmwareCapabilities : UInt16) (plan : PlanRecord)
    : Bool × PlanRecord :=
  p96PlanCore p96 firmwareCapabilities false plan

/-- The clock that `ResolvePixelClock` and `GetPixelClock` tell P96. -/
def PlanRecord.clock (plan : PlanRecord) : UInt32 :=
  match plan.action, plan.preset with
  | .preset, some timing => timing.pixelClockHz
  | _, _ => plan.achievedClock

def emptyPlan : PlanRecord where
  action := .reject
  scale := 0
  preset := none
  custom := ⟨0, 0, 0, 0, 0, 0, 0, 0, 0, 0, 0, 0⟩
  achievedClock := 0

/-- The planner of `SetGC`, which keeps the record on its stack. -/
def modelinePlanner : Planner := fun p96 firmwareCapabilities =>
  let planned := p96PlanModeline p96 firmwareCapabilities emptyPlan
  if planned.1 then
    match planned.2.action with
    | .reject => none
    | .preset => planned.2.preset.map fun timing => .preset timing.modeId planned.2.scale
    | .custom => some (.custom planned.2.custom)
  else
    none

end ZZRtg
