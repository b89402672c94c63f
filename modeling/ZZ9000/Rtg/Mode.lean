import ZZ9000.Rtg.Board

/-!
This module contains the mode hooks of `mntgfx-gcc.c`: `SetGC` with the custom modeline of
`custom_modeline.h`, `SetSwitch` and `SetPanning`.
-/

namespace ZZRtg

open DriverOp

/-- The fields of `struct ModeInfo` that the hooks read or write. -/
structure ModeInfo where
  width : UInt16
  height : UInt16
  flags : UInt8
  horTotal : UInt16
  horSyncStart : UInt16
  horSyncSize : UInt16
  verTotal : UInt16
  verSyncStart : UInt16
  verSyncSize : UInt16
  pixelClock : UInt32
  deriving DecidableEq, Repr

/-- `struct zz_p96_mode` -/
structure P96Mode where
  width : UInt16
  height : UInt16
  horTotal : UInt16
  horSyncStart : UInt16
  horSyncSize : UInt16
  verTotal : UInt16
  verSyncStart : UInt16
  verSyncSize : UInt16
  flags : UInt16
  pixelClock : UInt32
  deriving DecidableEq, Repr

def p96ModeOf (modeInfo : ModeInfo) (pixelClock : UInt32) : P96Mode where
  width := modeInfo.width
  height := modeInfo.height
  horTotal := modeInfo.horTotal
  horSyncStart := modeInfo.horSyncStart
  horSyncSize := modeInfo.horSyncSize
  verTotal := modeInfo.verTotal
  verSyncStart := modeInfo.verSyncStart
  verSyncSize := modeInfo.verSyncSize
  flags := modeInfo.flags.toUInt16
  pixelClock := pixelClock

/-- `struct zz_custom_mode` -/
structure CustomMode where
  width : UInt16
  height : UInt16
  hsyncStart : UInt16
  hsyncEnd : UInt16
  htotal : UInt16
  vsyncStart : UInt16
  vsyncEnd : UInt16
  vtotal : UInt16
  polarity : UInt16
  mul : UInt16
  div : UInt16
  div2 : UInt16
  deriving DecidableEq, Repr

/-- A plan that is not a refusal. `modeId` is the one of the row of the preset. -/
inductive ModelinePlan where
  | preset (modeId : UInt16) (scale : UInt8)
  | custom (mode : CustomMode)
  deriving DecidableEq, Repr

def customModeSlot : UInt16 := 20
def customStatusOk : UInt16 := 1

/-- The parameters of a custom mode with their numbers. -/
def CustomMode.fields (mode : CustomMode) : List (UInt16 × UInt16) :=
  [(0, mode.width), (1, mode.height), (2, mode.hsyncStart), (3, mode.hsyncEnd), (4, mode.htotal),
   (5, mode.vsyncStart), (6, mode.vsyncEnd), (7, mode.vtotal), (8, mode.polarity), (13, mode.mul),
   (14, mode.div), (15, mode.div2)]

/-- The stores of `zz_custom_stage_and_commit`. -/
def customStageAndCommit (mode : CustomMode) (colormode : UInt8) : List DriverOp :=
  [zzwrite16 Regs.customSelect customModeSlot]
    ++ mode.fields.flatMap (fun field =>
      [zzwrite16 Regs.customParam field.1, zzwrite16 Regs.customValue field.2])
    ++ [zzwrite16 Regs.customCommit (customModeSlot ||| (colormode.toUInt16 <<< 8))]

def sanitizeModeFlags (modeInfo : ModeInfo) : ModeInfo :=
  { modeInfo with flags := modeInfo.flags &&& ~~~(0x03 : UInt8) }

abbrev Planner := P96Mode → UInt16 → Option ModelinePlan

/-- The board with the modes that P96 keeps in its memory. -/
structure ModeState where
  board : BoardInfo
  modes : ModePtr → ModeInfo

namespace ModeState

variable (planner : Planner)

def setBoard (s : ModeState) (board : BoardInfo) : ModeState := { s with board := board }

/--
The mode that `SetGC` programs, before the firmware has answered: `none` if it returns earlier.
-/
def plan (s : ModeState) (modeInfo : Option ModePtr) : Option (ModePtr × ModelinePlan) :=
  match modeInfo with
  | none => none
  | some ptr =>
    let info := s.modes ptr
    if info.width < 320 ∨ info.height < 200 then
      none
    else if mntColormode s.board.rgbFormat.toUInt16 = colorModeNoUse then
      none
    else
      let capabilities := (s.board.cardData CardData.fwCapabilities).toUInt16
      (planner (p96ModeOf info info.pixelClock) capabilities).map fun plan => (ptr, plan)

/-- `status` is what the firmware answers to a commit. -/
def setGC (s : ModeState) (modeInfo : Option ModePtr) (border : Bool) (status : UInt16)
    : ModeState × List DriverOp :=
  let colormode := mntColormode s.board.rgbFormat.toUInt16
  let rejected := s.setBoard (s.board.setCardData CardData.gcRejected 1)
  match s.plan planner modeInfo with
  | none => (rejected, [])
  | some (ptr, .custom mode) =>
    let ops := customStageAndCommit mode colormode.toUInt8
    if status = customStatusOk then
      let board := { rejected.board with modeInfo := some ptr, border := border }
      (s.setBoard (board.setCardData CardData.gcRejected 0), ops)
    else
      (rejected, ops)
  | some (ptr, .preset modeId scale) =>
    let modes := Function.update s.modes ptr (sanitizeModeFlags (s.modes ptr))
    let board := { rejected.board with modeInfo := some ptr, border := border }
    let mode := modeId ||| (colormode <<< 8) ||| (scale.toUInt16 <<< 12)
    (⟨board.setCardData CardData.gcRejected 0, modes⟩, [zzwrite16 Regs.mode mode])

def vmode800x600 : UInt16 := 1
def vmodeCentered1080p60 : UInt16 := 5
def vmodeCentered1080p50 : UInt16 := 7
def vmodeCentered1080pMatch : UInt16 := 0x100

def vcapModeIsCentered (mode : UInt16) : Bool :=
  mode == vmodeCentered1080p60 || mode == vmodeCentered1080p50 || mode == vmodeCentered1080pMatch

/-- `ZZ_FW_CAP_VIDEOCAP_SCANOUT_ORIGIN` -/
def capScanoutOrigin : UInt16 := 0x40

def vcapNativePanOffset (mode firmwareCapabilities : UInt16) : UInt32 :=
  if vcapModeIsCentered mode then
    0x00dff2f8
  else if mode = vmode800x600 ∧ firmwareCapabilities &&& capScanoutOrigin = 0 then
    0x00dff2f8
  else
    0x00e00000

/-- The board remembers the state of the monitor switch. -/
def setMonitorSwitch (s : ModeState) (enabled : UInt16) : ModeState :=
  let switch : UInt16 := if enabled ≠ 0 then 1 else 0
  let board := s.board.setCardData CardData.monitorSwitch switch.toUInt32
  s.setBoard { board with moniSwitch := switch }

/-- The first result is the state of the monitor switch before the call. -/
def setSwitch (s : ModeState) (enabled : UInt16) (status : UInt16)
    : UInt16 × ModeState × List DriverOp :=
  let old := (s.board.cardData CardData.monitorSwitch).toUInt16
  if s.board.registerBase = 0 then
    (old, s, [])
  else
    let s := s.setMonitorSwitch enabled
    if enabled = 0 then
      let pan := vcapNativePanOffset (s.board.cardData CardData.vcapMode).toUInt16
        (s.board.cardData CardData.fwCapabilities).toUInt16
      let ops := [
        zzwrite16 Regs.panPtrHi (pan >>> 16).toUInt16,
        zzwrite16 Regs.panPtrLo pan.toUInt16,
        zzwrite16 Regs.videocapMode 1]
      (old, s, ops)
    else
      let ops := [zzwrite16 Regs.videocapMode 0]
      match s.board.modeInfo with
      | none => (old, s, ops)
      | some ptr =>
        -- the stored mode is set once more
        let r := s.setGC planner (some ptr) s.board.border status
        (old, r.1, ops ++ r.2)

end ModeState

def opPan : UInt16 := 10

namespace BoardInfo

def setPanning (b : BoardInfo) (addr : UInt32) (width : UInt16) (xOffset yOffset : Int16)
    (format : UInt32) : BoardInfo × List DriverOp :=
  if b.cardData CardData.gcRejected ≠ 0 then
    (b, [])
  else
    let b := { b with xOffset := xOffset, yOffset := yOffset }
    let offset := addr - b.memoryBase
    let colormode := panningColormode (mntColormode (format &&& 0xff).toUInt16)
    if b.isZ3 then
      let ops := [
        writeGfxData .offset0 offset,
        writeGfxData .x0 xOffset.toUInt16.toUInt32,
        writeGfxData .y0 yOffset.toUInt16.toUInt32,
        writeGfxData .x1 width.toUInt32,
        writeGfxData .colormode colormode.toUInt8.toUInt32,
        zzwrite16 Regs.blitterDmaOp opPan]
      (b, ops)
    else
      let ops := [
        writeBlitterX1 xOffset.toUInt16,
        writeBlitterY1 yOffset.toUInt16,
        writeBlitterX2 width,
        writeBlitterColorMode colormode,
        zzwrite32 Regs.panPtrHi offset]
      (b, ops)

end BoardInfo

end ZZRtg
