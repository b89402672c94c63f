import ZZ9000.Config.Generate
import ZZ9000.Config.Parse
import ZZ9000.Fwup.Client

/-!
This module contains the editor model of ZZ9000.CFG of `settings.c`. Its ENV: overrides do not touch
the record and are left out.
-/

namespace ZZCfg

open ZZFwup

namespace Reg

def configKey : Nat := 0xe8
def configPresent : Nat := 0xea
def configFile : Nat := 0xec
def configFileLen : Nat := 0xee
def scanlineMode : Nat := 0x100c
def scanlineParity : Nat := 0x100e

end Reg

namespace FileStatus

def ok : UInt16 := 0
def noFile : UInt16 := 1
def ioError : UInt16 := 2
def idle : UInt16 := 0xffff

end FileStatus

namespace QueryKey

def fastRam : UInt16 := 19
def fastRamOutcome : UInt16 := 20
def gamma : UInt16 := 35

end QueryKey

def cfgPollLimit : Nat := 2000000

def errOpen : UInt16 := 0x0004
def errUnknown : UInt16 := 0x0009
def errConfigSize : UInt16 := 0x00fc

/-- The registers and the buffer of the board, and what `struct board` caches of it. -/
structure Board (σ : Type) where
  fwVersion : UInt16
  fwCaps : UInt16
  regRead : Nat → σ → UInt16 × σ
  regWrite : Nat → UInt16 → σ → σ
  bufferRead : Nat → σ → UInt8 × σ
  fwup : FwupIo σ

variable {σ : Type}

namespace Board

def hasCfg (board : Board σ) : Bool := board.fwVersion ≥ 0x0203

def hasCap (board : Board σ) (bit : UInt16) : Bool := board.fwCaps &&& bit != 0

def zzcfgQuery (board : Board σ) (key : UInt16) (ctx : σ) : (UInt16 × Bool) × σ :=
  let (value, ctx) := board.regRead Reg.configKey (board.regWrite Reg.configKey key ctx)
  let (present, ctx) := board.regRead Reg.configPresent ctx
  ((value, present != 0), ctx)

def gamma (board : Board σ) (ctx : σ) : UInt16 × σ :=
  if board.hasCfg = false then
    (0, ctx)
  else
    let ((value, _), ctx) := board.zzcfgQuery QueryKey.gamma ctx
    (value, ctx)

/-- The loops of `zzcfg_read_raw`: the first status that `stop` accepts, or the last one. -/
def pollConfigFile (board : Board σ) (stop : UInt16 → Bool) (budget : Nat) (status : UInt16)
    (ctx : σ)
    : UInt16 × σ :=
  match budget with
  | 0 => (status, ctx)
  | budget + 1 =>
    let (status, ctx) := board.regRead Reg.configFile ctx
    if stop status then (status, ctx) else pollConfigFile board stop budget status ctx

def readBuffer (board : Board σ) (len offset : Nat) (ctx : σ) : List Char × σ :=
  match len with
  | 0 => ([], ctx)
  | len + 1 =>
    let (byte, ctx) := board.bufferRead offset ctx
    let (rest, ctx) := readBuffer board len (offset + 1) ctx
    (Char.ofNat byte.toNat :: rest, ctx)

def zzcfgReadRaw (board : Board σ) (maxlen : Nat) (ctx : σ) : (UInt16 × List Char) × σ :=
  if maxlen = 0 then
    ((FileStatus.ioError, []), ctx)
  else
    let ctx := board.regWrite Reg.configFile 0 ctx
    let (status, ctx) :=
      board.pollConfigFile (· == FileStatus.idle) cfgPollLimit FileStatus.idle ctx
    if status ≠ FileStatus.idle then
      ((FileStatus.idle, []), ctx)
    else
      let ctx := board.regWrite Reg.configFile 1 ctx
      let (status, ctx) :=
        board.pollConfigFile (· != FileStatus.idle) cfgPollLimit FileStatus.idle ctx
      if status ≠ FileStatus.ok then
        ((status, []), ctx)
      else
        let (len, ctx) := board.regRead Reg.configFileLen ctx
        let (text, ctx) := board.readBuffer (min len.toNat (maxlen - 1)) 0 ctx
        ((FileStatus.ok, text), ctx)

end Board

inductive FastRamState where
  | unavailable
  | enabled
  | withheld
  | disabled
deriving DecidableEq

def zzcfgFastRamEffectiveState (board : Board σ) (ctx : σ) : (FastRamState × UInt16) × σ :=
  let ((value, present), ctx) := board.zzcfgQuery QueryKey.fastRamOutcome ctx
  if present = false then
    ((.unavailable, value), ctx)
  else if value == FastRamOutcome.enabled || value == FastRamOutcome.bakOn then
    ((.enabled, value), ctx)
  else
    let ((saved, savedPresent), ctx) := board.zzcfgQuery QueryKey.fastRam ctx
    if savedPresent && saved != 0 then
      ((.withheld, value), ctx)
    else
      ((.disabled, value), ctx)

/-- `values_defaults`, in the order in which it reads the registers. -/
def valuesDefaults (board : Board σ) (ctx : σ) : ZzcfgValues × σ :=
  let (scanlineMode, ctx) := board.regRead Reg.scanlineMode ctx
  let (scanlineParity, ctx) := board.regRead Reg.scanlineParity ctx
  let (gamma, ctx) := board.gamma ctx
  let gamma := if gamma = 0 then gammaHundredthsIdentity else gamma
  (defaultValues (board.hasCap capVideocapProfile) board.fwCaps (scanlineMode &&& 0x3)
    (scanlineParity &&& 0x1) gamma, ctx)

inductive CfgField where
  | profile
  | sample
  | scanMode
  | scanParity
  | cropH
  | cropV
  | phaseE7m
  | phaseC28
  | width
  | height
  | int2
  | mac
  | hdf
  | offscreen
  | overlay
  | fastRam
  | gamma
deriving DecidableEq, Repr

def CfgField.all : List CfgField :=
  [.profile, .sample, .scanMode, .scanParity, .cropH, .cropV, .phaseE7m, .phaseC28, .width,
    .height, .int2, .mac, .hdf, .offscreen, .overlay, .fastRam, .gamma]

/-- `struct settings_state`, with the static record that a save writes. Bit `f` of `dirty`. -/
structure SettingsState where
  supported : Bool
  readStatus : UInt16
  fileBytes : Nat
  saved : ZzcfgValues
  edit : ZzcfgValues
  dirty : CfgField → Bool
  fastRamState : FastRamState
  fastRamOutcome : UInt16
  saveValues : ZzcfgValues

def settingsPresent (v : ZzcfgValues) (f : CfgField) : Bool :=
  match f with
  | .profile => v.videocapProfilePresent
  | .sample => v.videocapSamplePresent
  | .scanMode => v.scanlineModePresent
  | .scanParity => v.scanlineParityPresent
  | .gamma => v.gammaPresent
  | .cropH => v.videocapCropHPresent
  | .cropV => v.videocapCropVPresent
  | .phaseE7m => v.videocapPhasePresent
  | .phaseC28 => v.videocapC28PhasePresent
  | .width => v.videocapWidthPresent
  | .height => v.videocapHeightPresent
  | .mac => !v.mac.isEmpty
  | .hdf => !v.hdf.isEmpty
  | .fastRam => v.fastRamPresent && !v.fastRamInvalid
  | _ => true

def settingsValue (v : ZzcfgValues) (f : CfgField) : Int :=
  match f with
  | .profile => v.videocapProfile.toNat
  | .sample => v.videocapSample.toNat
  | .scanMode => v.scanlineMode.toNat
  | .scanParity => v.scanlineParity.toNat
  | .gamma => v.gamma.toNat
  | .cropH => v.videocapCropH.toNat
  | .cropV => v.videocapCropV.toNat
  | .phaseE7m => v.videocapPhase.toInt
  | .phaseC28 => v.videocapC28Phase.toInt
  | .width => v.videocapWidth.toNat
  | .height => v.videocapHeight.toNat
  | .int2 => v.int2.toInt
  | .offscreen => v.offscreenBitmaps.toInt
  | .overlay => v.videoOverlay.toInt
  | .fastRam => v.fastRam.toInt
  | _ => 0

def fieldEqual (a b : ZzcfgValues) (f : CfgField) : Bool :=
  match f with
  | .mac => a.mac == b.mac
  | .hdf => a.hdf == b.hdf
  | .fastRam =>
    a.fastRamPresent == b.fastRamPresent && a.fastRamInvalid == b.fastRamInvalid &&
      (!a.fastRamPresent || a.fastRam == b.fastRam)
  | f =>
    if settingsPresent a f ≠ settingsPresent b f then
      false
    else if settingsPresent a f = false then
      true
    else
      settingsValue a f == settingsValue b f

def fieldCopy (dst src : ZzcfgValues) (f : CfgField) : ZzcfgValues :=
  match f with
  | .profile =>
    { dst with
      videocapProfile := src.videocapProfile
      videocapProfilePresent := src.videocapProfilePresent }
  | .sample =>
    { dst with
      videocapSample := src.videocapSample
      videocapSamplePresent := src.videocapSamplePresent }
  | .scanMode =>
    { dst with
      scanlineMode := src.scanlineMode
      scanlineModePresent := src.scanlineModePresent }
  | .scanParity =>
    { dst with
      scanlineParity := src.scanlineParity
      scanlineParityPresent := src.scanlineParityPresent }
  | .gamma => { dst with gamma := src.gamma, gammaPresent := src.gammaPresent }
  | .cropH =>
    { dst with
      videocapCropH := src.videocapCropH
      videocapCropHPresent := src.videocapCropHPresent }
  | .cropV =>
    { dst with
      videocapCropV := src.videocapCropV
      videocapCropVPresent := src.videocapCropVPresent }
  | .phaseE7m =>
    { dst with
      videocapPhase := src.videocapPhase
      videocapPhasePresent := src.videocapPhasePresent }
  | .phaseC28 =>
    { dst with
      videocapC28Phase := src.videocapC28Phase
      videocapC28PhasePresent := src.videocapC28PhasePresent }
  | .width =>
    { dst with
      videocapWidth := src.videocapWidth
      videocapWidthPresent := src.videocapWidthPresent }
  | .height =>
    { dst with
      videocapHeight := src.videocapHeight
      videocapHeightPresent := src.videocapHeightPresent }
  | .int2 => { dst with int2 := src.int2 }
  | .mac => { dst with mac := src.mac }
  | .hdf => { dst with hdf := src.hdf }
  | .offscreen => { dst with offscreenBitmaps := src.offscreenBitmaps }
  | .overlay => { dst with videoOverlay := src.videoOverlay }
  | .fastRam =>
    { dst with
      fastRam := src.fastRam
      fastRamPresent := src.fastRamPresent
      fastRamInvalid := src.fastRamInvalid }

namespace SettingsState

def updateDirty (cfg : SettingsState) (f : CfgField) : SettingsState :=
  { cfg with dirty := Function.update cfg.dirty f (!fieldEqual cfg.edit cfg.saved f) }

/-- The casts of a `LONG` to `UWORD` and to `WORD`. -/
def toUword (value : Int) : UInt16 := UInt16.ofInt value
def toWord (value : Int) : Int16 := Int16.ofInt value

/-- The switch of `settings_set`, `none` for its default. -/
def setField (v : ZzcfgValues) (f : CfgField) (value : Int) : Option ZzcfgValues :=
  match f with
  | .profile =>
    some { v with videocapProfile := toUword value, videocapProfilePresent := true }
  | .sample => some { v with videocapSample := toUword value, videocapSamplePresent := true }
  | .scanMode => some { v with scanlineMode := toUword value, scanlineModePresent := true }
  | .scanParity => some { v with scanlineParity := toUword value, scanlineParityPresent := true }
  | .gamma => some { v with gamma := toUword value, gammaPresent := true }
  | .cropH => some { v with videocapCropH := toUword value, videocapCropHPresent := true }
  | .cropV => some { v with videocapCropV := toUword value, videocapCropVPresent := true }
  | .phaseE7m => some { v with videocapPhase := toWord value, videocapPhasePresent := true }
  | .phaseC28 => some { v with videocapC28Phase := toWord value, videocapC28PhasePresent := true }
  | .width => some { v with videocapWidth := toUword value, videocapWidthPresent := true }
  | .height => some { v with videocapHeight := toUword value, videocapHeightPresent := true }
  | .int2 => some { v with int2 := value != 0 }
  | .offscreen => some { v with offscreenBitmaps := value != 0 }
  | .overlay => some { v with videoOverlay := value != 0 }
  | .fastRam =>
    some { v with fastRam := value != 0, fastRamPresent := true, fastRamInvalid := false }
  | _ => none

def setTextField (v : ZzcfgValues) (f : CfgField) (text : List Char) : Option ZzcfgValues :=
  match f with
  | .mac => some { v with mac := snprintf macSize (cString text) }
  | .hdf => some { v with hdf := snprintf hdfSize (cString text) }
  | _ => none

def clearField (v : ZzcfgValues) (f : CfgField) : Option ZzcfgValues :=
  match f with
  | .profile => some { v with videocapProfilePresent := false }
  | .sample => some { v with videocapSamplePresent := false }
  | .scanMode => some { v with scanlineModePresent := false }
  | .scanParity => some { v with scanlineParityPresent := false }
  | .gamma => some { v with gammaPresent := false }
  | .cropH => some { v with videocapCropHPresent := false }
  | .cropV => some { v with videocapCropVPresent := false }
  | .phaseE7m => some { v with videocapPhasePresent := false }
  | .phaseC28 => some { v with videocapC28PhasePresent := false }
  | .width => some { v with videocapWidthPresent := false }
  | .height => some { v with videocapHeightPresent := false }
  | .mac => some { v with mac := [] }
  | .hdf => some { v with hdf := [] }
  | .fastRam => some { v with fastRamPresent := false, fastRamInvalid := false }
  | _ => none

/-- An edit function returns at once where its switch has no case. -/
def edited (cfg : SettingsState) (f : CfgField) (edit : Option ZzcfgValues) : SettingsState :=
  match edit with
  | some edit => { cfg with edit := edit }.updateDirty f
  | none => cfg

def settingsSet (cfg : SettingsState) (f : CfgField) (value : Int) : SettingsState :=
  cfg.edited f (setField cfg.edit f value)

def settingsSetText (cfg : SettingsState) (f : CfgField) (text : List Char) : SettingsState :=
  cfg.edited f (setTextField cfg.edit f text)

def settingsClear (cfg : SettingsState) (f : CfgField) : SettingsState :=
  cfg.edited f (clearField cfg.edit f)

def settingsReset (cfg : SettingsState) (f : CfgField) : SettingsState :=
  { cfg with
    edit := fieldCopy cfg.edit cfg.saved f
    dirty := Function.update cfg.dirty f false }

structure CardRead where
  status : UInt16
  values : ZzcfgValues
  bytes : Nat

def readCard (board : Board σ) (cfg : SettingsState) (applyBootOutcome : Bool) (ctx : σ)
    : CardRead × σ :=
  let (v, ctx) := valuesDefaults board ctx
  if cfg.supported then
    let ((status, text), ctx) := board.zzcfgReadRaw (maxSize + 1) ctx
    let v := if status = FileStatus.ok then zzcfgParseText text v else v
    let v := if applyBootOutcome then zzcfgFastRamInvalidateWithheld v cfg.fastRamOutcome else v
    (⟨status, v, text.length⟩, ctx)
  else
    (⟨FileStatus.idle, v, 0⟩, ctx)

def fastRamScan (board : Board σ) (cfg : SettingsState) (ctx : σ) : SettingsState × σ :=
  let cfg := { cfg with
    fastRamOutcome := FastRamOutcome.pending
    fastRamState := .unavailable }
  if cfg.supported then
    let ((state, outcome), ctx) := zzcfgFastRamEffectiveState board ctx
    ({ cfg with fastRamState := state, fastRamOutcome := outcome }, ctx)
  else
    (cfg, ctx)

def settingsLoad (board : Board σ) (cfg : SettingsState) (ctx : σ) : SettingsState × σ :=
  let cfg := { cfg with supported := board.hasCfg }
  let (cfg, ctx) := fastRamScan board cfg ctx
  let (card, ctx) := readCard board cfg true ctx
  ({ cfg with
      readStatus := card.status
      fileBytes := card.bytes
      saved := card.values
      edit := card.values
      dirty := fun _ => false }, ctx)

def cfgFileName : List Char := "ZZ9000.CFG".toList

def textBytes (text : List Char) : List UInt8 := text.map (fun c => c.toNat.toUInt8)

/-- Aborts the transfer after a failed step. -/
def abortWith (io : FwupIo σ) (st : UInt16) (client : FwupClient σ) : UInt16 × FwupClient σ :=
  (st, (client.fwupAbort io).2)

def zzcfgSave (io : FwupIo σ) (v : ZzcfgValues) (client : FwupClient σ)
    : UInt16 × FwupClient σ :=
  match zzcfgGenerate v maxSize with
  | none => (errConfigSize, client)
  | some text =>
    let (st, client) := client.fwupOpen io cfgFileName
    if st ≠ Status.ok then
      (st, client)
    else
      let (st, client) := client.fwupWriteChunk io (textBytes text)
      if st ≠ Status.ok then
        abortWith io st client
      else
        let (st, client) := client.fwupClose io
        if st ≠ Status.ok then abortWith io st client else (st, client)

/-- The loop of `settings_save` over the dirty fields. -/
def copyDirty (dirty : CfgField → Bool) (dst src : ZzcfgValues) (fields : List CfgField) :
    ZzcfgValues :=
  match fields with
  | [] => dst
  | f :: fields => copyDirty dirty (if dirty f then fieldCopy dst src f else dst) src fields

/-- `settings_save`, with the record handed to `zzcfg_save` if it gets that far. -/
def settingsSave (board : Board σ) (cfg : SettingsState) (client : FwupClient σ)
    : (UInt16 × Option ZzcfgValues) × SettingsState × FwupClient σ :=
  if cfg.supported = false then
    ((errUnknown, none), cfg, client)
  else
    let (card, ctx) := readCard board cfg true client.ctx
    let client := { client with ctx }
    if card.status ≠ FileStatus.ok && card.status ≠ FileStatus.noFile then
      ((errOpen, none), { cfg with saveValues := card.values }, client)
    else
      let values := copyDirty cfg.dirty card.values cfg.edit CfgField.all
      let cfg := { cfg with saveValues := values }
      let (st, client) := zzcfgSave board.fwup values client
      if st = Status.ok then
        let (cfg, ctx) := settingsLoad board cfg client.ctx
        ((st, some values), cfg, { client with ctx })
      else
        ((st, some values), cfg, client)

end SettingsState

end ZZCfg
