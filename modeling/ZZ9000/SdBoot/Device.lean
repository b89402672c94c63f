import ZZ9000.SdBoot.Commands

/-!
This module contains the requests of `zzsd_device.c` that move blocks: `SD_ReadWrite`, the read and
write commands of `SD_PerformSCSI`, and the part of `SD_PerformIO` that dispatches to them.
-/

namespace ZZSd

def sdRetry : Nat := 10
def sdCyls : UInt32 := 4096
def sdCylSectors : UInt32 := 2048

inductive IoError where
  | openFail
  | aborted
  | badAddress
  | badLength
  | diskChanged
  | seekError
  | badStatus
  deriving DecidableEq, Repr

inductive IoCommand where
  | cmdRead
  | cmdWrite
  | tdFormat
  | tdRead64
  | tdWrite64
  | tdFormat64
  | nscmdTdRead64
  | nscmdTdWrite64
  | nscmdTdFormat64
  | hdScsicmd
  deriving DecidableEq, Repr

structure ScsiCmd where
  data : Option Nat
  length : UInt32
  actual : UInt32
  command : Option (Nat → UInt8)
  cmdLength : UInt16
  cmdActual : UInt16
  status : UInt8
  senseActual : UInt16

/-- `data` is `io_Data` of a transfer, `scsi` is `io_Data` of `HD_SCSICMD`. -/
structure IORequest where
  command : IoCommand
  aborted : Bool
  data : Option Nat
  scsi : Option ScsiCmd
  length : UInt32
  offset : UInt32
  actual : UInt32

structure SDBase where
  enabled : Bool
  baseOffset : UInt32
  partBlocks : UInt32
  deriving DecidableEq, Repr

/-- What a request leaves behind. `attempts` has the commands of each try. -/
structure Outcome (σ : Type) where
  error : Option IoError
  io : IORequest
  bus : Bus σ
  attempts : List (List Command)

structure Retried (σ : Type) where
  status : UInt16
  bus : Bus σ
  attempts : List (List Command)

def refuse {σ : Type} (error : IoError) (io : IORequest) (bus : Bus σ) : Outcome σ :=
  { error := some error, io, bus, attempts := [] }

variable {σ : Type} (card : Card σ)

def zzsdReset (bus : Bus σ) : Bus σ := { bus with card := card.reset bus.card }

def zzsdCapacityOrDefault (capacity : UInt32) : UInt32 :=
  if capacity = 0 then sdCylSectors * sdCyls else capacity

/-- `retries` are left after this try. -/
def retryTransfer (transfer : Bus σ → Attempt σ) (retries : Nat) (bus : Bus σ) : Retried σ :=
  let tried := transfer bus
  if tried.status = 0 then
    { status := 0, bus := tried.bus, attempts := [tried.commands] }
  else
    let bus := zzsdReset card tried.bus
    match retries with
    | 0 => { status := tried.status, bus, attempts := [tried.commands] }
    | retries + 1 =>
      let rest := retryTransfer transfer retries bus
      { rest with attempts := tried.commands :: rest.attempts }

def sdReadWrite (dev : SDBase) (io : IORequest) (offset offsetHi : UInt32) (isWrite : Bool)
    (bus : Bus σ) : Outcome σ :=
  match io.data with
  | none => refuse .badAddress io bus
  | some data =>
    let len := io.length
    if len < sdSectorBytes then
      refuse .badLength { io with actual := 0 } bus
    else
      let block := (offset >>> sdSectorShift) ||| (offsetHi <<< (32 - sdSectorShift))
      let block := block + dev.baseOffset
      let numBlocks := len >>> sdSectorShift
      let transfer := if isWrite then zzsdWriteBlocks card else zzsdReadBlocks card
      let tried := retryTransfer card (transfer data block numBlocks) (sdRetry - 1) bus
      if tried.status ≠ 0 then
        { error := some (if tried.status &&& sderrfTimeout ≠ 0 then .diskChanged else .seekError)
          io := { io with actual := 0 }
          bus := tried.bus
          attempts := tried.attempts }
      else
        { error := none
          io := { io with actual := len }
          bus := tried.bus
          attempts := tried.attempts }

/-- `r1` is a `uint8_t`. -/
def narrowStatus (tried : Attempt σ) : Attempt σ :=
  { tried with status := tried.status.toUInt8.toUInt16 }

/-- The checks and the transfer that the read and write cases have in common. `actual` is what the
case reports. -/
def scsiTransfer (dev : SDBase) (maxblocks : UInt32) (io : IORequest) (scsi : ScsiCmd)
    (isWrite : Bool) (block blocks actual : UInt32) (bus : Bus σ) : Outcome σ :=
  if block + blocks > maxblocks then
    refuse .badAddress { io with scsi := some scsi } bus
  else if scsi.length < blocks <<< sdSectorShift then
    refuse .badLength { io with scsi := some scsi } bus
  else
    match scsi.data with
    | none => refuse .badAddress { io with scsi := some scsi } bus
    | some data =>
      let block := block + dev.baseOffset
      let transfer := if isWrite then zzsdWriteBlocks card else zzsdReadBlocks card
      let tried :=
        retryTransfer card (fun bus => narrowStatus (transfer data block blocks bus))
          (sdRetry - 1) bus
      if tried.status ≠ 0 then
        { error := some .badStatus
          io := { io with scsi := some scsi }
          bus := tried.bus
          attempts := tried.attempts }
      else
        { error := none
          io := { io with scsi := some { scsi with actual } }
          bus := tried.bus
          attempts := tried.attempts }

/-- The block number of the commands of six bytes. -/
def scsiBlock6 (command : Nat → UInt8) : UInt32 :=
  let block := (command 1 &&& 0x1f).toUInt32
  let block := (block <<< 8) ||| (command 2).toUInt32
  (block <<< 8) ||| (command 3).toUInt32

def scsiBlocks6 (command : Nat → UInt8) : UInt32 := (command 4).toUInt32

/-- The block number of the commands of ten bytes. -/
def scsiBlock10 (command : Nat → UInt8) : UInt32 :=
  ((command 2).toUInt32 <<< 24) ||| ((command 3).toUInt32 <<< 16)
    ||| ((command 4).toUInt32 <<< 8) ||| (command 5).toUInt32

def scsiBlocks10 (command : Nat → UInt8) : UInt32 :=
  ((command 7).toUInt32 <<< 8) ||| (command 8).toUInt32

def scsiReadWrite6 (dev : SDBase) (maxblocks : UInt32) (io : IORequest) (scsi : ScsiCmd)
    (command : Nat → UInt8) (isWrite : Bool) (bus : Bus σ) : Outcome σ :=
  scsiTransfer card dev maxblocks io scsi isWrite (scsiBlock6 command) (scsiBlocks6 command)
    scsi.length bus

def scsiReadWrite10 (dev : SDBase) (maxblocks : UInt32) (io : IORequest) (scsi : ScsiCmd)
    (command : Nat → UInt8) (isWrite : Bool) (bus : Bus σ) : Outcome σ :=
  let block := scsiBlock10 command
  let blocks := scsiBlocks10 command
  if scsi.cmdLength < 10 then
    refuse .badStatus { io with scsi := some scsi } bus
  else if blocks = 0 then
    { error := none, io := { io with scsi := some { scsi with actual := 0 } }, bus, attempts := [] }
  else
    scsiTransfer card dev maxblocks io scsi isWrite block blocks (blocks <<< sdSectorShift) bus

/-- `capacity` is the register that `zzsd_capacity` reads. The result is `none` for the commands
that move no blocks. -/
def sdPerformScsi (dev : SDBase) (capacity : UInt32) (io : IORequest) (bus : Bus σ)
    : Option (Outcome σ) :=
  match io.scsi with
  | none => some (refuse .badAddress io bus)
  | some scsi =>
    let maxblocks :=
      if dev.partBlocks = 0 then zzsdCapacityOrDefault capacity else dev.partBlocks
    if scsi.cmdLength < 6 then
      some (refuse .badLength io bus)
    else
      match scsi.command with
      | none => some (refuse .badAddress io bus)
      | some command =>
        if scsi.length > 0 ∧ scsi.data = none then
          some (refuse .badAddress io bus)
        else
          let scsi :=
            { scsi with actual := 0, cmdActual := scsi.cmdLength, status := 0, senseActual := 0 }
          if command 0 = 0x08 then
            some (scsiReadWrite6 card dev maxblocks io scsi command false bus)
          else if command 0 = 0x0a then
            some (scsiReadWrite6 card dev maxblocks io scsi command true bus)
          else if command 0 = 0x28 ∨ command 0 = 0x2a then
            some (scsiReadWrite10 card dev maxblocks io scsi command (command 0 = 0x2a) bus)
          else
            none

def sdPerformIO (dev : SDBase) (capacity : UInt32) (io : IORequest) (bus : Bus σ)
    : Option (Outcome σ) :=
  if !dev.enabled then
    some (refuse .openFail io bus)
  else if io.aborted then
    some (refuse .aborted io bus)
  else
    match io.command with
    | .tdFormat | .cmdWrite => some (sdReadWrite card dev io io.offset 0 true bus)
    | .cmdRead => some (sdReadWrite card dev io io.offset 0 false bus)
    | .tdWrite64 | .nscmdTdWrite64 | .tdFormat64 | .nscmdTdFormat64 =>
      some (sdReadWrite card dev io io.offset io.actual true bus)
    | .tdRead64 | .nscmdTdRead64 =>
      some (sdReadWrite card dev io io.offset io.actual false bus)
    | .hdScsicmd => sdPerformScsi card dev capacity io bus

end ZZSd
