import ZZ9000.SdBoot.Device

/-!
This module contains `SD_PerformSCSI` with all of its commands, and a record of each access to the
bytes of the command and to the buffer of the caller.
-/

namespace ZZSd

open Streams

def sdHeads : UInt32 := 1
def sdTrackSectors : UInt32 := 2048

inductive ScsiAccess where
  /-- A byte of `scsi_Command` is read. -/
  | command (i : Nat)
  /-- A byte of `scsi_Data` is written. -/
  | store (i : Nat)
  /-- A byte of `scsi_Data` is read. -/
  | load (i : Nat)
  /-- Blocks are moved to or from `scsi_Data`. -/
  | transfer (blocks : UInt32)
  deriving DecidableEq, Repr

/-- The value of `err`. -/
inductive ScsiResult where
  | done
  | failed (error : IoError)
  /-- `IOERR_NOCMD` -/
  | noCmd
  deriving DecidableEq, Repr

/-- The pointer as a number, so that a NULL pointer can be used as any other. -/
def ScsiCmd.address (scsi : ScsiCmd) : Nat := scsi.data.getD 0

structure ScsiRun (σ : Type) where
  scsi : ScsiCmd
  bus : Bus σ
  accesses : List ScsiAccess

abbrev ScsiM (σ : Type) := StateM (ScsiRun σ)

section Accesses

variable {σ : Type}

def scsiByte (command : Nat → UInt8) (i : Nat) : ScsiM σ UInt8 := fun r =>
  (command i, { r with accesses := r.accesses ++ [.command i] })

def scsiStore (i : UInt32) (value : UInt8) : ScsiM σ Unit := fun r =>
  let memory := Function.update r.bus.memory (r.scsi.address + i.toNat) value
  ((), { r with bus := { r.bus with memory }, accesses := r.accesses ++ [.store i.toNat] })

def scsiLoad (i : UInt32) : ScsiM σ UInt8 := fun r =>
  (r.bus.memory (r.scsi.address + i.toNat),
    { r with accesses := r.accesses ++ [.load i.toNat] })

def scsiActual (actual : UInt32) : ScsiM σ Unit := fun r =>
  ((), { r with scsi := { r.scsi with actual } })

/-- The loops that write `val` to `data[first + i]` for `n` values of `i`. -/
def scsiFill (first : UInt32) (val : UInt32 → UInt8) (i : UInt32) (n : Nat) : ScsiM σ Unit :=
  match n with
  | 0 => pure ()
  | n + 1 => do
    scsiStore (first + i) (val i)
    scsiFill first val (i + 1) n

/-- `((uint32_t*)data)[i]` for the address of its first byte. -/
def scsiStoreLong (i : UInt32) (value : UInt32) : ScsiM σ Unit := do
  scsiStore i (value >>> 24).toUInt8
  scsiStore (i + 1) (value >>> 16).toUInt8
  scsiStore (i + 2) (value >>> 8).toUInt8
  scsiStore (i + 3) value.toUInt8

end Accesses

/-- What `REQUEST SENSE` answers: no sense. -/
def senseByte (i : UInt32) : UInt8 :=
  if i = 0 then 0x70
  else if i = 2 then 0x00
  else if i = 7 then 10
  else 0

/-- A letter of a text in the source. -/
def textByte (text : String) (i : UInt32) : UInt8 :=
  (text.toList.getD i.toNat ' ').toNat.toUInt8

def inquiryByte (i : UInt32) : UInt8 :=
  if i = 0 then 0
  else if i = 1 then (1 : UInt8) <<< 7
  else if i = 2 then 0
  else if i = 3 then 2
  else if i = 4 then 31
  else if i ≥ 8 ∧ i < 16 then textByte "MNT     " (i - 8)
  else if i ≥ 16 ∧ i < 32 then textByte "ZZ9000 SD Disk  " (i - 16)
  else if i ≥ 32 ∧ i < 36 then textByte "1.9 " (i - 32)
  else if i ≥ 36 ∧ i < 44 then textByte "1" 0
  else 0

/-- The page with the format of the disk. -/
def formatPageByte (i : UInt32) : UInt8 :=
  if i = 0 then 0x03
  else if i = 1 then 0x16
  else if i = 2 then (sdHeads >>> 8).toUInt8
  else if i = 3 then sdHeads.toUInt8
  else if i = 10 then (sdTrackSectors >>> 8).toUInt8
  else if i = 11 then sdTrackSectors.toUInt8
  else if i = 12 then (sdSectorBytes >>> 8).toUInt8
  else if i = 13 then sdSectorBytes.toUInt8
  else if i = 20 then ((1 : UInt8) <<< 6) ||| ((1 : UInt8) <<< 5)
  else 0

/-- The page with the geometry of the disk. -/
def geometryPageByte (maxblocks i : UInt32) : UInt8 :=
  let numcyls := maxblocks >>> 23
  if i = 0 then 0x04
  else if i = 1 then 0x16
  else if i = 2 then (numcyls >>> 16).toUInt8
  else if i = 3 then (numcyls >>> 8).toUInt8
  else if i = 4 then numcyls.toUInt8
  else if i = 5 then sdHeads.toUInt8
  else 0

section Commands

variable {σ : Type} (card : Card σ) (dev : SDBase) (maxblocks : UInt32)

def scsiRequestSense : ScsiM σ ScsiResult := do
  let length := (← get).scsi.length
  let n := if length < 18 then length else 18
  scsiFill 0 senseByte 0 n.toNat
  scsiActual n
  return .done

def scsiInquiry : ScsiM σ ScsiResult := do
  let n := (← get).scsi.length
  scsiFill 0 inquiryByte 0 n.toNat
  scsiActual n
  return .done

/-- At most `SD_RETRY` tries. `r1` is a `uint8_t`. -/
def scsiRetry (isWrite : Bool) (block blocks : UInt32) : ScsiM σ UInt16 := fun r =>
  let transfer := if isWrite then zzsdWriteBlocks card else zzsdReadBlocks card
  let tried :=
    retryTransfer card (fun bus => narrowStatus (transfer r.scsi.address block blocks bus))
      (sdRetry - 1) r.bus
  (tried.status, { r with bus := tried.bus, accesses := r.accesses ++ [.transfer blocks] })

/-- The checks and the transfer that the read and write cases have in common. -/
def scsiMove (isWrite : Bool) (block blocks actual : UInt32) : ScsiM σ ScsiResult := do
  let scsi := (← get).scsi
  if block + blocks > maxblocks then
    return .failed .badAddress
  else if scsi.length < blocks <<< sdSectorShift then
    return .failed .badLength
  else if scsi.data = none then
    return .failed .badAddress
  else
    let r1 ← scsiRetry card isWrite (block + dev.baseOffset) blocks
    if r1 ≠ 0 then
      return .failed .badStatus
    else
      scsiActual actual
      return .done

def scsiMove6 (command : Nat → UInt8) (isWrite : Bool) : ScsiM σ ScsiResult := do
  let high ← scsiByte command 1
  let middle ← scsiByte command 2
  let low ← scsiByte command 3
  let block := (high &&& 0x1f).toUInt32
  let block := (block <<< 8) ||| middle.toUInt32
  let block := (block <<< 8) ||| low.toUInt32
  let blocks ← scsiByte command 4
  let length := (← get).scsi.length
  scsiMove card dev maxblocks isWrite block blocks.toUInt32 length

def scsiMove10 (command : Nat → UInt8) : ScsiM σ ScsiResult := do
  let op ← scsiByte command 0
  if (← get).scsi.cmdLength < 10 then
    return .failed .badStatus
  else
    let b0 ← scsiByte command 2
    let b1 ← scsiByte command 3
    let b2 ← scsiByte command 4
    let b3 ← scsiByte command 5
    let block :=
      (b0.toUInt32 <<< 24) ||| (b1.toUInt32 <<< 16) ||| (b2.toUInt32 <<< 8) ||| b3.toUInt32
    let high ← scsiByte command 7
    let low ← scsiByte command 8
    let blocks := (high.toUInt32 <<< 8) ||| low.toUInt32
    if blocks = 0 then
      scsiActual 0
      return .done
    else
      scsiMove card dev maxblocks (op = 0x2a) block blocks (blocks <<< sdSectorShift)

def scsiReadCapacity (command : Nat → UInt8) : ScsiM σ ScsiResult := do
  if (← get).scsi.cmdLength < 10 then
    return .failed .badStatus
  else
    let b0 ← scsiByte command 2
    let b1 ← scsiByte command 3
    let b2 ← scsiByte command 4
    let b3 ← scsiByte command 5
    let block :=
      (b0.toUInt32 <<< 24) ||| (b1.toUInt32 <<< 16) ||| (b2.toUInt32 <<< 8) ||| b3.toUInt32
    let pmi ← scsiByte command 8
    if pmi &&& 1 ≠ 0 ∨ block ≠ 0 then
      return .failed .badStatus
    else if (← get).scsi.length < 8 then
      return .failed .badLength
    else
      scsiStoreLong 0 (maxblocks - 1)
      scsiStoreLong 4 sdSectorBytes
      scsiActual 8
      return .done

/-- The header of `MODE SENSE`, which comes before any check. -/
def scsiModeHeader : ScsiM σ Unit := do
  scsiStore 0 (3 + 8 + 0x16)
  scsiStore 1 0
  scsiStore 2 0
  scsiStore 3 8
  let blocks : UInt32 := if maxblocks > (1 : UInt32) <<< 24 then 0xffffff else maxblocks
  scsiStore 4 (blocks >>> 16).toUInt8
  scsiStore 5 (blocks >>> 8).toUInt8
  scsiStore 6 blocks.toUInt8
  scsiStore 7 0
  scsiStore 8 0
  scsiStore 9 0
  scsiStore 10 (sdSectorBytes >>> 8).toUInt8
  scsiStore 11 sdSectorBytes.toUInt8

/-- The loop over a page, which runs to `scsi_Length - 12`, and what the caller is told. -/
def scsiModePage (val : UInt32 → UInt8) : ScsiM σ ScsiResult := do
  let n := (← get).scsi.length - 12
  scsiFill 12 val 0 n.toNat
  let first ← scsiLoad 0
  scsiActual (first.toUInt32 + 1)
  return .done

def scsiModeSense (command : Nat → UInt8) : ScsiM σ ScsiResult := do
  scsiModeHeader maxblocks
  let page ← scsiByte command 2
  let subpage ← scsiByte command 3
  let page := (page.toUInt16 <<< 8) ||| subpage.toUInt16
  if page = 0x0300 then
    scsiModePage formatPageByte
  else if page = 0x0400 then
    scsiModePage (geometryPageByte maxblocks)
  else
    return .failed .badStatus

/-- The `switch` over the command. -/
def scsiSwitch (command : Nat → UInt8) : ScsiM σ ScsiResult := do
  let op ← scsiByte command 0
  if op = 0x00 then
    return .done
  else if op = 0x03 then
    scsiRequestSense
  else if op = 0x1b then
    return .done
  else if op = 0x12 then
    scsiInquiry
  else if op = 0x08 then
    scsiMove6 card dev maxblocks command false
  else if op = 0x0a then
    scsiMove6 card dev maxblocks command true
  else if op = 0x25 then
    scsiReadCapacity maxblocks command
  else if op = 0x28 ∨ op = 0x2a then
    scsiMove10 card dev maxblocks command
  else if op = 0x1a then
    scsiModeSense maxblocks command
  else
    return .noCmd

end Commands

/-- What is answered where no command says otherwise. -/
def ScsiCmd.defaults (scsi : ScsiCmd) : ScsiCmd :=
  { scsi with actual := 0, cmdActual := scsi.cmdLength, status := 0, senseActual := 0 }

/-- `capacity` is the register that `zzsd_capacity` reads. -/
def scsiPerform {σ : Type} (card : Card σ) (dev : SDBase) (capacity : UInt32) (scsi : ScsiCmd)
    (bus : Bus σ) : ScsiResult × ScsiRun σ :=
  let maxblocks :=
    if dev.partBlocks = 0 then zzsdCapacityOrDefault capacity else dev.partBlocks
  if scsi.cmdLength < 6 then
    (.failed .badLength, { scsi, bus, accesses := [] })
  else
    match scsi.command with
    | none => (.failed .badAddress, { scsi, bus, accesses := [] })
    | some command =>
      if scsi.length > 0 ∧ scsi.data = none then
        (.failed .badAddress, { scsi, bus, accesses := [] })
      else
        scsiSwitch card dev maxblocks command { scsi := scsi.defaults, bus, accesses := [] }

end ZZSd
