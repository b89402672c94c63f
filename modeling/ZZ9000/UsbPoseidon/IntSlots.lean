import Mathlib.Data.UInt
import ZZ9000.Concurrency.Slots
import ZZ9000.UsbPoseidon.RootHub
import Mathlib.Data.List.FinRange

/-!
This module contains the table of pending interrupt requests of `zzusbhw_device.c`, and what
`queue_int_ior` and `abort_io` do to it while they hold `zz_Lock`.
-/

namespace ZZUsb

def intPendingSlots : Nat := 32

instance : NeZero intPendingSlots := ⟨by decide⟩

def intIdleReplyPolls : UInt8 := 10

-- `ZZ_ABORTED_REPLY_SLOTS`, with one port
def abortedReplySlots : Nat := intPendingSlots + 1 + 16

def intReuseGraceTicks : UInt8 := 8

/-- `cmd` of a command to the proxy, or a zeroed command. -/
inductive UsbCmd where
  | none
  | checkPort
  | intXfer
  | periodicArm
  | periodicReap
  | periodicStop
  deriving DecidableEq, Repr

/-- The fields of `struct ZZUSBCommand` that interrupt transfers set. -/
structure IntCommand where
  cmd : UsbCmd
  -- an address of seven bits, so that its conversions to `uint8_t` keep it
  devAddr : UInt8
  endpoint : UInt16
  direction : UInt8
  maxPktSize : UInt16
  dataLength : UInt32
  timeoutMs : UInt32
  speed : UInt16
  interval : UInt16
  splitHubAddr : UInt16
  splitHubPort : UInt16
  split : Bool
  reserved : UInt16
  deriving DecidableEq, Repr

def IntCommand.zero : IntCommand := ⟨.none, 0, 0, 0, 0, 0, 0, 0, 0, 0, 0, false, 0⟩

/-- What a client puts into an `IOUsbHWReq` for `UHCMD_INTXFER`. -/
structure IntIor (υ : Type) where
  unit : υ
  devAddr : UInt8
  endpoint : UInt16
  -- `UHDIR_IN`, otherwise `UHDIR_OUT`
  directionIn : Bool
  maxPktSize : UInt16
  length : UInt32
  interval : UInt16
  splitTrans : Bool
  lowSpeed : Bool
  highSpeed : Bool
  splitHubAddr : UInt16
  splitHubPort : UInt16
  deriving DecidableEq, Repr

/-- What the driver leaves in an `IOUsbHWReq`. -/
structure IntResult where
  actual : UInt32
  error : IoError
  deriving DecidableEq, Repr

/-- What interrupt transfers read of a `struct ZZUSBUnit` and its `struct ZZUSBProtocolState`. -/
structure IntPort where
  present : Bool
  speed : UInt16
  rootHubAddr : UInt8
  generation : UInt16
  quarantined : Bool
  -- `ZZUSB_CAP_PERIODIC`
  periodic : Bool
  dataLimit : UInt32
  deriving DecidableEq, Repr

namespace IntPort

def isDirectRootRequest (port : IntPort) : Bool := port.present && port.speed ≠ Speed.high

def bumpGeneration (port : IntPort) : IntPort :=
  { port with generation := if port.generation + 1 = 0 then 1 else port.generation + 1 }

-- `generation_for_unit`
def currentGeneration (port : IntPort) : UInt16 :=
  if port.generation = 0 then 1 else port.generation

end IntPort

namespace IntIor

variable {υ : Type}

def requestSpeed (ior : IntIor υ) (port : IntPort) : UInt16 :=
  if port.isDirectRootRequest then port.speed
  else if ior.splitTrans then
    if ior.lowSpeed then Speed.low else Speed.full
  else if ior.lowSpeed then Speed.low
  else if ior.highSpeed then Speed.high
  else port.speed

def fillSplitFields (cmd : IntCommand) (port : IntPort) (ior : IntIor υ) : IntCommand :=
  if port.isDirectRootRequest then
    cmd
  else if ior.splitTrans ∧ ior.splitHubAddr ≠ 0 ∧ ior.splitHubPort ≠ 0 then
    { cmd with
      splitHubAddr := ior.splitHubAddr
      splitHubPort := ior.splitHubPort
      split := true }
  else
    cmd

def fillIntArmCommand (ior : IntIor υ) (port : IntPort) : IntCommand :=
  let cmd :=
    { IntCommand.zero with
      cmd := .periodicArm
      devAddr := ior.devAddr
      endpoint := ior.endpoint
      direction := if ior.directionIn then 0x80 else 0
      maxPktSize := ior.maxPktSize
      speed := ior.requestSpeed port
      dataLength := ior.length
      interval := ior.interval }
  fillSplitFields cmd port ior

def intEndpointKey (ior : IntIor υ) : UInt16 := ior.endpoint &&& 0x0f

def isRootHubInt (ior : IntIor υ) (port : IntPort) : Bool :=
  ((port.rootHubAddr = 0 && ior.devAddr = 0) || ior.devAddr = port.rootHubAddr)
    && ior.endpoint = 1

end IntIor

def periodicEndpointMatches (oldDevAddr oldEndpoint oldDirection : UInt8)
    (newDevAddr newEndpoint newDirection : UInt8) : Bool :=
  oldDevAddr = newDevAddr && (oldEndpoint &&& 0x0f) = (newEndpoint &&& 0x0f)
    && oldDirection = newDirection

def interruptRearmOnReplace (armed isIn parametersChanged : Bool) : Bool :=
  armed && (!isIn || parametersChanged)

def interruptAbortAfterRetire (armed armInProgress : Bool) : Bool := armed && !armInProgress

def interruptAbortReplyReady (abortWaiting armed : Bool) : Bool := abortWaiting && !armed

inductive InterruptAction where
  | keepPending
  | complete
  | fail
  deriving DecidableEq

def interruptClassify (status : UInt16) (actual : UInt32) (isIn zeroReport : Bool)
    : InterruptAction :=
  if status = EngineStatus.nak then .keepPending
  else if status ≠ EngineStatus.ok then .fail
  else if isIn && (actual = 0 || zeroReport) then .keepPending
  else .complete

/-- `struct ZZIntPendingSlot`, for requests `ι` to units `υ` -/
structure IntSlot (ι υ : Type) where
  unit : Option υ
  ior : Option ι
  abortReply : Option ι
  armed : Bool
  abortRequested : Bool
  idlePolls : UInt8
  rearmRequired : Bool
  stopPending : Bool
  armInProgress : Bool
  armGeneration : UInt16
  reuseTicks : UInt8
  reusePending : Bool
  armedCommand : IntCommand
  deriving DecidableEq

namespace IntSlot

variable {ι υ : Type}

-- what `clear_int_slot` leaves
def zero : IntSlot ι υ where
  unit := none
  ior := none
  abortReply := none
  armed := false
  abortRequested := false
  idlePolls := 0
  rearmRequired := false
  stopPending := false
  armInProgress := false
  armGeneration := 0
  reuseTicks := 0
  reusePending := false
  armedCommand := .zero

/-- `queue_int_ior` for a detached slot that is still armed for the endpoint -/
def reuse (slot : IntSlot ι υ) (ior : ι) (candidate : IntCommand) : IntSlot ι υ :=
  { slot with
    rearmRequired := slot.armedCommand ≠ candidate
    ior := some ior
    reusePending := true
    abortRequested := false
    idlePolls := 0
    reuseTicks := 0 }

/-- `queue_int_ior` for a slot with an older request to the endpoint -/
def replace (slot : IntSlot ι υ) (unit : υ) (ior : ι) (rearm : Bool) : IntSlot ι υ :=
  { slot with
    rearmRequired := rearm || slot.rearmRequired
    unit := some unit
    ior := some ior
    abortRequested := false
    idlePolls := 0 }

/-- `queue_int_ior` for a free slot -/
def occupy (unit : υ) (ior : ι) : IntSlot ι υ :=
  { (zero : IntSlot ι υ) with
    unit := some unit
    ior := some ior }

def isFree (slot : IntSlot ι υ) : Bool :=
  slot.ior.isNone && slot.abortReply.isNone && !slot.armed

/-- `abort_io` for a request whose endpoint is armed -/
def abortAfterRetire (slot : IntSlot ι υ) (ior : ι) : IntSlot ι υ :=
  { slot with
    abortReply := some ior
    ior := none
    abortRequested := false
    idlePolls := 0
    stopPending := true
    reusePending := false
    reuseTicks := 0 }

/-- `poll_int_pending` when it completes an IN request and keeps the endpoint -/
def retainEndpoint (slot : IntSlot ι υ) : IntSlot ι υ :=
  { slot with
    ior := none
    abortRequested := false
    idlePolls := 0
    rearmRequired := false
    stopPending := false
    reusePending := false
    reuseTicks := intReuseGraceTicks }

-- `slot->ior ? slot->ior : slot->abort_reply`
def pending (slot : IntSlot ι υ) : Option ι := slot.ior <|> slot.abortReply

/-- The requests that the fields of a slot refer to. -/
def refs (slot : IntSlot ι υ) : List ι := slot.ior.toList ++ slot.abortReply.toList

end IntSlot

/-- The worker, the callers of `BeginIO` and `AbortIO`, and the rest of the driver. -/
inductive UsbTask where
  | worker
  | client (n : Nat)
  | driver
  deriving DecidableEq, Repr

structure IntState (ι υ : Type) where
  ports : υ → IntPort
  iors : ι → IntIor υ
  results : ι → IntResult
  slots : Fin intPendingSlots → IntSlot ι υ
  legacyIntPollCursor : υ → Fin intPendingSlots
  primaryMailboxLock : Option UsbTask
  foregroundMailboxUnit : Option υ
  -- `aborted_replies` of the task that holds `PrimaryMailboxLock`
  abortedReplies : List ι
  -- how often each request was deferred and replied
  accepted : ι → Nat
  replied : ι → Nat

namespace IntState

variable {ι υ : Type} [DecidableEq ι] [DecidableEq υ]

-- what `init_device` leaves
def init (ports : υ → IntPort) (iors : ι → IntIor υ) (results : ι → IntResult)
    : IntState ι υ where
  ports
  iors
  results
  slots := fun _ => .zero
  legacyIntPollCursor := fun _ => 0
  primaryMailboxLock := none
  foregroundMailboxUnit := none
  abortedReplies := []
  accepted := fun _ => 0
  replied := fun _ => 0

def setPort (s : IntState ι υ) (unit : υ) (port : IntPort) : IntState ι υ :=
  { s with ports := Function.update s.ports unit port }

def quarantine (s : IntState ι υ) (unit : υ) : IntState ι υ :=
  s.setPort unit { s.ports unit with quarantined := true }

def setResult (s : IntState ι υ) (ior : ι) (actual : UInt32) (error : IoError) : IntState ι υ :=
  { s with results := Function.update s.results ior ⟨actual, error⟩ }

def modifySlot (s : IntState ι υ) (i : Fin intPendingSlots) (f : IntSlot ι υ → IntSlot ι υ)
    : IntState ι υ :=
  { s with slots := Function.update s.slots i (f (s.slots i)) }

def clearIntSlot (s : IntState ι υ) (i : Fin intPendingSlots) : IntState ι υ :=
  s.modifySlot i (fun _ => .zero)

def accept (s : IntState ι υ) (ior : ι) : IntState ι υ :=
  { s with accepted := Function.update s.accepted ior (s.accepted ior + 1) }

-- An accepted request is not `IOF_QUICK`, `execute_io` clears that flag before it queues it.
def replyMsg (s : IntState ι υ) (ior : ι) : IntState ι υ :=
  { s with replied := Function.update s.replied ior (s.replied ior + 1) }

def replyAll (s : IntState ι υ) (iors : List ι) : IntState ι υ := iors.foldl replyMsg s

/-- `reply_now`, unless it is NULL -/
def replyNow (s : IntState ι υ) (ior : Option ι) : IntState ι υ :=
  match ior with
  | none => s
  | some ior => s.replyMsg ior

def obtainPrimary (s : IntState ι υ) (t : UsbTask) : IntState ι υ :=
  { s with primaryMailboxLock := some t }

def releasePrimary (s : IntState ι υ) : IntState ι υ :=
  { s with primaryMailboxLock := none }

def setForeground (s : IntState ι υ) (unit : Option υ) : IntState ι υ :=
  { s with foregroundMailboxUnit := unit }

def intSlotMatches (s : IntState ι υ) (slot : IntSlot ι υ) (unit : υ) (ior : ι) : Bool :=
  match slot.ior with
  | none => false
  | some pending =>
    slot.unit = some unit
      && (s.iors pending).devAddr = (s.iors ior).devAddr
      && (s.iors pending).intEndpointKey = (s.iors ior).intEndpointKey
      && (s.iors pending).directionIn = (s.iors ior).directionIn

def detachedIntSlotMatches (s : IntState ι υ) (slot : IntSlot ι υ) (unit : υ) (ior : ι) : Bool :=
  if !slot.armed || slot.ior.isSome || slot.abortReply.isSome || slot.unit ≠ some unit then
    false
  else
    let candidate := (s.iors ior).fillIntArmCommand (s.ports unit)
    periodicEndpointMatches slot.armedCommand.devAddr slot.armedCommand.endpoint.toUInt8
      slot.armedCommand.direction candidate.devAddr candidate.endpoint.toUInt8 candidate.direction

def intArmParametersChanged (s : IntState ι υ) (unit : υ) (oldIor newIor : ι) : Bool :=
  (s.iors oldIor).fillIntArmCommand (s.ports unit)
    ≠ (s.iors newIor).fillIntArmCommand (s.ports unit)

/-- Where `queue_int_ior` puts a request. -/
inductive Place where
  | detached (i : Fin intPendingSlots)
  | pending (i : Fin intPendingSlots)
  | free (i : Fin intPendingSlots)
  | none
  deriving DecidableEq

/-- The loop of `queue_int_ior` -/
def findPlace (s : IntState ι υ) (unit : υ) (ior : ι) (freeSlot : Option (Fin intPendingSlots))
    (indices : List (Fin intPendingSlots)) : Place :=
  match indices with
  | [] =>
    match freeSlot with
    | none => .none
    | some i => .free i
  | i :: indices =>
    if s.detachedIntSlotMatches (s.slots i) unit ior then .detached i
    else if s.intSlotMatches (s.slots i) unit ior then .pending i
    else if (s.slots i).isFree && freeSlot.isNone then s.findPlace unit ior (some i) indices
    else s.findPlace unit ior freeSlot indices

/-- The request in slot `i` gives way to `ior`. -/
def replaceIor (s : IntState ι υ) (unit : υ) (ior : ι) (i : Fin intPendingSlots)
    : IntState ι υ × Option ι :=
  match (s.slots i).ior with
  | none => (s.modifySlot i (·.replace unit ior false), none)
  | some old =>
    if old = ior then
      (s.modifySlot i (·.replace unit ior false), none)
    else
      let rearm := interruptRearmOnReplace (s.slots i).armed (s.iors ior).directionIn
        (s.intArmParametersChanged unit old ior)
      let s := s.setResult old 0 .aborted
      (s.modifySlot i (·.replace unit ior rearm), some old)

/-- The new table and `replaced`, or nothing if the request is refused. -/
def queueIntIor (s : IntState ι υ) (unit : υ) (ior : ι) : Option (IntState ι υ × Option ι) :=
  match s.findPlace unit ior none (List.finRange intPendingSlots) with
  | .detached i =>
    let candidate := (s.iors ior).fillIntArmCommand (s.ports unit)
    some (s.modifySlot i (·.reuse ior candidate), none)
  | .pending i =>
    if (s.slots i).stopPending || (s.slots i).armInProgress then
      none
    else
      some (s.replaceIor unit ior i)
  | .free i => some (s.modifySlot i (fun _ => .occupy unit ior), none)
  | .none => none

/-- `UHCMD_INTXFER` of `execute_io`, for a request that is not to the root hub -/
def intXfer (s : IntState ι υ) (ior : ι) : IntState ι υ :=
  let unit := (s.iors ior).unit
  if (s.iors ior).isRootHubInt (s.ports unit) then
    s
  else if (s.iors ior).length > (s.ports unit).dataLimit then
    s.setResult ior (s.results ior).actual .pktTooLarge
  else if (s.iors ior).intEndpointKey = 0 then
    s.setResult ior (s.results ior).actual .stall
  else
    match s.queueIntIor unit ior with
    | none => s.setResult ior (s.results ior).actual .outOfMemory
    | some (s, replaced) => (s.accept ior).replyNow replaced

/-- `BeginIO` with a request that the client has filled in -/
def beginIntXfer (s : IntState ι υ) (ior : ι) (fields : IntIor υ) : IntState ι υ :=
  { s with iors := Function.update s.iors ior fields }.intXfer ior

def findIntSlotForIor (s : IntState ι υ) (ior : ι) : Option (Fin intPendingSlots) :=
  (List.finRange intPendingSlots).find? (fun i => (s.slots i).ior = some ior)

/-- `abort_io` for a request that is in slot `i` -/
def abortIntSlot (s : IntState ι υ) (i : Fin intPendingSlots) (ior : ι) : IntState ι υ :=
  let slot := s.slots i
  if interruptAbortAfterRetire slot.armed slot.armInProgress then
    s.modifySlot i (·.abortAfterRetire ior)
  else if slot.armed || slot.armInProgress then
    s.modifySlot i (fun slot => { slot with abortRequested := true })
  else
    ((s.clearIntSlot i).setResult ior 0 .aborted).replyMsg ior

def abortIo (s : IntState ι υ) (ior : ι) : IntState ι υ :=
  match s.findIntSlotForIor ior with
  | none => s.setResult ior (s.results ior).actual .aborted
  | some i =>
    if (s.slots i).unit = some (s.iors ior).unit then
      s.abortIntSlot i ior
    else
      s.setResult ior (s.results ior).actual .aborted

/-- One slot of `abort_int_iors_offline`, with the requests that are replied when it is done -/
def abortOffline (unit : υ) (s : IntState ι υ × List ι) (i : Fin intPendingSlots)
    : IntState ι υ × List ι :=
  match (s.1.slots i).ior with
  | none => s
  | some ior =>
    if (s.1.slots i).unit = some unit then
      let state := (s.1.clearIntSlot i).setResult ior 0 .usbOffline
      if s.2.length < abortedReplySlots then (state, s.2 ++ [ior]) else (state, s.2)
    else
      s

-- `zz_IntPending` is never filled and the loop over it does nothing.
def abortIntIorsOffline (s : IntState ι υ) (unit : υ) : IntState ι υ × List ι :=
  (List.finRange intPendingSlots).foldl (abortOffline unit) (s, [])

def finishResetPeriodicForUnit (s : IntState ι υ) (unit : υ) : IntState ι υ :=
  { s with
    slots := fun i =>
      if (s.slots i).unit = some unit then
        { s.slots i with
          armed := false
          armInProgress := false
          armGeneration := 0 }
      else
        s.slots i }

/-- The driver still refers to the request, so that its client must not touch it. -/
def owns (s : IntState ι υ) (ior : ι) : Bool :=
  s.abortedReplies.contains ior
    || (List.finRange intPendingSlots).any (fun i => (s.slots i).refs.contains ior)

end IntState

end ZZUsb
