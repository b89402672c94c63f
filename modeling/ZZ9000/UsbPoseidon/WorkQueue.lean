import ZZ9000.Concurrency.Slots
import ZZ9000.UsbPoseidon.Engine
import Mathlib.Data.List.FinRange

/-!
This module contains the work queue of `zzusbhw_device.c`. Requests are enqueued by the tasks that
call `BeginIO`, taken one after the other by the worker, and aborted by any task. What runs between
`Forbid` and `Permit` is one step.
-/

namespace ZZUsb

def workSlots : Nat := 32

def idleBulkRetryUs : UInt32 := 20000

/-- What the work queue reads and writes of an `IOUsbHWReq`. -/
structure WorkIor where
  actual : UInt32
  error : IoError
  -- `UHCMD_BULKXFER` with `UHDIR_IN` and without `UHFF_NAKTIMEOUT`
  bulkInStream : Bool
  deriving DecidableEq, Repr

def WorkIor.bulkInWaitsForData (ior : WorkIor) : Bool := ior.bulkInStream && ior.error = .nak

structure WorkSlot (ι υ : Type) where
  lifecycle : EngineRequest
  unit : Option υ
  ior : Option ι
  sequence : UInt32
  enqueueSeq : UInt32
  completionStatus : UInt16
  idleBulkRetries : UInt16
  retryDelayUs : UInt32
  bulkActual : UInt32

-- `WorkSequence++`, and once more if that was zero
def nextSequence (workSequence : UInt32) : UInt32 := if workSequence = 0 then 1 else workSequence

/-- What the worker leaves of a slot and its request after executing it. -/
structure WorkFinish (ι υ : Type) where
  slot : WorkSlot ι υ
  ior : WorkIor
  retried : Bool
  reply : Bool

namespace WorkSlot

variable {ι υ : Type}

def zero : WorkSlot ι υ where
  lifecycle := .init
  unit := none
  ior := none
  sequence := 0
  enqueueSeq := 0
  completionStatus := 0
  idleBulkRetries := 0
  retryDelayUs := 0
  bulkActual := 0

def clear (slot : WorkSlot ι υ) : WorkSlot ι υ :=
  { slot with ior := none, unit := none, lifecycle := .init }

def enqueue (slot : WorkSlot ι υ) (ior : ι) (unit : υ) (observer : Bool) (enqueueSeq : UInt32)
    : WorkSlot ι υ :=
  { slot with
    lifecycle := { EngineRequest.init with observer }.queue.request
    unit := some unit
    ior := some ior
    sequence := 0
    idleBulkRetries := 0
    retryDelayUs := 0
    bulkActual := 0
    enqueueSeq := enqueueSeq }

def ready (slot : WorkSlot ι υ) : Bool :=
  slot.ior.isSome && slot.lifecycle.state = .queued && slot.retryDelayUs = 0

def begin (slot : WorkSlot ι υ) (sequence controllerEpoch : UInt32) : WorkSlot ι υ :=
  { slot with
    lifecycle := (slot.lifecycle.dispatch.request.begin sequence controllerEpoch).request
    sequence := sequence
    completionStatus := EngineStatus.ok }

def complete (slot : WorkSlot ι υ) (ior : WorkIor) : WorkFinish ι υ :=
  let lifecycle := (slot.lifecycle.complete slot.sequence slot.lifecycle.controllerEpoch
    slot.completionStatus).request
  let reply := lifecycle.claimReply.ret
  ⟨slot.clear, ior, false, reply⟩

def finishStatus (slot : WorkSlot ι υ) (ior : WorkIor) : UInt16 :=
  if ior.error ≠ .noError ∧ slot.completionStatus = EngineStatus.ok then
    proxyStatusForIoError ior.error
  else
    slot.completionStatus

/-- The part of `process_work_queue` after `execute_io` -/
def finish (slot : WorkSlot ι υ) (ior : WorkIor) (enqueueSeq : UInt32) : WorkFinish ι υ :=
  if slot.lifecycle.abortRequested then
    let ior := { ior with actual := 0, error := .aborted }
    { slot with completionStatus := EngineStatus.cancelled }.complete ior
  else
    let slot := { slot with completionStatus := slot.finishStatus ior }
    let retry := slot.lifecycle.retry slot.completionStatus
    if ior.bulkInWaitsForData && retry.ret then
      let ior := { ior with actual := 0, error := .noError }
      let slot := { slot with
        lifecycle := retry.request
        enqueueSeq := enqueueSeq
        idleBulkRetries :=
          if slot.idleBulkRetries ≠ 0xffff then slot.idleBulkRetries + 1 else 0xffff }
      ⟨slot, ior, true, false⟩
    else
      slot.complete ior

def advanceDelay (slot : WorkSlot ι υ) (elapsedUs : UInt32) : WorkSlot ι υ :=
  if slot.ior.isNone ∨ slot.lifecycle.state ≠ .queued ∨ slot.retryDelayUs = 0 then
    slot
  else
    { slot with
      retryDelayUs := if slot.retryDelayUs > elapsedUs then slot.retryDelayUs - elapsedUs else 0 }

end WorkSlot

/-- What the worker holds between two of its atomic sections. -/
inductive WorkPhase (ι : Type) where
  | idle
  | executing (slot : Fin workSlots) (ior : ι) (ticket : Nat)
  | retrying (slot : Fin workSlots) (ior : ι) (sequence : UInt32) (ticket : Nat)
  deriving DecidableEq

/-- A `ReplyMsg`, with the contents of the request at that time. -/
structure WorkReply (ι : Type) where
  ior : ι
  actual : UInt32
  error : IoError
  active : Bool
  aborted : Bool
  deriving DecidableEq

/--
What happened to the requests so far. Each use of a slot has a ticket; whenever the worker writes to
the slot, the ticket that it began with and the current one are noted.
-/
structure WorkHistory (ι : Type) where
  accepted : ι → Nat
  aborted : ι → Bool
  tickets : Fin workSlots → Nat
  replies : List (WorkReply ι)
  touched : List (Nat × Nat)

/-- The worker, which holds `ticket`, writes to the slot `i`. -/
def WorkHistory.touch {ι : Type} (history : WorkHistory ι) (i : Fin workSlots) (ticket : Nat)
    : WorkHistory ι :=
  { history with touched := (ticket, history.tickets i) :: history.touched }

structure WorkQueue (ι υ : Type) where
  slots : Fin workSlots → WorkSlot ι υ
  activeWorkSlot : Option (Fin workSlots)
  workSequence : UInt32
  enqueueSequence : UInt32
  iors : ι → WorkIor
  worker : WorkPhase ι
  -- Requests that an abort has claimed under `Forbid` and will reply after `Permit`.
  owed : List ι
  history : WorkHistory ι

inductive WorkAction (ι υ : Type) where
  | enqueue (ior : ι) (unit : υ) (bulkInStream observer : Bool)
  | abortIor (ior : ι)
  | abortUnit (unit : υ)
  | deliver (ior : ι)
  | select (controllerEpoch : UInt32)
  | execute (actual : UInt32) (error : IoError) (status : UInt16) (bulkActual : UInt32)
  | finish
  | publish
  | advanceDelay (elapsedUs : UInt32)
  deriving DecidableEq

namespace WorkQueue

variable {ι υ : Type}

def init (iors : ι → WorkIor) : WorkQueue ι υ where
  slots := fun _ => .zero
  activeWorkSlot := none
  workSequence := 1
  enqueueSequence := 1
  iors := iors
  worker := .idle
  owed := []
  history := ⟨fun _ => 0, fun _ => false, fun _ => 0, [], []⟩

variable [DecidableEq ι]

def replied (q : WorkQueue ι υ) (ior : ι) : Nat := q.history.replies.countP (fun e => e.ior = ior)

def activeIor (q : WorkQueue ι υ) : Option ι :=
  match q.activeWorkSlot with
  | none => none
  | some i => (q.slots i).ior

/-- The entry of a `ReplyMsg` that is sent now -/
def reply (q : WorkQueue ι υ) (ior : ι) : WorkReply ι where
  ior := ior
  actual := (q.iors ior).actual
  error := (q.iors ior).error
  active := q.activeIor = some ior
  aborted := q.history.aborted ior

def available (q : WorkQueue ι υ) : Option (Fin workSlots) :=
  (List.finRange workSlots).find? fun i => (q.slots i).ior.isNone

def enqueueWork (q : WorkQueue ι υ) (ior : ι) (unit : υ) (bulkInStream observer : Bool)
    : WorkQueue ι υ :=
  match q.available with
  | none => q
  | some i =>
    { q with
      slots := Function.update q.slots i
        ((q.slots i).enqueue ior unit observer q.enqueueSequence)
      enqueueSequence := q.enqueueSequence + 1
      iors := Function.update q.iors ior ⟨0, .noError, bulkInStream⟩
      history := { q.history with
        accepted := Function.update q.history.accepted ior (q.history.accepted ior + 1)
        aborted := Function.update q.history.aborted ior false
        tickets := Function.update q.history.tickets i (q.history.tickets i + 1) } }

/-- What `abort_work_ior` and `abort_unit_work` do to the slot `i`, which holds `ior`. -/
def abortSlot (q : WorkQueue ι υ) (i : Fin workSlots) (ior : ι) : WorkQueue ι υ :=
  let lifecycle := (q.slots i).lifecycle.abort.request
  let history := { q.history with aborted := Function.update q.history.aborted ior true }
  if lifecycle.state = .terminal then
    { q with
      slots := Function.update q.slots i (q.slots i).clear
      iors := Function.update q.iors ior { q.iors ior with actual := 0, error := .aborted }
      owed := if lifecycle.claimReply.ret then ior :: q.owed else q.owed
      history := history }
  else
    { q with
      slots := Function.update q.slots i { q.slots i with lifecycle := lifecycle }
      history := history }

def abortWorkIor (q : WorkQueue ι υ) (ior : ι) : WorkQueue ι υ :=
  match (List.finRange workSlots).find? fun i => (q.slots i).ior = some ior with
  | none => q
  | some i => q.abortSlot i ior

def deliver (q : WorkQueue ι υ) (ior : ι) : WorkQueue ι υ :=
  { q with
    owed := q.owed.erase ior
    history := { q.history with
      replies := q.reply ior :: q.history.replies } }

def older (q : WorkQueue ι υ) (i : Fin workSlots) (slot : Option (Fin workSlots)) : Bool :=
  match slot with
  | none => true
  | some j => (q.slots i).enqueueSeq < (q.slots j).enqueueSeq

/-- The oldest request that is ready -/
def candidate (q : WorkQueue ι υ) (indices : List (Fin workSlots)) (slot : Option (Fin workSlots))
    : Option (Fin workSlots) :=
  match indices with
  | [] => slot
  | i :: indices =>
    if (q.slots i).ready && q.older i slot then
      q.candidate indices (some i)
    else
      q.candidate indices slot

def select (q : WorkQueue ι υ) (controllerEpoch : UInt32) : WorkQueue ι υ :=
  match q.candidate (List.finRange workSlots) none with
  | none => q
  | some i =>
    match (q.slots i).ior with
    | none => q
    | some ior =>
      let sequence := nextSequence q.workSequence
      let ticket := q.history.tickets i
      { q with
        slots := Function.update q.slots i ((q.slots i).begin sequence controllerEpoch)
        workSequence := sequence + 1
        activeWorkSlot := some i
        worker := .executing i ior ticket
        history := q.history.touch i ticket }

/-- `execute_io` writes to the request and, through `ActiveWorkSlot`, to the slot. -/
def execute (q : WorkQueue ι υ) (i : Fin workSlots) (ior : ι) (ticket : Nat) (actual : UInt32)
    (error : IoError) (status : UInt16) (bulkActual : UInt32) : WorkQueue ι υ :=
  { q with
    slots := Function.update q.slots i
      { q.slots i with completionStatus := status, bulkActual := bulkActual }
    iors := Function.update q.iors ior { q.iors ior with actual := actual, error := error }
    history := q.history.touch i ticket }

def finish (q : WorkQueue ι υ) (i : Fin workSlots) (ior : ι) (ticket : Nat) : WorkQueue ι υ :=
  let done := (q.slots i).finish (q.iors ior) q.enqueueSequence
  let history := q.history.touch i ticket
  let q := { q with
    slots := Function.update q.slots i done.slot
    activeWorkSlot := none
    iors := Function.update q.iors ior done.ior }
  if done.retried then
    { q with
      enqueueSequence := q.enqueueSequence + 1
      worker := .retrying i ior done.slot.sequence ticket
      history := history }
  else
    -- `ActiveWorkSlot` is cleared before the request is replied.
    { q with
      worker := .idle
      history := { history with
        replies := if done.reply then q.reply ior :: history.replies else history.replies } }

/-- The worker publishes the delay of a retry, unless the slot was given away meanwhile. -/
def publish (q : WorkQueue ι υ) (i : Fin workSlots) (ior : ι) (sequence : UInt32) (ticket : Nat)
    : WorkQueue ι υ :=
  let slot := q.slots i
  if slot.ior = some ior ∧ slot.sequence = sequence ∧ slot.lifecycle.state = .queued
      ∧ slot.retryDelayUs = 0 then
    { q with
      slots := Function.update q.slots i { slot with retryDelayUs := idleBulkRetryUs }
      worker := .idle
      history := q.history.touch i ticket }
  else
    { q with worker := .idle }

variable [DecidableEq υ]

def abortUnitSlot (unit : υ) (q : WorkQueue ι υ) (i : Fin workSlots) : WorkQueue ι υ :=
  match (q.slots i).ior with
  | none => q
  | some ior => if (q.slots i).unit ≠ some unit then q else q.abortSlot i ior

def abortUnitWork (q : WorkQueue ι υ) (unit : υ) : WorkQueue ι υ :=
  (List.finRange workSlots).foldl (abortUnitSlot unit) q

def step (q : WorkQueue ι υ) (action : WorkAction ι υ) : Option (WorkQueue ι υ) :=
  match action with
  | .enqueue ior unit bulkInStream observer =>
    -- A request belongs to the driver until it is replied.
    if q.history.accepted ior = q.replied ior then
      some (q.enqueueWork ior unit bulkInStream observer)
    else
      none
  | .abortIor ior => some (q.abortWorkIor ior)
  | .abortUnit unit => some (q.abortUnitWork unit)
  | .deliver ior =>
    if ior ∈ q.owed then
      some (q.deliver ior)
    else
      none
  | .select controllerEpoch =>
    match q.worker with
    | .idle => some (q.select controllerEpoch)
    | _ => none
  | .execute actual error status bulkActual =>
    match q.worker with
    | .executing i ior ticket => some (q.execute i ior ticket actual error status bulkActual)
    | _ => none
  | .finish =>
    match q.worker with
    | .executing i ior ticket => some (q.finish i ior ticket)
    | _ => none
  | .publish =>
    match q.worker with
    | .retrying i ior sequence ticket => some (q.publish i ior sequence ticket)
    | _ => none
  | .advanceDelay elapsedUs =>
    some { q with slots := fun i => (q.slots i).advanceDelay elapsedUs }

def run (q : WorkQueue ι υ) (actions : List (WorkAction ι υ)) : Option (WorkQueue ι υ) :=
  match actions with
  | [] => some q
  | action :: actions =>
    match q.step action with
    | none => none
    | some q => q.run actions

end WorkQueue

end ZZUsb
