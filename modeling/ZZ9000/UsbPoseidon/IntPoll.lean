import ZZ9000.Concurrency.Pool
import ZZ9000.UsbPoseidon.IntSlots

/-!
This module contains the passes of `zzusbhw_device.c` over the pending interrupt requests that send
commands to the proxy: `poll_int_pending`, `update_port_state` and `CMD_FLUSH`. While realtime ISO is
pending, a task that sends a command gives up `zz_Lock` and lets the others in.
-/

namespace ZZUsb

open Concurrency
open Concurrency.Coroutine (read modify answer note pause)

/-- What a task that does not hold `zz_Lock` waits for. -/
inductive IntWait where
  -- `zz_Lock`
  | lock
  -- `PrimaryMailboxLock`, then `zz_Lock`
  | primary
  deriving DecidableEq

/-- A window in which `zz_Lock` is free, with the state that its task left. -/
structure IntWindow (ι υ : Type) where
  wait : IntWait
  left : IntState ι υ

inductive IntMark (ι υ : Type) where
  /-- A command for the slot is written to the mailbox of the unit. -/
  | sends (slot : Option (Fin intPendingSlots)) (unit : υ) (cmd : IntCommand)
  /-- `PERIODIC_ARM` is about to be sent for the slot. -/
  | arms (slot : Fin intPendingSlots)
  /-- The slot is cleared after a command, without another look at the request in it. -/
  | clears (slot : Fin intPendingSlots) (reply : Option ι)

/-- What the proxy and the rest of the driver decide. -/
structure IntAnswer where
  -- `rt_iso_pending_for_unit`
  rtPending : Bool
  -- `active_work_aborted`
  workAborted : Bool
  -- the wait for the completion serves realtime ISO
  served : Bool
  -- `send_usb_cmd_wire` quarantines the mailbox
  quarantined : Bool
  status : UInt16
  actual : UInt32
  zeroReport : Bool
  deriving DecidableEq

structure IntReply where
  status : UInt16
  actual : UInt32
  zeroReport : Bool

def IntAnswer.reply (a : IntAnswer) : IntReply := ⟨a.status, a.actual, a.zeroReport⟩

def IntReply.failed (status : UInt16) : IntReply := ⟨status, 0, false⟩

def IntReply.actualFor (reply : IntReply) (length : UInt32) : UInt32 :=
  if reply.status = EngineStatus.ok then min reply.actual length else 0

abbrev IntM (ι υ : Type) : Type → Type :=
  Coroutine (IntState ι υ) (IntMark ι υ) (IntWindow ι υ) IntAnswer

variable {ι υ : Type} [DecidableEq ι] [DecidableEq υ]

/-- Release `zz_Lock` and wait. -/
def releaseLock (wait : IntWait) : IntM ι υ Unit := do
  let s ← read
  pause ⟨wait, s⟩

def modifySlot (i : Fin intPendingSlots) (f : IntSlot ι υ → IntSlot ι υ) : IntM ι υ Unit :=
  modify (·.modifySlot i f)

def receiveUsbCmd (unit : υ) (a : IntAnswer) : IntM ι υ IntReply := do
  if a.quarantined then
    modify (·.quarantine unit)
  pure a.reply

/-- `send_usb_cmd_wire` releases `zz_Lock` for every sender while `ForegroundMailboxUnit` is set. -/
def sendUsbCmdWire (unit : υ) : IntM ι υ IntReply := do
  let s ← read
  let a ← answer
  if s.foregroundMailboxUnit.isSome && a.served then
    releaseLock .lock
  receiveUsbCmd unit a

def sendUsbCmd (slot : Option (Fin intPendingSlots)) (unit : υ) (cmd : IntCommand)
    : IntM ι υ IntReply := do
  let s ← read
  if (s.ports unit).quarantined then
    pure (.failed EngineStatus.hostError)
  else
    note (.sends slot unit cmd)
    sendUsbCmdWire unit

def sendUsbCmdWithRtWait (slot : Option (Fin intPendingSlots)) (unit : υ) (cmd : IntCommand)
    : IntM ι υ IntReply := do
  let a ← answer
  if !a.rtPending then
    sendUsbCmd slot unit cmd
  else if a.workAborted then
    pure (.failed EngineStatus.cancelled)
  else
    modify (·.setForeground (some unit))
    let reply ← sendUsbCmd slot unit cmd
    modify (·.setForeground none)
    pure reply

/-- A task that has obtained the semaphore before, in the state `s`, keeps it. -/
def releasePrimaryLock (t : UsbTask) (s : IntState ι υ) : IntM ι υ Unit :=
  if s.primaryMailboxLock = some t then pure () else modify (·.releasePrimary)

def sendUsbCmdWithRtService (t : UsbTask) (slot : Option (Fin intPendingSlots)) (unit : υ)
    (cmd : IntCommand) : IntM ι υ IntReply := do
  let a ← answer
  if !a.rtPending then
    sendUsbCmd slot unit cmd
  else
    let s ← read
    releaseLock .primary
    modify (·.obtainPrimary t)
    let reply ← sendUsbCmdWithRtWait slot unit cmd
    releasePrimaryLock t s
    pure reply

def IntState.stopCommand (s : IntState ι υ) (slot : IntSlot ι υ) (unit : υ) : IntCommand :=
  let cmd :=
    match slot.ior with
    | some ior => (s.iors ior).fillIntArmCommand (s.ports unit)
    | none => slot.armedCommand
  { cmd with
    cmd := .periodicStop
    reserved := slot.armGeneration
    timeoutMs := 100 }

def finishStop (i : Fin intPendingSlots) (unit : υ) (status : UInt16) : IntM ι υ Unit :=
  if stopStatusRetired status then
    modifySlot i (fun slot => { slot with armed := false, armGeneration := 0 })
  else
    modify (·.quarantine unit)

def stopPeriodicSlot (t : UsbTask) (i : Fin intPendingSlots) : IntM ι υ UInt16 := do
  let s ← read
  if !(s.slots i).armed then
    pure EngineStatus.ok
  else
    match (s.slots i).unit with
    | none => pure EngineStatus.badParam
    | some unit => do
      let reply ← sendUsbCmdWithRtService t (some i) unit (s.stopCommand (s.slots i) unit)
      finishStop i unit reply.status
      pure reply.status

/-- `slot->ior != ior || slot->unit != unit` -/
def IntState.intSlotChanged (s : IntState ι υ) (i : Fin intPendingSlots) (unit : υ) (ior : ι)
    : Bool :=
  (s.slots i).ior ≠ some ior || (s.slots i).unit ≠ some unit

/-- Clear the slot and reply `ior` after the slot is unlocked. -/
def replySlot (i : Fin intPendingSlots) (ior : ι) : IntM ι υ Unit := do
  modify (·.clearIntSlot i)
  modify (·.replyMsg ior)

def keepStopPending (i : Fin intPendingSlots) : IntM ι υ Unit :=
  modifySlot i (fun slot => { slot with stopPending := true })

def keepAborted (i : Fin intPendingSlots) : IntM ι υ Unit :=
  modifySlot i (fun slot => { slot with stopPending := true, abortRequested := false })

/-- Stop the endpoint and, unless the slot has changed meanwhile, reply the request. -/
def retireIntSlot (t : UsbTask) (unit : υ) (i : Fin intPendingSlots) (ior : ι)
    (retained : UInt16 → IntM ι υ Unit) : IntM ι υ Unit := do
  let stopStatus ← stopPeriodicSlot t i
  let s ← read
  if s.intSlotChanged i unit ior then
    pure ()
  else if stopStatusRetired stopStatus then
    replySlot i ior
  else
    retained stopStatus

/-- The branch of `poll_int_pending` for a slot without a request -/
def pollDetached (t : UsbTask) (i : Fin intPendingSlots) : IntM ι υ Unit := do
  let s ← read
  if (s.slots i).armed && (s.slots i).reuseTicks ≠ 0 then
    modifySlot i (fun slot => { slot with reuseTicks := slot.reuseTicks - 1 })
  else
    let _ ← stopPeriodicSlot t i
    let s ← read
    if !(s.slots i).armed then
      let replyNow :=
        if interruptAbortReplyReady (s.slots i).abortReply.isSome (s.slots i).armed then
          (s.slots i).abortReply
        else
          none
      note (.clears i replyNow)
      modify (·.clearIntSlot i)
      match replyNow with
      | none => pure ()
      | some ior => modify (fun s => (s.setResult ior 0 .aborted).replyMsg ior)

def pollStopPending (t : UsbTask) (unit : υ) (i : Fin intPendingSlots) (ior : ι)
    : IntM ι υ Unit := do
  let s ← read
  if (s.slots i).abortRequested then
    modify (·.setResult ior 0 .aborted)
    modifySlot i (fun slot => { slot with abortRequested := false })
  retireIntSlot t unit i ior (fun _ => pure ())

def pollAbortRequested (t : UsbTask) (unit : υ) (i : Fin intPendingSlots) (ior : ι)
    : IntM ι υ Unit := do
  modify (·.setResult ior 0 .aborted)
  retireIntSlot t unit i ior (fun _ => keepAborted i)

/-- What `poll_int_pending` does when `PERIODIC_REAP` has reported data -/
def completeReap (t : UsbTask) (unit : υ) (i : Fin intPendingSlots) (ior : ι) (actual : UInt32)
    : IntM ι υ Unit := do
  modify (·.setResult ior actual .noError)
  let s ← read
  if (s.iors ior).directionIn then
    modifySlot i (·.retainEndpoint)
    modify (·.replyMsg ior)
  else
    retireIntSlot t unit i ior (fun stopStatus => do
      modify (·.setResult ior 0 (mapProxyStatus stopStatus))
      keepStopPending i)

def failReap (t : UsbTask) (unit : υ) (i : Fin intPendingSlots) (ior : ι) (status : UInt16)
    : IntM ι υ Unit := do
  modify (·.setResult ior 0 (mapProxyStatus status))
  retireIntSlot t unit i ior (fun stopStatus => do
    modify (·.setResult ior 0 (mapProxyStatus stopStatus))
    keepStopPending i)

/-- What `poll_int_pending` does with the answer to `PERIODIC_REAP` -/
def finishReap (t : UsbTask) (unit : υ) (i : Fin intPendingSlots) (ior : ι) (reply : IntReply)
    : IntM ι υ Unit := do
  let s ← read
  if s.intSlotChanged i unit ior then
    pure ()
  else if (s.slots i).abortRequested then
    pollAbortRequested t unit i ior
  else
    let actual := reply.actualFor (s.iors ior).length
    let zeroReport :=
      reply.status = EngineStatus.ok && (s.iors ior).directionIn && 0 < actual && actual ≤ 2
        && reply.zeroReport
    match interruptClassify reply.status actual (s.iors ior).directionIn zeroReport with
    | .keepPending => pure ()
    | .complete => completeReap t unit i ior actual
    | .fail => failReap t unit i ior reply.status

def pollReap (t : UsbTask) (unit : υ) (reapEvents : Bool) (i : Fin intPendingSlots) (ior : ι)
    (cmd : IntCommand) : IntM ι υ Unit := do
  let s ← read
  let slot := s.slots i
  if !slot.abortRequested && !slot.stopPending && slot.armed && reapEvents then
    let reply ← sendUsbCmdWithRtService t (some i) unit { cmd with cmd := .periodicReap }
    finishReap t unit i ior reply

/-- The slot has changed while `PERIODIC_ARM` was sent for it. -/
def stopOrphan (t : UsbTask) (unit : υ) (i : Fin intPendingSlots) (cmd : IntCommand)
    (status : UInt16) : IntM ι υ Unit :=
  if status = EngineStatus.ok then do
    let reply ← sendUsbCmdWithRtService t (some i) unit { cmd with cmd := .periodicStop }
    if !stopStatusRetired reply.status then
      modify (·.quarantine unit)
      modify (fun s => s.setPort unit (s.ports unit).bumpGeneration)
  else
    pure ()

def IntState.armError (s : IntState ι υ) (i : Fin intPendingSlots) (status : UInt16) : IoError :=
  if (s.slots i).abortRequested then .aborted else mapProxyStatus status

/-- A retained endpoint could not be armed again. -/
def reuseFailed (t : UsbTask) (i : Fin intPendingSlots) (ior : ι) (status : UInt16)
    : IntM ι υ Unit := do
  modify (fun s => s.setResult ior 0 (s.armError i status))
  modifySlot i (fun slot => { slot with armed := true, reusePending := false })
  let stopStatus ← stopPeriodicSlot t i
  if stopStatusRetired stopStatus then
    note (.clears i (some ior))
    replySlot i ior
  else
    keepStopPending i

def armFailed (unit : υ) (i : Fin intPendingSlots) (ior : ι) (status : UInt16)
    : IntM ι υ Unit := do
  modify (fun s => s.setResult ior 0 (s.armError i status))
  let s ← read
  if (s.ports unit).quarantined then
    modifySlot i (fun slot => { slot with armed := true, stopPending := true })
  else
    replySlot i ior

/-- What `poll_int_pending` does with the answer to `PERIODIC_ARM` -/
def finishArm (t : UsbTask) (unit : υ) (reapEvents : Bool) (i : Fin intPendingSlots) (ior : ι)
    (cmd : IntCommand) (status : UInt16) : IntM ι υ Unit := do
  let s ← read
  if s.intSlotChanged i unit ior then
    stopOrphan t unit i cmd status
  else
    modifySlot i (fun slot => { slot with armInProgress := false })
    if (s.slots i).reusePending && status ≠ EngineStatus.ok then
      reuseFailed t i ior status
    else if status ≠ EngineStatus.ok then
      armFailed unit i ior status
    else
      let armedCommand := (s.iors ior).fillIntArmCommand (s.ports unit)
      modifySlot i (fun slot => { slot with reusePending := false, armed := true, armedCommand })
      pollReap t unit reapEvents i ior cmd

def pollArm (t : UsbTask) (unit : υ) (reapEvents : Bool) (i : Fin intPendingSlots) (ior : ι)
    (cmd : IntCommand) : IntM ι υ Unit := do
  let s ← read
  let slot := s.slots i
  if !slot.stopPending && (!slot.armed || slot.reusePending) then
    note (.arms i)
    modifySlot i (fun slot => { slot with armGeneration := cmd.reserved, armInProgress := true })
    let reply ← sendUsbCmdWithRtService t (some i) unit { cmd with cmd := .periodicArm }
    finishArm t unit reapEvents i ior cmd reply.status
  else
    pollReap t unit reapEvents i ior cmd

def pollRearm (t : UsbTask) (unit : υ) (reapEvents : Bool) (i : Fin intPendingSlots) (ior : ι)
    (cmd : IntCommand) : IntM ι υ Unit := do
  let stopStatus ← stopPeriodicSlot t i
  let s ← read
  if s.intSlotChanged i unit ior then
    pure ()
  else
    modifySlot i (fun slot => { slot with rearmRequired := false })
    if stopStatusRetired stopStatus then
      pollArm t unit reapEvents i ior cmd
    else
      modify (·.setResult ior 0 (mapProxyStatus stopStatus))
      keepStopPending i

def IntSlot.prepare (slot : IntSlot ι υ) (cmd : IntCommand) : IntSlot ι υ :=
  if slot.armed then slot else { slot with armedCommand := cmd }

/-- The branch of `poll_int_pending` for a slot with a request -/
def pollQueued (t : UsbTask) (unit : υ) (reapEvents : Bool) (i : Fin intPendingSlots) (ior : ι)
    : IntM ι υ Unit := do
  let s ← read
  let slot := s.slots i
  let armCommand := (s.iors ior).fillIntArmCommand (s.ports unit)
  modifySlot i (·.prepare armCommand)
  let reserved :=
    if slot.reusePending || slot.armed then slot.armGeneration
    else (s.ports unit).currentGeneration
  let cmd := { armCommand with reserved, timeoutMs := 100 }
  if slot.stopPending then
    pollStopPending t unit i ior
  else if slot.abortRequested then
    pollAbortRequested t unit i ior
  else if slot.rearmRequired then
    pollRearm t unit reapEvents i ior cmd
  else
    pollArm t unit reapEvents i ior cmd

def pollIntSlot (t : UsbTask) (unit : υ) (reapEvents : Bool) (i : Fin intPendingSlots)
    : IntM ι υ Unit := do
  let s ← read
  if (s.slots i).unit = some unit then
    match (s.slots i).ior with
    | none => pollDetached t i
    | some ior => pollQueued t unit reapEvents i ior

/-- The loop of `poll_int_pending` -/
def pollIntSlots (t : UsbTask) (unit : υ) (reapEvents : Bool)
    (indices : List (Fin intPendingSlots)) : IntM ι υ Unit := do
  match indices with
  | [] => pure ()
  | i :: indices =>
    releaseLock .lock
    pollIntSlot t unit reapEvents i
    pollIntSlots t unit reapEvents indices

def IntState.legacyCommand (s : IntState ι υ) (unit : υ) (ior : ι) : IntCommand :=
  { (s.iors ior).fillIntArmCommand (s.ports unit) with
    cmd := .intXfer
    timeoutMs := 1000 }

/-- The answer counts as another idle poll of the endpoint. -/
def IntReply.idleIn (reply : IntReply) (directionIn : Bool) (actual : UInt32) : Bool :=
  if reply.status = EngineStatus.ok then
    directionIn && (actual = 0 || (actual ≤ 2 && reply.zeroReport))
  else
    directionIn && reply.status = EngineStatus.nak

/-- What `poll_int_pending_legacy` does with the answer to `INT_XFER` -/
def finishLegacy (i : Fin intPendingSlots) (ior : ι) (reply : IntReply) : IntM ι υ Unit := do
  let s ← read
  let actual := reply.actualFor (s.iors ior).length
  if reply.idleIn (s.iors ior).directionIn actual then
    modifySlot i (fun slot =>
      { slot with
        idlePolls := if slot.idlePolls < 0xff then slot.idlePolls + 1 else slot.idlePolls })
    let s ← read
    if (s.slots i).idlePolls ≥ intIdleReplyPolls then
      note (.clears i (some ior))
      modify (·.setResult ior actual .noError)
      replySlot i ior
  else
    note (.clears i (some ior))
    modify (fun s =>
      if reply.status = EngineStatus.ok then s.setResult ior actual .noError
      else s.setResult ior 0 (mapProxyStatus reply.status))
    replySlot i ior

def pollLegacyRequest (unit : υ) (i : Fin intPendingSlots) (ior : ι) : IntM ι υ Unit := do
  let s ← read
  if (s.slots i).abortRequested then
    modify (·.setResult ior 0 .aborted)
    replySlot i ior
  else
    let reply ← sendUsbCmd (some i) unit (s.legacyCommand unit ior)
    finishLegacy i ior reply

def pollLegacySlot (unit : υ) (i : Fin intPendingSlots) (ior : ι) : IntM ι υ Unit := do
  pollLegacyRequest unit i ior
  modify (fun s =>
    { s with legacyIntPollCursor := Function.update s.legacyIntPollCursor unit (i + 1) })

/-- The loop of `poll_int_pending_legacy` ends with the first request of the unit. -/
def pollLegacySlots (unit : υ) (indices : List (Fin intPendingSlots)) : IntM ι υ Unit := do
  match indices with
  | [] => pure ()
  | i :: indices =>
    releaseLock .lock
    let s ← read
    match (s.slots i).ior with
    | none => pollLegacySlots unit indices
    | some ior =>
      if (s.slots i).unit = some unit then
        pollLegacySlot unit i ior
      else
        pollLegacySlots unit indices

def pollIntPending (t : UsbTask) (unit : υ) (reapEvents : Bool) : IntM ι υ Unit := do
  let s ← read
  if (s.ports unit).periodic then
    pollIntSlots t unit reapEvents (List.finRange intPendingSlots)
  else
    let start := s.legacyIntPollCursor unit
    pollLegacySlots unit ((List.finRange intPendingSlots).map (start + ·))

/-- What `update_port_state` does to a device that has gone -/
def IntState.disconnect (s : IntState ι υ) (unit : υ) : IntState ι υ :=
  let port := { (s.ports unit).bumpGeneration with present := false, speed := 0 }
  let p := (s.setPort unit port).abortIntIorsOffline unit
  p.1.replyAll p.2

/-- `update_port_state`, as far as it is about the slots -/
def updatePortState (t : UsbTask) (unit : υ) : IntM ι υ Unit := do
  let reply ← sendUsbCmdWithRtService t none unit { IntCommand.zero with cmd := .checkPort }
  let s ← read
  if reply.status = EngineStatus.offline && (s.ports unit).present then
    modify (·.disconnect unit)

/-- Collect a request in `aborted_replies`. -/
def IntState.collect (s : IntState ι υ) (ior : Option ι) : IntState ι υ :=
  if s.abortedReplies.length < abortedReplySlots then
    { s with abortedReplies := s.abortedReplies ++ ior.toList }
  else
    s

def IntState.abortPending (s : IntState ι υ) (pending : Option ι) : IntState ι υ :=
  match pending with
  | none => s
  | some ior => s.setResult ior 0 .aborted

def finishFlush (i : Fin intPendingSlots) (pending : Option ι) (stopStatus : UInt16)
    : IntM ι υ Unit :=
  if stopStatusRetired stopStatus then do
    note (.clears i pending)
    modify (·.clearIntSlot i)
    modify (·.collect pending)
  else
    keepAborted i

/-- The loop of `CMD_RESET` and `CMD_FLUSH` -/
def flushIntSlots (t : UsbTask) (unit : υ) (indices : List (Fin intPendingSlots))
    : IntM ι υ Unit := do
  match indices with
  | [] => pure ()
  | i :: indices =>
    let s ← read
    let slot := s.slots i
    let pending := slot.pending
    if slot.unit ≠ some unit || (pending.isNone && !slot.armed) then
      flushIntSlots t unit indices
    else
      modify (·.abortPending pending)
      modifySlot i (fun slot => { slot with reuseTicks := 0 })
      let stopStatus ← stopPeriodicSlot t i
      finishFlush i pending stopStatus
      flushIntSlots t unit indices

/-- `CMD_RESET` and `CMD_FLUSH` of `execute_io`, without the root hub -/
def flush (t : UsbTask) (unit : υ) : IntM ι υ Unit := do
  modify (fun s => { s.obtainPrimary t with abortedReplies := [] })
  flushIntSlots t unit (List.finRange intPendingSlots)
  -- `stop_rt_iso_for_unit` releases the lock while it services realtime ISO.
  releaseLock .lock
  modify (fun s => { (s.replyAll s.abortedReplies).releasePrimary with abortedReplies := [] })

inductive IntCall (ι υ : Type) where
  | intXfer (ior : ι) (fields : IntIor υ)
  | abortIo (ior : ι)
  | flush (unit : υ)
  | finishReset (unit : υ)
  | pollIntPending (unit : υ) (reapEvents : Bool)
  | updatePortState (unit : υ)
  | setPort (unit : υ) (port : IntPort)

def IntCall.body (t : UsbTask) (c : IntCall ι υ) : IntM ι υ Unit :=
  match c with
  | .intXfer ior fields => modify (·.beginIntXfer ior fields)
  | .abortIo ior => modify (·.abortIo ior)
  | .flush unit => ZZUsb.flush t unit
  | .finishReset unit => modify (·.finishResetPeriodicForUnit unit)
  | .pollIntPending unit reapEvents => ZZUsb.pollIntPending t unit reapEvents
  | .updatePortState unit => ZZUsb.updatePortState t unit
  | .setPort unit port => modify (·.setPort unit port)

/-- Without `resets` no task calls `CMD_RESET`, `CMD_FLUSH` or resets a port. -/
def IntCall.allowed (resets : Bool) (t : UsbTask) (c : IntCall ι υ) (s : IntState ι υ) : Bool :=
  match t, c with
  | .client _, .intXfer ior _ => s.primaryMailboxLock = none && !s.owns ior
  | .client _, .abortIo _ => true
  | .client _, .flush _ => resets && s.primaryMailboxLock = none
  | .client _, .finishReset _ => resets && s.primaryMailboxLock = none
  | .worker, .pollIntPending _ _ => true
  | .worker, .updatePortState _ => true
  | .driver, .setPort _ _ => true
  | _, _ => false

def IntWindow.canResume (t : UsbTask) (w : IntWindow ι υ) (s : IntState ι υ) : Bool :=
  match w.wait with
  | .lock => true
  | .primary => s.primaryMailboxLock = none || s.primaryMailboxLock = some t

def intPool (ι υ : Type) [DecidableEq ι] [DecidableEq υ] (resets : Bool)
    : Pool UsbTask (IntCall ι υ) (IntState ι υ) (IntMark ι υ) (IntWindow ι υ) IntAnswer where
  body := IntCall.body
  canCall := IntCall.allowed resets
  canResume := IntWindow.canResume

section Examples

def examplePort : IntPort where
  present := true
  speed := Speed.high
  rootHubAddr := 1
  generation := 1
  quarantined := false
  periodic := true
  dataLimit := 3968

def exampleIor (endpoint : UInt16) : IntIor Unit where
  unit := ()
  devAddr := 5
  endpoint
  directionIn := true
  maxPktSize := 8
  length := 8
  interval := 10
  splitTrans := false
  lowSpeed := false
  highSpeed := true
  splitHubAddr := 0
  splitHubPort := 0

def exampleStart (resets : Bool) : (intPool Nat Unit resets).State :=
  .start _ (.init (fun _ => examplePort) (fun _ => exampleIor 0) (fun _ => ⟨0, .noError⟩))

/-- The proxy answers `OK` while realtime ISO is not pending. -/
def exampleAnswer : IntAnswer where
  rtPending := false
  workAborted := false
  served := false
  quarantined := false
  status := EngineStatus.ok
  actual := 0
  zeroReport := false

def clientCall (c : IntCall Nat Unit) : Pool.Action UsbTask (IntCall Nat Unit) IntAnswer :=
  .call (.client 0) c []

/-- A pass of the worker over the slots, with the answers that each of them gets. -/
def pollPass (reapEvents : Bool) (answers : List (List IntAnswer))
    : List (Pool.Action UsbTask (IntCall Nat Unit) IntAnswer) :=
  .call .worker (.pollIntPending () reapEvents) [] :: answers.map (.resume .worker)

end Examples

end ZZUsb
