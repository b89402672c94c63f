import ZZ9000.UsbPoseidon.WorkQueue

/-!
This module contains the delay accounting of the worker task of `zzusbhw_device.c`, with the worker
timer of `zzusb_policy.c`: where the armed `timer.device` request is sent, where its elapsed time is
credited to the retry delays and to the root hub accumulator, and where a new retry is published.
-/

namespace ZZUsb

/-- `struct zzusb_worker_timer`. -/
structure WorkerTimer where
  delayUs : UInt32
  pending : Bool
  deriving DecidableEq, Repr

namespace WorkerTimer

def init : WorkerTimer := ⟨0, false⟩

def arm (timer : WorkerTimer) (delayUs : UInt32) : Option WorkerTimer :=
  if timer.pending ∨ delayUs = 0 then none else some ⟨delayUs, true⟩

/-- The timer after the reply, with the time that is credited. -/
def expire (timer : WorkerTimer) (timerSignaled : Bool) : WorkerTimer × UInt32 :=
  if timer.pending ∧ timerSignaled then (⟨0, false⟩, timer.delayUs) else (timer, 0)

def cancel (_ : WorkerTimer) : WorkerTimer := ⟨0, false⟩

def elapsed (startedUs nowUs : UInt64) (delayUs : UInt32) : UInt32 :=
  if startedUs = 0 ∨ nowUs < startedUs then
    0
  else
    let elapsed := nowUs - startedUs
    if elapsed > delayUs.toUInt64 then delayUs else elapsed.toUInt32

def remaining (delayUs elapsedUs : UInt32) : UInt32 :=
  if elapsedUs < delayUs then delayUs - elapsedUs else 0

/-- The timer after part of its delay has run, with the time that is credited. -/
def accountElapsed (timer : WorkerTimer) (elapsedUs : UInt32) : WorkerTimer × UInt32 :=
  if ¬timer.pending ∨ elapsedUs = 0 ∨ elapsedUs ≥ timer.delayUs then
    (timer, 0)
  else
    ({ timer with delayUs := timer.delayUs - elapsedUs }, elapsedUs)

end WorkerTimer

namespace WorkSlot

variable {ι υ : Type} [DecidableEq ι]

/-- A queued retry that counts down -/
def delayed (slot : WorkSlot ι υ) : Bool :=
  slot.ior.isSome && slot.lifecycle.state = .queued && slot.retryDelayUs ≠ 0

/-- The slot still holds the retry that `process_work_queue` returned. -/
def retried (slot : WorkSlot ι υ) (ior : ι) (sequence : UInt32) : Prop :=
  slot.ior = some ior ∧ slot.sequence = sequence ∧ slot.lifecycle.state = .queued

def stands (slot : WorkSlot ι υ) (ior : ι) (sequence : UInt32) : Prop :=
  slot.ior = some ior ∧ slot.sequence = sequence ∧ slot.lifecycle.state = .queued
    ∧ slot.retryDelayUs = 0

instance (slot : WorkSlot ι υ) (ior : ι) (sequence : UInt32)
    : Decidable (slot.stands ior sequence) := by
  unfold stands
  infer_instance

end WorkSlot

namespace WorkQueue

variable {ι υ : Type}

def workQueuePending (q : WorkQueue ι υ) : Bool :=
  (List.finRange workSlots).any fun i => (q.slots i).ready

def workQueueMinDelayUs (q : WorkQueue ι υ) : UInt32 :=
  (List.finRange workSlots).foldl
    (fun minimum i =>
      if (q.slots i).delayed ∧ (minimum = 0 ∨ (q.slots i).retryDelayUs < minimum) then
        (q.slots i).retryDelayUs
      else
        minimum)
    0

def advanceDelay (q : WorkQueue ι υ) (elapsedUs : UInt32) : WorkQueue ι υ :=
  { q with slots := fun i => (q.slots i).advanceDelay elapsedUs }

end WorkQueue

/-- Where the worker is in its loop, with the delay that it is about to wait for. -/
inductive WorkerPhase where
  | top
  | serving (pollDelayUs : UInt32)
  | working (pollDelayUs : UInt32)
  | polling (pollDelayUs : UInt32)
  | polled (pollDelayUs : UInt32) (anyPending : Bool)
  | checking (pollDelayUs : UInt32) (anyPending : Bool)
  | arming (pollDelayUs : UInt32) (anyPending : Bool)
  | waiting
  | waitingUntimed
  deriving DecidableEq, Repr

/--
What really happened, in microseconds since the worker's start: when the armed request can be
replied at the earliest, up to when its time was credited, how far the root hub accumulator was
advanced, and for each slot when its last retry was published and how far it was advanced since.
-/
structure DelayHistory where
  now : Nat
  firesAt : Nat
  creditedAt : Nat
  rootAdvanced : Nat
  publishedAt : Fin workSlots → Nat
  advanced : Fin workSlots → Nat

structure UsbWorker (ι υ : Type) where
  queue : WorkQueue ι υ
  phase : WorkerPhase
  timerOpen : Bool
  workerTimer : WorkerTimer
  timerStartedUs : UInt64
  rootPollElapsedUs : UInt32
  history : DelayHistory

/--
`replied` is what `CheckIO` and the timer signal say of the armed request, and a reading is what
`worker_now_us` returns, if it succeeds.
-/
inductive WorkerEvent (ι υ : Type) where
  | elapse (us : Nat)
  | queue (action : WorkAction ι υ)
  | top
  | retry (replied : Bool) (reading : Option UInt64)
  | poll (anyPending : Bool) (delaysUs : List UInt32)
  | workDelay
  | workPending
  | arm (replied : Bool) (reading started : Option UInt64)
  | wake (replied : Bool) (reading : Option UInt64)

namespace UsbWorker

variable {ι υ : Type}

def boot (iors : ι → WorkIor) (timerOpen : Bool) : UsbWorker ι υ where
  queue := .init iors
  phase := .top
  timerOpen := timerOpen
  workerTimer := .init
  timerStartedUs := 0
  rootPollElapsedUs := 100000
  history := ⟨0, 0, 0, 0, fun _ => 0, fun _ => 0⟩

/-- `root_poll_elapsed_us += elapsed_us` and `work_queue_advance_delay(elapsed_us)` -/
def credit (w : UsbWorker ι υ) (elapsedUs : UInt32) : UsbWorker ι υ :=
  { w with
    rootPollElapsedUs := w.rootPollElapsedUs + elapsedUs
    queue := w.queue.advanceDelay elapsedUs
    history := { w.history with
      rootAdvanced := w.history.rootAdvanced + elapsedUs.toNat
      advanced := fun i => w.history.advanced i + ((w.queue.slots i).retryDelayUs.toNat
        - ((w.queue.slots i).advanceDelay elapsedUs).retryDelayUs.toNat) } }

/-- The armed request is replied and collected. -/
def expire (w : UsbWorker ι υ) : UsbWorker ι υ :=
  let (workerTimer, elapsedUs) := w.workerTimer.expire true
  let w := { w with workerTimer := workerTimer, timerStartedUs := 0 }
  w.credit elapsedUs

/-- The armed request runs on, and what the clock shows of it so far is credited. -/
def account (w : UsbWorker ι υ) (reading : Option UInt64) : UsbWorker ι υ :=
  match reading with
  | none => w
  | some nowUs =>
    let elapsedUs := WorkerTimer.elapsed w.timerStartedUs nowUs w.workerTimer.delayUs
    let (workerTimer, elapsedUs) := w.workerTimer.accountElapsed elapsedUs
    let w := { w with workerTimer := workerTimer }
    if elapsedUs ≠ 0 then
      let w := { w with
        timerStartedUs := nowUs
        history := { w.history with creditedAt := w.history.now } }
      w.credit elapsedUs
    else
      w

/-- The armed request is aborted, if the delay that is now wanted ends before it. -/
def replace (w : UsbWorker ι υ) (pollDelayUs : UInt32) (reading : Option UInt64) : UsbWorker ι υ :=
  match reading with
  | none => w
  | some nowUs =>
    let elapsedUs := WorkerTimer.elapsed w.timerStartedUs nowUs w.workerTimer.delayUs
    if pollDelayUs < WorkerTimer.remaining w.workerTimer.delayUs elapsedUs then
      let w := { w with workerTimer := w.workerTimer.cancel, timerStartedUs := 0 }
      w.credit elapsedUs
    else
      w

/-- The request is sent, and the clock is read after it. -/
def send (w : UsbWorker ι υ) (pollDelayUs : UInt32) (started : Option UInt64) : UsbWorker ι υ :=
  match w.workerTimer.arm pollDelayUs with
  | none => w
  | some workerTimer =>
    { w with
      workerTimer := workerTimer
      timerStartedUs := started.getD 0
      history := { w.history with
        firesAt := w.history.now + workerTimer.delayUs.toNat
        creditedAt := w.history.now } }

def loopTop (w : UsbWorker ι υ) : UsbWorker ι υ :=
  let rootPollDue := w.rootPollElapsedUs ≥ 100000
  let pollDelayUs :=
    if rootPollDue then 100000 else WorkerTimer.remaining 100000 w.rootPollElapsedUs
  { w with
    rootPollElapsedUs := if rootPollDue then 0 else w.rootPollElapsedUs
    phase := .serving pollDelayUs }

/-- Close the accounting interval before publishing the new backoff. -/
def closeInterval (w : UsbWorker ι υ) (replied : Bool) (reading : Option UInt64) : UsbWorker ι υ :=
  if w.workerTimer.pending then
    if replied then w.expire else w.account reading
  else
    w

def poll (w : UsbWorker ι υ) (pollDelayUs : UInt32) (anyPending : Bool) (delaysUs : List UInt32)
    : UsbWorker ι υ :=
  { w with
    phase := .polled
      (delaysUs.foldl (fun pollDelayUs delayUs => if delayUs < pollDelayUs then delayUs
        else pollDelayUs) pollDelayUs)
      anyPending }

def workDelay (w : UsbWorker ι υ) (pollDelayUs : UInt32) (anyPending : Bool) : UsbWorker ι υ :=
  let workDelayUs := w.queue.workQueueMinDelayUs
  if workDelayUs ≠ 0 then
    { w with phase := .checking (if workDelayUs < pollDelayUs then workDelayUs else pollDelayUs) true }
  else
    { w with phase := .checking pollDelayUs anyPending }

def workPending (w : UsbWorker ι υ) (pollDelayUs : UInt32) (anyPending : Bool) : UsbWorker ι υ :=
  if w.queue.workQueuePending then
    { w with phase := .top }
  else
    { w with phase := .arming pollDelayUs anyPending }

def arm (w : UsbWorker ι υ) (pollDelayUs : UInt32) (anyPending replied : Bool)
    (reading started : Option UInt64) : UsbWorker ι υ :=
  if w.timerOpen && (anyPending || w.workerTimer.pending) then
    if w.workerTimer.pending && anyPending then
      if replied then
        { w.expire with phase := .top }
      else
        { (w.replace pollDelayUs reading).send pollDelayUs started with phase := .waiting }
    else
      { w.send pollDelayUs started with phase := .waiting }
  else
    { w with phase := .waitingUntimed }

def wake (w : UsbWorker ι υ) (replied : Bool) (reading : Option UInt64) : UsbWorker ι υ :=
  let (workerTimer, elapsedUs) := w.workerTimer.expire replied
  if elapsedUs ≠ 0 then
    w.expire
  else
    let w := { w with workerTimer := workerTimer }
    if workerTimer.pending then w.account reading else w

/-- The request that is armed fires no earlier than its delay. -/
def mayReply (w : UsbWorker ι υ) (replied : Bool) : Prop :=
  replied → w.workerTimer.pending → w.history.firesAt ≤ w.history.now

instance (w : UsbWorker ι υ) (replied : Bool) : Decidable (w.mayReply replied) := by
  unfold mayReply
  infer_instance

variable [DecidableEq ι] [DecidableEq υ]

def publish (w : UsbWorker ι υ) (i : Fin workSlots) (ior : ι) (sequence : UInt32) (ticket : Nat)
    : UsbWorker ι υ :=
  { w with
    queue := w.queue.publish i ior sequence ticket
    history :=
      if (w.queue.slots i).stands ior sequence then
        { w.history with
          publishedAt := Function.update w.history.publishedAt i w.history.now
          advanced := Function.update w.history.advanced i 0 }
      else
        w.history }

/-- What the other tasks do to the queue at any time, and the worker between two of its events. -/
def queueStep (w : UsbWorker ι υ) (action : WorkAction ι υ) : Option (UsbWorker ι υ) :=
  match w.queue.step action with
  | none => none
  | some queue =>
    match action, w.phase with
    | .enqueue .., _ | .abortIor _, _ | .abortUnit _, _ | .deliver _, _ =>
      some { w with queue := queue }
    | .select _, .serving pollDelayUs =>
      some { w with queue := queue, phase := .working pollDelayUs }
    | .execute .., .working _ | .finish, .working _ => some { w with queue := queue }
    | _, _ => none

def retry (w : UsbWorker ι υ) (pollDelayUs : UInt32) (replied : Bool) (reading : Option UInt64)
    : Option (UsbWorker ι υ) :=
  match w.queue.worker with
  | .idle => some { w with phase := .polling pollDelayUs }
  | .executing .. => none
  | .retrying i ior sequence ticket =>
    let w := (w.closeInterval replied reading).publish i ior sequence ticket
    some { w with phase := .polling pollDelayUs }

def step (w : UsbWorker ι υ) (event : WorkerEvent ι υ) : Option (UsbWorker ι υ) :=
  match event, w.phase with
  | .elapse us, _ => some { w with history := { w.history with now := w.history.now + us } }
  | .queue action, _ => w.queueStep action
  | .top, .top => some w.loopTop
  | .retry replied reading, .working pollDelayUs =>
    if w.mayReply replied then w.retry pollDelayUs replied reading else none
  | .poll anyPending delaysUs, .polling pollDelayUs => some (w.poll pollDelayUs anyPending delaysUs)
  | .workDelay, .polled pollDelayUs anyPending => some (w.workDelay pollDelayUs anyPending)
  | .workPending, .checking pollDelayUs anyPending => some (w.workPending pollDelayUs anyPending)
  | .arm replied reading started, .arming pollDelayUs anyPending =>
    if w.mayReply replied then some (w.arm pollDelayUs anyPending replied reading started) else none
  | .wake replied reading, .waiting =>
    if w.mayReply replied then some { w.wake replied reading with phase := .top } else none
  | .wake _ _, .waitingUntimed => some { w with phase := .top }
  | _, _ => none

def run (w : UsbWorker ι υ) (events : List (WorkerEvent ι υ)) : Option (UsbWorker ι υ) :=
  match events with
  | [] => some w
  | event :: events =>
    match w.step event with
    | none => none
    | some w => w.run events

end UsbWorker

end ZZUsb
