import Mathlib.Data.List.Basic
import ZZ9000.UsbPoseidon.Iso

/-!
This module proves what holds of a realtime ISO lifecycle after any sequence of its operations.
-/

namespace ZZUsb

inductive LifecycleOp where
  | add
  | start
  | queue
  | complete (batchId : UInt32)
  | beginStop
  | ackStop
  | finishStop
  | remove
  | requestRemove
  deriving DecidableEq

/-- An operation and what it returned, 0 when it failed. -/
structure LifecycleEvent where
  op : LifecycleOp
  ret : UInt32
  deriving DecidableEq

namespace RtLifecycle

def answer (l : RtLifecycle) (result : Option RtLifecycle) : UInt32 × RtLifecycle :=
  match result with
  | some l => (1, l)
  | none => (0, l)

def call (l : RtLifecycle) (op : LifecycleOp) : UInt32 × RtLifecycle :=
  match op with
  | .add => l.answer l.add
  | .start => l.answer l.start
  | .queue =>
    match l.queue with
    | some (batchId, l) => (batchId, l)
    | none => (0, l)
  | .complete batchId => l.answer (l.complete batchId)
  | .beginStop => l.answer l.beginStop
  | .ackStop => l.answer l.ackStop
  | .finishStop => l.answer l.finishStop
  | .remove => l.answer l.remove
  | .requestRemove => l.answer l.requestRemove

/-- What an operation that succeeds does. -/
inductive Effect (l : RtLifecycle) : LifecycleOp → UInt32 → RtLifecycle → Prop where
  | added : l.state = .free → Effect l .add 1 { l with state := .added, nextBatchId := 1 }
  | started :
    l.stopAckPending = false → l.state = .added ∨ l.state = .stopped →
      Effect l .start 1
        { l with queuedIds := fun _ => 0, inFlight := 0, state := .running, stopAckPending := true }
  | queued (batchId : UInt32) (h : l.inFlight < isoPipelineDepth) :
    l.state = .running → batchId ≠ 0 → (l.nextBatchId ≠ 0 → batchId = l.nextBatchId) →
      Effect l .queue batchId
        { l with
          nextBatchId := batchId + 1
          queuedIds := Function.update l.queuedIds ⟨l.inFlight, h⟩ batchId
          inFlight := l.inFlight + 1 }
  | completed (index : Fin isoPipelineDepth) :
    l.state = .running → index.val < l.inFlight → l.queuedIds index ≠ 0 →
      Effect l (.complete (l.queuedIds index)) 1
        { l with queuedIds := l.removedAt index, inFlight := l.inFlight - 1 }
  | stopBegun : l.state = .running → Effect l .beginStop 1 { l with state := .stopping }
  | acked (state : RtState) :
    l.stopAckPending = true →
      (state = .stopping ∧ (l.state = .running ∨ l.state = .stopping) ∨
        state = .stopped ∧ l.state = .stopped) →
      Effect l .ackStop 1 { l with state, stopAckPending := false }
  | stopFinished :
    l.state = .stopping → l.removePending = false →
      Effect l .finishStop 1 { l with queuedIds := fun _ => 0, inFlight := 0, state := .stopped }
  | freed : l.state = .stopping → l.removePending = true → Effect l .finishStop 1 init
  | removed (op : LifecycleOp) :
    op = .remove ∨ op = .requestRemove → l.state = .added ∨ l.state = .stopped → Effect l op 1 init
  | removeRequested :
    l.state = .running ∨ l.state = .stopping →
      Effect l .requestRemove 1 { l with state := .stopping, removePending := true }

theorem queue_effect {l : RtLifecycle} {batchId : UInt32} {l' : RtLifecycle}
    (h : l.queue = some (batchId, l'))
    : Effect l .queue batchId l' := by
  unfold queue at h
  split at h
  next hrunning =>
    simp only [Option.some.injEq, Prod.mk.injEq] at h
    rw [← h.2, h.1]
    apply Effect.queued
    . exact hrunning.1
    . rw [← h.1]
      split
      . decide
      . assumption
    . intro hnext
      rw [← h.1, if_neg hnext]
  next => simp at h

theorem complete_effect {l : RtLifecycle} {batchId : UInt32} {l' : RtLifecycle}
    (h : l.complete batchId = some l')
    : Effect l (.complete batchId) 1 l' := by
  unfold complete at h
  split at h
  next => simp at h
  next hrunning =>
    split at h
    next => simp at h
    next index hfind =>
      have hindex := List.find?_some hfind
      simp only [Bool.and_eq_true, decide_eq_true_eq] at hindex
      simp only [not_or, ne_eq, not_not] at hrunning
      simp only [Option.some.injEq] at h
      rw [← h, ← hindex.2]
      apply Effect.completed
      . exact hrunning.2
      . exact hindex.1
      . rw [hindex.2]
        exact hrunning.1

theorem ackStop_effect {l l' : RtLifecycle} (h : l.ackStop = some l') : Effect l .ackStop 1 l' := by
  unfold ackStop at h
  split at h
  next => simp at h
  next hpending =>
    simp only [Bool.not_eq_false] at hpending
    split at h
    next hrunning =>
      simp only [Option.some.injEq] at h
      rw [← h]
      apply Effect.acked .stopping hpending
      simp [hrunning]
    next =>
      split at h
      next hstopped =>
        simp only [Option.some.injEq] at h
        rw [← h]
        apply Effect.acked l.state hpending
        cases hstopped with
        | inl hstopping => simp [hstopping]
        | inr hstopped => simp [hstopped]
      next => simp at h

theorem remove_effect {l l' : RtLifecycle} {op : LifecycleOp}
    (hop : op = .remove ∨ op = .requestRemove) (h : l.remove = some l')
    : Effect l op 1 l' := by
  unfold remove at h
  split at h
  next hstate =>
    simp only [Option.some.injEq] at h
    rw [← h]
    exact Effect.removed op hop hstate
  next => simp at h

theorem finishStop_effect {l l' : RtLifecycle} (h : l.finishStop = some l')
    : Effect l .finishStop 1 l' := by
  unfold finishStop at h
  split at h
  next hstopping =>
    split at h
    next hpending =>
      simp only [Option.some.injEq] at h
      rw [← h]
      exact Effect.freed hstopping hpending
    next hpending =>
      simp only [Option.some.injEq] at h
      rw [← h]
      apply Effect.stopFinished hstopping
      simpa using hpending
  next => simp at h

theorem requestRemove_effect {l l' : RtLifecycle} (h : l.requestRemove = some l')
    : Effect l .requestRemove 1 l' := by
  unfold requestRemove at h
  split at h
  next =>
    apply remove_effect
    . simp
    . exact h
  next =>
    split at h
    next hstate =>
      simp only [Option.some.injEq] at h
      rw [← h]
      exact Effect.removeRequested hstate
    next => simp at h

theorem add_effect {l l' : RtLifecycle} (h : l.add = some l') : Effect l .add 1 l' := by
  unfold add at h
  split at h
  next hfree =>
    simp only [Option.some.injEq] at h
    rw [← h]
    exact Effect.added hfree
  next => simp at h

theorem start_effect {l l' : RtLifecycle} (h : l.start = some l') : Effect l .start 1 l' := by
  unfold start at h
  split at h
  next hstate =>
    simp only [Option.some.injEq] at h
    rw [← h]
    exact Effect.started hstate.1 hstate.2
  next => simp at h

theorem beginStop_effect {l l' : RtLifecycle} (h : l.beginStop = some l')
    : Effect l .beginStop 1 l' := by
  unfold beginStop at h
  split at h
  next hrunning =>
    simp only [Option.some.injEq] at h
    rw [← h]
    exact Effect.stopBegun hrunning
  next => simp at h

theorem answer_effect {l : RtLifecycle} {op : LifecycleOp} {result : Option RtLifecycle}
    (h : ∀ {l'}, result = some l' → Effect l op 1 l')
    : l.answer result = (0, l) ∨ Effect l op (l.answer result).1 (l.answer result).2 := by
  unfold answer
  split
  next => exact Or.inr (h rfl)
  next => simp

/-- An operation fails and changes nothing, or has its effect. -/
theorem call_effect (l : RtLifecycle) (op : LifecycleOp)
    : l.call op = (0, l) ∨ Effect l op (l.call op).1 (l.call op).2 := by
  cases op with
  | add => exact answer_effect add_effect
  | start => exact answer_effect start_effect
  | queue =>
    unfold call
    dsimp only
    split
    next h => exact Or.inr (queue_effect h)
    next => simp
  | complete => exact answer_effect complete_effect
  | beginStop => exact answer_effect beginStop_effect
  | ackStop => exact answer_effect ackStop_effect
  | finishStop => exact answer_effect finishStop_effect
  | remove => exact answer_effect (remove_effect (by simp))
  | requestRemove => exact answer_effect requestRemove_effect

/-- `queuedIds` holds the ids in flight, and only a running or stopping handler has any. -/
structure Valid (l : RtLifecycle) : Prop where
  inFlight_le : l.inFlight ≤ isoPipelineDepth
  ne_zero : ∀ i : Fin isoPipelineDepth, i.val < l.inFlight → l.queuedIds i ≠ 0
  eq_zero : ∀ i : Fin isoPipelineDepth, l.inFlight ≤ i.val → l.queuedIds i = 0
  distinct : ∀ i j : Fin isoPipelineDepth, i.val < l.inFlight → j.val < l.inFlight →
    l.queuedIds i = l.queuedIds j → i = j
  active : 0 < l.inFlight → l.state = .running ∨ l.state = .stopping

theorem Valid.of_empty {l : RtLifecycle} (hids : l.queuedIds = fun _ => 0) (hcount : l.inFlight = 0)
    : l.Valid where
  inFlight_le := by simp [hcount]
  ne_zero := by simp [hcount]
  eq_zero := by simp [hids]
  distinct := by simp [hcount]
  active := by simp [hcount]

theorem Valid.of_state {l : RtLifecycle} (h : l.Valid) {state : RtState}
    {removePending stopAckPending : Bool}
    (hstate : 0 < l.inFlight → state = .running ∨ state = .stopping)
    : Valid { l with state, removePending, stopAckPending } where
  inFlight_le := h.inFlight_le
  ne_zero := h.ne_zero
  eq_zero := h.eq_zero
  distinct := h.distinct
  active := hstate

theorem Valid.queuedIds_eq {l : RtLifecycle} (h : l.Valid)
    (hstate : l.state ≠ .running ∧ l.state ≠ .stopping)
    : l.inFlight = 0 ∧ l.queuedIds = fun _ => 0 := by
  have hcount : l.inFlight = 0 := by
    by_contra hcount
    have := h.active (by omega)
    simp [hstate] at this
  constructor
  . exact hcount
  . funext i
    apply h.eq_zero
    omega

/-- The ids that stay are those at the other places. -/
theorem removedAt_of_lt {l : RtLifecycle} {index i : Fin isoPipelineDepth}
    (hindex : index.val < l.inFlight) (hcount : l.inFlight ≤ isoPipelineDepth)
    (hi : i.val < l.inFlight - 1)
    : ∃ j : Fin isoPipelineDepth, j.val < l.inFlight ∧ j ≠ index ∧
        l.removedAt index i = l.queuedIds j ∧ (j.val = if index ≤ i then i.val + 1 else i.val) := by
  unfold removedAt
  rw [if_neg (by omega)]
  split
  next h =>
    exists ⟨i.val + 1, h.2.2⟩
    refine ⟨h.2.1, ?_, rfl, by simp [h.1]⟩
    have := Fin.le_def.mp h.1
    apply Fin.ne_of_val_ne
    dsimp only
    omega
  next h =>
    exists i
    have hlt : ¬index ≤ i := by
      intro hle
      apply h
      refine ⟨hle, by omega, by omega⟩
    refine ⟨by omega, ?_, rfl, by simp [hlt]⟩
    intro heq
    rw [heq] at hlt
    simp at hlt

theorem removedAt_of_le {l : RtLifecycle} (h : l.Valid) {index i : Fin isoPipelineDepth}
    (hi : l.inFlight - 1 ≤ i.val)
    : l.removedAt index i = 0 := by
  unfold removedAt
  split
  next => rfl
  next hlast =>
    rw [dif_neg (by omega)]
    apply h.eq_zero
    omega

theorem Valid.complete {l : RtLifecycle} (h : l.Valid) {index : Fin isoPipelineDepth}
    (hrunning : l.state = .running) (hindex : index.val < l.inFlight)
    : Valid { l with queuedIds := l.removedAt index, inFlight := l.inFlight - 1 } where
  inFlight_le := by
    have := h.inFlight_le
    dsimp only
    omega
  ne_zero := by
    intro i hi
    obtain ⟨j, hj, _, heq, _⟩ := removedAt_of_lt hindex h.inFlight_le hi
    dsimp only
    rw [heq]
    exact h.ne_zero j hj
  eq_zero := by
    intro i hi
    exact removedAt_of_le h hi
  distinct := by
    intro i i' hi hi' heq
    obtain ⟨j, hj, _, hij, hval⟩ := removedAt_of_lt hindex h.inFlight_le hi
    obtain ⟨j', hj', _, hij', hval'⟩ := removedAt_of_lt hindex h.inFlight_le hi'
    dsimp only at heq
    rw [hij, hij'] at heq
    have hjj := h.distinct j j' hj hj' heq
    rw [hjj, hval'] at hval
    have := Fin.le_def (a := index) (b := i)
    have := Fin.le_def (a := index) (b := i')
    apply Fin.ext
    split at hval <;> split at hval <;> omega
  active := by
    intro
    exact Or.inl hrunning

theorem Valid.queue {l : RtLifecycle} (h : l.Valid) {batchId nextBatchId : UInt32}
    (hcount : l.inFlight < isoPipelineDepth) (hrunning : l.state = .running) (hid : batchId ≠ 0)
    (hfresh : ∀ i : Fin isoPipelineDepth, i.val < l.inFlight → l.queuedIds i ≠ batchId)
    : Valid
        { l with
          nextBatchId
          queuedIds := Function.update l.queuedIds ⟨l.inFlight, hcount⟩ batchId
          inFlight := l.inFlight + 1 } where
  inFlight_le := by
    dsimp only
    omega
  ne_zero := by
    intro i hi
    dsimp only at hi ⊢
    cases eq_or_ne i ⟨l.inFlight, hcount⟩ with
    | inl heq =>
      rw [heq, Function.update_self]
      exact hid
    | inr hne =>
      rw [Function.update_of_ne hne]
      apply h.ne_zero
      have := Fin.val_ne_of_ne hne
      dsimp only at this
      omega
  eq_zero := by
    intro i hi
    dsimp only at hi ⊢
    rw [Function.update_of_ne]
    . apply h.eq_zero
      omega
    . apply Fin.ne_of_val_ne
      dsimp only
      omega
  distinct := by
    intro i j hi hj heq
    dsimp only at hi hj heq
    cases eq_or_ne i ⟨l.inFlight, hcount⟩ with
    | inl hi' =>
      cases eq_or_ne j ⟨l.inFlight, hcount⟩ with
      | inl hj' => rw [hi', hj']
      | inr hj' =>
        rw [hi', Function.update_self, Function.update_of_ne hj'] at heq
        have := Fin.val_ne_of_ne hj'
        dsimp only at this
        exact absurd heq.symm (hfresh j (by omega))
    | inr hi' =>
      have hlt := Fin.val_ne_of_ne hi'
      dsimp only at hlt
      cases eq_or_ne j ⟨l.inFlight, hcount⟩ with
      | inl hj' =>
        rw [hj', Function.update_self, Function.update_of_ne hi'] at heq
        exact absurd heq (hfresh i (by omega))
      | inr hj' =>
        have := Fin.val_ne_of_ne hj'
        dsimp only at this
        rw [Function.update_of_ne hi', Function.update_of_ne hj'] at heq
        exact h.distinct i j (by omega) (by omega) heq
  active := by
    intro
    exact Or.inl hrunning

end RtLifecycle

open RtLifecycle (Effect)

def LifecycleEvent.succeeds (event : LifecycleEvent) (op : LifecycleOp) : Bool :=
  event.op = op && event.ret != 0

theorem LifecycleEvent.succeeds_queue {batchId : UInt32} (h : batchId ≠ 0)
    : LifecycleEvent.succeeds ⟨.queue, batchId⟩ .queue = true := by
  simp [LifecycleEvent.succeeds, h]

/-- A sequence of operations so far, the last one first, and the lifecycle after it. -/
structure LifecycleRun where
  history : List LifecycleEvent
  lifecycle : RtLifecycle

namespace LifecycleRun

def init : LifecycleRun := ⟨[], .init⟩

def call (run : LifecycleRun) (op : LifecycleOp) : LifecycleRun :=
  ⟨⟨op, (run.lifecycle.call op).1⟩ :: run.history, (run.lifecycle.call op).2⟩

def calls (run : LifecycleRun) (ops : List LifecycleOp) : LifecycleRun := ops.foldl call run

def sinceAdd (history : List LifecycleEvent) : List LifecycleEvent :=
  history.takeWhile fun event => !event.succeeds .add

def sinceStart (history : List LifecycleEvent) : List LifecycleEvent :=
  history.takeWhile fun event => !event.succeeds .start

def queueCount (history : List LifecycleEvent) : Nat :=
  (sinceAdd history).countP (·.succeeds .queue)

def startsAndAcks (history : List LifecycleEvent) : List LifecycleEvent :=
  (sinceAdd history).filter fun event => event.succeeds .start || event.succeeds .ackStop

/-- Fewer than `2 ^ 32` queues succeed from any add to the next. -/
def FewQueues (history : List LifecycleEvent) : Prop :=
  ∀ past, past <:+ history → queueCount past < 2 ^ 32

/-- Starts and acknowledgements, the last one first, in which each start has one acknowledgement. -/
inductive Acknowledged : List LifecycleEvent → Prop where
  | nil : Acknowledged []
  | pair {events : List LifecycleEvent} :
    Acknowledged events → Acknowledged (⟨.ackStop, 1⟩ :: ⟨.start, 1⟩ :: events)

theorem sinceAdd_cons {event : LifecycleEvent} (h : event.succeeds .add = false)
    (history : List LifecycleEvent)
    : sinceAdd (event :: history) = event :: sinceAdd history := by
  unfold sinceAdd
  rw [List.takeWhile_cons]
  simp [h]

theorem sinceAdd_add (history : List LifecycleEvent) : sinceAdd (⟨.add, 1⟩ :: history) = [] := by
  unfold sinceAdd
  rw [List.takeWhile_cons]
  simp [LifecycleEvent.succeeds]

theorem sinceStart_cons {event : LifecycleEvent} (h : event.succeeds .start = false)
    (history : List LifecycleEvent)
    : sinceStart (event :: history) = event :: sinceStart history := by
  unfold sinceStart
  rw [List.takeWhile_cons]
  simp [h]

theorem queueCount_add (history : List LifecycleEvent) : queueCount (⟨.add, 1⟩ :: history) = 0 := by
  unfold queueCount
  rw [sinceAdd_add]
  rfl

theorem queueCount_cons {event : LifecycleEvent} (h : event.succeeds .add = false)
    (history : List LifecycleEvent)
    : queueCount (event :: history)
        =
      queueCount history + if event.succeeds .queue then 1 else 0 := by
  unfold queueCount
  rw [sinceAdd_cons h]
  rw [List.countP_cons]

theorem startsAndAcks_add (history : List LifecycleEvent)
    : startsAndAcks (⟨.add, 1⟩ :: history) = [] := by
  unfold startsAndAcks
  rw [sinceAdd_add]
  rfl

theorem startsAndAcks_cons {event : LifecycleEvent} (h : event.succeeds .add = false)
    (history : List LifecycleEvent)
    : startsAndAcks (event :: history)
        =
      if event.succeeds .start || event.succeeds .ackStop then
        event :: startsAndAcks history
      else
        startsAndAcks history := by
  unfold startsAndAcks
  rw [sinceAdd_cons h]
  rw [List.filter_cons]

/-- What the operations of a handler say of its batch ids. -/
structure Numbered (history : List LifecycleEvent) (l : RtLifecycle) : Prop where
  next : l.state ≠ .free → l.nextBatchId.toNat = (queueCount history + 1) % 2 ^ 32
  issued : l.state ≠ .free → ∀ batchId, batchId ≠ 0 →
    ⟨.queue, batchId⟩ ∈ sinceAdd history → batchId.toNat ≤ queueCount history
  once : l.state ≠ .free → ∀ batchId, batchId ≠ 0 →
    (sinceAdd history).count ⟨.queue, batchId⟩ ≤ 1
  completed : l.state ≠ .free → ∀ batchId,
    ⟨.complete batchId, 1⟩ ∈ sinceAdd history → ⟨.queue, batchId⟩ ∈ sinceAdd history
  queued : ∀ i : Fin isoPipelineDepth, i.val < l.inFlight →
    ⟨.queue, l.queuedIds i⟩ ∈ sinceAdd history ∧ ⟨.queue, l.queuedIds i⟩ ∈ sinceStart history ∧
      ⟨.complete (l.queuedIds i), 1⟩ ∉ sinceAdd history

/-- An operation that hands out no id and takes none back. -/
theorem Numbered.of_silent {history : List LifecycleEvent} {l l' : RtLifecycle}
    {event : LifecycleEvent} (h : Numbered history l) (hstate : l'.state ≠ .free → l.state ≠ .free)
    (hadd : event.succeeds .add = false)
    (hqueue : event.succeeds .queue = false) (hcomplete : ∀ batchId, event ≠ ⟨.complete batchId, 1⟩)
    (hnext : l'.state ≠ .free → l'.nextBatchId = l.nextBatchId)
    (hids : 0 < l'.inFlight → l'.inFlight = l.inFlight ∧ l'.queuedIds = l.queuedIds ∧
      event.succeeds .start = false)
    : Numbered (event :: history) l' := by
  have hcount : queueCount (event :: history) = queueCount history := by
    rw [queueCount_cons hadd]
    simp [hqueue]
  have hne : ∀ batchId, batchId ≠ 0 → event ≠ ⟨.queue, batchId⟩ := by
    intro batchId hid heq
    rw [heq, LifecycleEvent.succeeds_queue hid] at hqueue
    simp at hqueue
  constructor
  case next =>
    intro hfree
    rw [hcount, hnext hfree]
    exact h.next (hstate hfree)
  case issued =>
    intro hfree batchId hid hmem
    rw [sinceAdd_cons hadd] at hmem
    rw [hcount]
    cases List.mem_cons.mp hmem with
    | inl heq => exact absurd heq.symm (hne batchId hid)
    | inr hmem => exact h.issued (hstate hfree) batchId hid hmem
  case once =>
    intro hfree batchId hid
    rw [sinceAdd_cons hadd]
    rw [List.count_cons_of_ne (hne batchId hid)]
    exact h.once (hstate hfree) batchId hid
  case completed =>
    intro hfree batchId hmem
    rw [sinceAdd_cons hadd] at hmem ⊢
    apply List.mem_cons_of_mem
    cases List.mem_cons.mp hmem with
    | inl heq => exact absurd heq.symm (hcomplete batchId)
    | inr hmem => exact h.completed (hstate hfree) batchId hmem
  case queued =>
    intro i hi
    obtain ⟨hlen, hsame, hstart⟩ := hids (by omega)
    rw [hlen] at hi
    have hqueued := h.queued i hi
    rw [hsame, sinceAdd_cons hadd, sinceStart_cons hstart]
    refine ⟨List.mem_cons_of_mem _ hqueued.1, List.mem_cons_of_mem _ hqueued.2.1, ?_⟩
    intro hmem
    cases List.mem_cons.mp hmem with
    | inl heq => exact hcomplete _ heq.symm
    | inr hmem => exact hqueued.2.2 hmem

theorem Numbered.add {history : List LifecycleEvent} {l : RtLifecycle} (h : l.inFlight = 0)
    : Numbered (⟨.add, 1⟩ :: history) { l with state := .added, nextBatchId := 1 } where
  next := by
    rw [queueCount_add]
    simp
  issued := by simp [sinceAdd_add]
  once := by simp [sinceAdd_add]
  completed := by simp [sinceAdd_add]
  queued := by simp [h]

/-- The id that a queue hands out is the number of queues since the add, this one included. -/
theorem Numbered.toNat_eq {history : List LifecycleEvent} {l : RtLifecycle} {batchId : UInt32}
    (h : Numbered history l) (hfew : queueCount history + 1 < 2 ^ 32)
    (hrunning : l.state = .running)
    (hnext : l.nextBatchId ≠ 0 → batchId = l.nextBatchId)
    : batchId.toNat = queueCount history + 1 := by
  have hcount := h.next (by simp [hrunning])
  rw [Nat.mod_eq_of_lt hfew] at hcount
  rw [hnext]
  . exact hcount
  . intro hzero
    rw [hzero] at hcount
    simp at hcount

/-- It is not in flight yet. -/
theorem Numbered.fresh {history : List LifecycleEvent} {l : RtLifecycle} {batchId : UInt32}
    (h : Numbered history l) (hfree : l.state ≠ .free) (hid : batchId ≠ 0)
    (hnumber : batchId.toNat = queueCount history + 1)
    : ⟨.queue, batchId⟩ ∉ sinceAdd history := by
  intro hmem
  have := h.issued hfree batchId hid hmem
  omega

theorem Numbered.queue {history : List LifecycleEvent} {l : RtLifecycle} {batchId : UInt32}
    (h : Numbered history l) (hcount : l.inFlight < isoPipelineDepth)
    (hrunning : l.state = .running)
    (hid : batchId ≠ 0) (hnumber : batchId.toNat = queueCount history + 1)
    : Numbered (⟨.queue, batchId⟩ :: history)
        { l with
          nextBatchId := batchId + 1
          queuedIds := Function.update l.queuedIds ⟨l.inFlight, hcount⟩ batchId
          inFlight := l.inFlight + 1 } := by
  have hfree : l.state ≠ .free := by simp [hrunning]
  have hadd : LifecycleEvent.succeeds ⟨.queue, batchId⟩ .add = false := by
    simp [LifecycleEvent.succeeds]
  have hstart : LifecycleEvent.succeeds ⟨.queue, batchId⟩ .start = false := by
    simp [LifecycleEvent.succeeds]
  have hfresh := h.fresh hfree hid hnumber
  have hqueues : queueCount (⟨.queue, batchId⟩ :: history) = queueCount history + 1 := by
    rw [queueCount_cons hadd]
    simp [LifecycleEvent.succeeds_queue hid]
  constructor
  case next =>
    intro
    rw [hqueues]
    simp [UInt32.toNat_add, hnumber]
  case issued =>
    intro _ other hother hmem
    rw [sinceAdd_cons hadd] at hmem
    rw [hqueues]
    cases List.mem_cons.mp hmem with
    | inl heq =>
      simp only [LifecycleEvent.mk.injEq, true_and] at heq
      rw [heq]
      omega
    | inr hmem =>
      have := h.issued hfree other hother hmem
      omega
  case once =>
    intro _ other hother
    rw [sinceAdd_cons hadd]
    cases eq_or_ne other batchId with
    | inl heq =>
      have hzero := List.count_eq_zero_of_not_mem hfresh
      rw [heq, List.count_cons_self]
      omega
    | inr hne =>
      rw [List.count_cons_of_ne]
      . exact h.once hfree other hother
      . simp [hne.symm]
  case completed =>
    intro _ other hmem
    rw [sinceAdd_cons hadd] at hmem ⊢
    simp only [List.mem_cons, LifecycleEvent.mk.injEq, reduceCtorEq, false_and, false_or] at hmem
    exact List.mem_cons_of_mem _ (h.completed hfree other hmem)
  case queued =>
    intro i hi
    dsimp only at hi ⊢
    rw [sinceAdd_cons hadd, sinceStart_cons hstart]
    cases eq_or_ne i ⟨l.inFlight, hcount⟩ with
    | inl heq =>
      rw [heq, Function.update_self]
      refine ⟨by simp, by simp, ?_⟩
      intro hmem
      simp only [List.mem_cons, LifecycleEvent.mk.injEq, reduceCtorEq, false_and, false_or] at hmem
      exact hfresh (h.completed hfree batchId hmem)
    | inr hne =>
      rw [Function.update_of_ne hne]
      have hlt := Fin.val_ne_of_ne hne
      dsimp only at hlt
      have hqueued := h.queued i (by omega)
      refine ⟨List.mem_cons_of_mem _ hqueued.1, List.mem_cons_of_mem _ hqueued.2.1, ?_⟩
      simp [hqueued.2.2]

theorem Numbered.complete {history : List LifecycleEvent} {l : RtLifecycle}
    {index : Fin isoPipelineDepth} (h : Numbered history l) (hvalid : l.Valid) (hrunning : l.state = .running)
    (hindex : index.val < l.inFlight)
    : Numbered (⟨.complete (l.queuedIds index), 1⟩ :: history)
        { l with queuedIds := l.removedAt index, inFlight := l.inFlight - 1 } := by
  have hfree : l.state ≠ .free := by simp [hrunning]
  generalize hevent : LifecycleEvent.mk (.complete (l.queuedIds index)) 1 = event
  have hadd : event.succeeds .add = false := by simp [← hevent, LifecycleEvent.succeeds]
  have hstart : event.succeeds .start = false := by simp [← hevent, LifecycleEvent.succeeds]
  have hqueues : queueCount (event :: history) = queueCount history := by
    rw [queueCount_cons hadd]
    simp [← hevent, LifecycleEvent.succeeds]
  constructor
  case next =>
    intro
    rw [hqueues]
    exact h.next hfree
  case issued =>
    intro _ batchId hid hmem
    rw [sinceAdd_cons hadd] at hmem
    rw [hqueues]
    simp only [← hevent, List.mem_cons, LifecycleEvent.mk.injEq, reduceCtorEq, false_and,
      false_or] at hmem
    exact h.issued hfree batchId hid hmem
  case once =>
    intro _ batchId hid
    rw [sinceAdd_cons hadd]
    rw [List.count_cons_of_ne (by simp [← hevent])]
    exact h.once hfree batchId hid
  case completed =>
    intro _ batchId hmem
    rw [sinceAdd_cons hadd] at hmem ⊢
    apply List.mem_cons_of_mem
    simp only [← hevent, List.mem_cons, LifecycleEvent.mk.injEq, LifecycleOp.complete.injEq,
      and_true] at hmem
    cases hmem with
    | inl heq =>
      rw [heq]
      exact (h.queued index hindex).1
    | inr hmem => exact h.completed hfree batchId hmem
  case queued =>
    intro i hi
    obtain ⟨j, hj, hne, heq, _⟩ :=
      RtLifecycle.removedAt_of_lt hindex hvalid.inFlight_le hi
    have hqueued := h.queued j hj
    dsimp only
    rw [heq, sinceAdd_cons hadd, sinceStart_cons hstart]
    refine ⟨List.mem_cons_of_mem _ hqueued.1, List.mem_cons_of_mem _ hqueued.2.1, ?_⟩
    simp only [← hevent, List.mem_cons, LifecycleEvent.mk.injEq, LifecycleOp.complete.injEq,
      and_true, not_or]
    constructor
    . intro hsame
      exact hne (hvalid.distinct j index hj hindex hsame)
    . exact hqueued.2.2

/-- What the operations of a handler say of its acknowledgements. -/
structure Matched (history : List LifecycleEvent) (l : RtLifecycle) : Prop where
  none_pending : l.state ≠ .free → l.stopAckPending = false → Acknowledged (startsAndAcks history)
  one_pending : l.state ≠ .free → l.stopAckPending = true →
    ∃ events, startsAndAcks history = ⟨.start, 1⟩ :: events ∧ Acknowledged events
  free : l.state = .free → l.stopAckPending = false ∧ l.removePending = false
  removing : l.removePending = true → l.state = .stopping

theorem Matched.of_silent {history : List LifecycleEvent} {l l' : RtLifecycle}
    {event : LifecycleEvent} (h : Matched history l) (hadd : event.succeeds .add = false)
    (hstart : event.succeeds .start = false) (hack : event.succeeds .ackStop = false)
    (hpending : l'.stopAckPending = l.stopAckPending) (hfree : l'.state = .free ↔ l.state = .free)
    (hremoving : l'.removePending = true → l'.state = .stopping)
    (hremoved : l.state = .free → l'.removePending = false)
    : Matched (event :: history) l' := by
  have hsame : startsAndAcks (event :: history) = startsAndAcks history := by
    rw [startsAndAcks_cons hadd]
    simp [hstart, hack]
  constructor
  case none_pending =>
    rw [hsame, hpending, ne_eq, hfree]
    exact h.none_pending
  case one_pending =>
    rw [hsame, hpending, ne_eq, hfree]
    exact h.one_pending
  case free =>
    intro hstate
    rw [hpending]
    exact ⟨(h.free (hfree.mp hstate)).1, hremoved (hfree.mp hstate)⟩
  case removing => exact hremoving

theorem Matched.start {history : List LifecycleEvent} {l : RtLifecycle} (h : Matched history l)
    (hpending : l.stopAckPending = false) (hstate : l.state = .added ∨ l.state = .stopped)
    : Matched (⟨.start, 1⟩ :: history)
        { l with
          queuedIds := fun _ => 0, inFlight := 0, state := .running, stopAckPending := true } where
  none_pending := by simp
  one_pending := by
    intro _ _
    exists startsAndAcks history
    rw [startsAndAcks_cons (by simp [LifecycleEvent.succeeds])]
    constructor
    . simp [LifecycleEvent.succeeds]
    . apply h.none_pending
      . cases hstate with
        | inl hadded => simp [hadded]
        | inr hstopped => simp [hstopped]
      . exact hpending
  free := by simp
  removing := by
    intro hremoving
    have := h.removing hremoving
    simp [this] at hstate

theorem Matched.ackStop {history : List LifecycleEvent} {l : RtLifecycle} {state : RtState}
    (h : Matched history l) (hpending : l.stopAckPending = true) (hfree : l.state ≠ .free)
    (hstate : state ≠ .free) (hremoving : l.removePending = true → state = .stopping)
    : Matched (⟨.ackStop, 1⟩ :: history) { l with state, stopAckPending := false } where
  none_pending := by
    intro _ _
    obtain ⟨events, heq, hevents⟩ := h.one_pending hfree hpending
    rw [startsAndAcks_cons (by simp [LifecycleEvent.succeeds]), heq]
    simpa [LifecycleEvent.succeeds] using Acknowledged.pair hevents
  one_pending := by simp
  free := by
    intro hstate'
    exact absurd hstate' hstate
  removing := hremoving

theorem Matched.of_init (history : List LifecycleEvent) : Matched history .init where
  none_pending := by simp [RtLifecycle.init]
  one_pending := by simp [RtLifecycle.init]
  free := by simp [RtLifecycle.init]
  removing := by simp [RtLifecycle.init]

structure Inv (history : List LifecycleEvent) (l : RtLifecycle) : Prop where
  valid : l.Valid
  numbered : Numbered history l
  matched : Matched history l

theorem Inv.of_init {history : List LifecycleEvent} : Inv history .init where
  valid := RtLifecycle.Valid.of_empty rfl rfl
  numbered := by
    constructor <;> simp [RtLifecycle.init]
  matched := Matched.of_init history

theorem Inv.of_failed {history : List LifecycleEvent} {l : RtLifecycle} (h : Inv history l)
    (op : LifecycleOp)
    : Inv (⟨op, 0⟩ :: history) l where
  valid := h.valid
  numbered := by
    apply h.numbered.of_silent <;> simp [LifecycleEvent.succeeds]
  matched := by
    apply h.matched.of_silent
    case hremoving => exact h.matched.removing
    case hremoved =>
      intro hfree
      exact (h.matched.free hfree).2
    all_goals simp [LifecycleEvent.succeeds]

theorem Inv.of_effect {history : List LifecycleEvent} {l l' : RtLifecycle} {op : LifecycleOp}
    {ret : UInt32} (h : Inv history l) (heffect : Effect l op ret l')
    (hfew : queueCount (⟨op, ret⟩ :: history) < 2 ^ 32)
    : Inv (⟨op, ret⟩ :: history) l' := by
  cases heffect with
  | added hfree =>
    have hempty := h.valid.queuedIds_eq (by simp [hfree])
    have hflags := h.matched.free hfree
    constructor
    . exact RtLifecycle.Valid.of_empty hempty.2 hempty.1
    . exact Numbered.add hempty.1
    . constructor
      . intro _ _
        rw [startsAndAcks_add]
        exact Acknowledged.nil
      . simp [hflags]
      . simp
      . simp [hflags]
  | started hpending hstate =>
    constructor
    . exact RtLifecycle.Valid.of_empty rfl rfl
    . apply h.numbered.of_silent <;> simp [LifecycleEvent.succeeds]
      cases hstate with
      | inl hadded => simp [hadded]
      | inr hstopped => simp [hstopped]
    . exact h.matched.start hpending hstate
  | queued _ hcount hrunning hid hnext =>
    have hadd : LifecycleEvent.succeeds ⟨.queue, ret⟩ .add = false := by
      simp [LifecycleEvent.succeeds]
    rw [queueCount_cons hadd, LifecycleEvent.succeeds_queue hid, if_pos rfl] at hfew
    have hnumber := h.numbered.toNat_eq hfew hrunning hnext
    have hfresh := h.numbered.fresh (by simp [hrunning]) hid hnumber
    constructor
    . apply h.valid.queue hcount hrunning hid
      intro i hi heq
      rw [← heq] at hfresh
      exact hfresh (h.numbered.queued i hi).1
    . exact h.numbered.queue hcount hrunning hid hnumber
    . apply h.matched.of_silent
      case hremoving => exact h.matched.removing
      all_goals simp [LifecycleEvent.succeeds, hrunning]
  | completed index hrunning hindex hne =>
    constructor
    . exact h.valid.complete hrunning hindex
    . exact h.numbered.complete h.valid hrunning hindex
    . apply h.matched.of_silent
      case hremoving => exact h.matched.removing
      all_goals simp [LifecycleEvent.succeeds, hrunning]
  | stopBegun hrunning =>
    constructor
    . apply h.valid.of_state
      simp
    . apply h.numbered.of_silent <;> simp [LifecycleEvent.succeeds, hrunning]
    . apply h.matched.of_silent <;> simp [LifecycleEvent.succeeds, hrunning]
  | acked state hpending hstate =>
    have hnew : state ≠ .free := by
      cases hstate with
      | inl hstopping => simp [hstopping]
      | inr hstopped => simp [hstopped]
    have hold : l.state ≠ .free := by
      cases hstate with
      | inl hstopping =>
        cases hstopping.2 with
        | inl hrunning => simp [hrunning]
        | inr hstopping => simp [hstopping]
      | inr hstopped => simp [hstopped]
    constructor
    . apply h.valid.of_state
      intro hactive
      have := h.valid.active hactive
      cases hstate with
      | inl hstopping => exact Or.inr hstopping.1
      | inr hstopped => simp [hstopped] at this
    . apply h.numbered.of_silent <;> simp [LifecycleEvent.succeeds, hold]
    . apply h.matched.ackStop hpending hold hnew
      intro hremoving
      have := h.matched.removing hremoving
      cases hstate with
      | inl hstopping => exact hstopping.1
      | inr hstopped => simp [hstopped] at this
  | stopFinished hstopping hremoving =>
    constructor
    . exact RtLifecycle.Valid.of_empty rfl rfl
    . apply h.numbered.of_silent <;> simp [LifecycleEvent.succeeds, hstopping]
    . apply h.matched.of_silent <;> simp [LifecycleEvent.succeeds, hstopping, hremoving]
  | freed hstopping hremoving => exact Inv.of_init
  | removed op hop hstate => exact Inv.of_init
  | removeRequested hstate =>
    have hfree : l.state ≠ .free := by
      cases hstate with
      | inl hrunning => simp [hrunning]
      | inr hstopping => simp [hstopping]
    constructor
    . apply h.valid.of_state
      simp
    . apply h.numbered.of_silent <;> simp [LifecycleEvent.succeeds, hfree]
    . apply h.matched.of_silent <;> simp [LifecycleEvent.succeeds, hfree]

theorem Inv.call {run : LifecycleRun} (h : Inv run.history run.lifecycle) (op : LifecycleOp)
    (hfew : queueCount (run.call op).history < 2 ^ 32)
    : Inv (run.call op).history (run.call op).lifecycle := by
  unfold LifecycleRun.call at *
  dsimp only at *
  cases run.lifecycle.call_effect op with
  | inl hfailed =>
    rw [hfailed]
    exact h.of_failed op
  | inr heffect => exact h.of_effect heffect hfew

theorem suffix_calls (run : LifecycleRun) (ops : List LifecycleOp)
    : run.history <:+ (run.calls ops).history := by
  induction ops generalizing run with
  | nil => exact List.suffix_rfl
  | cons op ops ih => exact (List.suffix_cons _ _).trans (ih (run.call op))

theorem Inv.calls {run : LifecycleRun} (h : Inv run.history run.lifecycle) (ops : List LifecycleOp)
    (hfew : FewQueues (run.calls ops).history)
    : Inv (run.calls ops).history (run.calls ops).lifecycle := by
  induction ops generalizing run with
  | nil => exact h
  | cons op ops ih =>
    apply ih
    . apply h.call
      apply hfew
      exact suffix_calls (run.call op) ops
    . exact hfew

/-! After a remove of a running handler was requested there is no way but the one to free. -/

def Removing (l : RtLifecycle) : Prop := l.state = .stopping ∧ l.removePending = true ∨ l = .init

theorem Removing.call {l : RtLifecycle} (h : Removing l) {op : LifecycleOp}
    (hadd : LifecycleEvent.succeeds ⟨op, (l.call op).1⟩ .add = false)
    : Removing (l.call op).2 := by
  cases l.call_effect op with
  | inl hfailed =>
    rw [hfailed]
    exact h
  | inr heffect =>
    generalize (l.call op).1 = ret at hadd heffect
    generalize (l.call op).2 = l' at heffect
    unfold Removing at *
    cases h with
    | inl hstopping => cases heffect <;> simp_all [LifecycleEvent.succeeds]
    | inr hinit => cases heffect <;> simp_all [LifecycleEvent.succeeds, RtLifecycle.init]

theorem Removing.calls {run : LifecycleRun} (h : Removing run.lifecycle) {ops : List LifecycleOp}
    (hadd : ∀ event ∈ (run.calls ops).history, event.succeeds .add = false)
    : Removing (run.calls ops).lifecycle := by
  induction ops generalizing run with
  | nil => exact h
  | cons op ops ih =>
    apply ih
    . apply h.call
      apply hadd
      apply (suffix_calls (run.call op) ops).subset
      simp [LifecycleRun.call]
    . exact hadd

/-- Once a remove was requested, the lifecycle stays stopping until a stop finishes and frees it. -/
structure OnlyFree (l : RtLifecycle) : Prop where
  state : l.state = .stopping ∨ l.state = .free
  start_fails : (l.call .start).1 = 0
  queue_fails : (l.call .queue).1 = 0
  finishStop_frees : l.state = .stopping → l.call .finishStop = (1, .init)

theorem Removing.onlyFree {l : RtLifecycle} (h : Removing l) : OnlyFree l := by
  cases h with
  | inl hstopping =>
    constructor <;>
      simp [hstopping, RtLifecycle.call, RtLifecycle.answer, RtLifecycle.start, RtLifecycle.queue,
        RtLifecycle.finishStop]
  | inr hinit =>
    rw [hinit]
    constructor
    case finishStop_frees => simp [RtLifecycle.init]
    all_goals decide

theorem fewQueues_of_length {history : List LifecycleEvent} (h : history.length < 2 ^ 32)
    : FewQueues history := by
  intro past hpast
  calc
    queueCount past ≤ (sinceAdd past).length := List.countP_le_length
    _ ≤ past.length := (List.takeWhile_sublist _).length_le
    _ ≤ history.length := hpast.length_le
    _ < 2 ^ 32 := h

end LifecycleRun

/-- What `op` may do after the sequence of operations `run`. -/
structure LifecycleSafe (run : LifecycleRun) (op : LifecycleOp) : Prop where
  valid : run.lifecycle.Valid
  completed : ∀ batchId, op = .complete batchId → (run.lifecycle.call op).1 ≠ 0 →
    run.lifecycle.state = .running ∧
      ⟨.queue, batchId⟩ ∈ LifecycleRun.sinceStart run.history ∧
      (LifecycleRun.sinceAdd run.history).count ⟨.queue, batchId⟩ = 1 ∧
      ⟨.complete batchId, 1⟩ ∉ LifecycleRun.sinceAdd run.history
  started : op = .start → (run.lifecycle.call op).1 ≠ 0 →
    LifecycleRun.Acknowledged (LifecycleRun.startsAndAcks run.history)
  removing : op = .requestRemove → (run.lifecycle.call op).1 ≠ 0 →
    run.lifecycle.state = .running ∨ run.lifecycle.state = .stopping →
      ∀ ops, (∀ event ∈ (LifecycleRun.calls ⟨[], (run.lifecycle.call op).2⟩ ops).history,
          event.succeeds .add = false) →
        LifecycleRun.OnlyFree (LifecycleRun.calls ⟨[], (run.lifecycle.call op).2⟩ ops).lifecycle

theorem lifecycleRun_safe (ops : List LifecycleOp) (op : LifecycleOp)
    (hfew : LifecycleRun.FewQueues (LifecycleRun.init.calls ops).history)
    : LifecycleSafe (LifecycleRun.init.calls ops) op := by
  have hinv := LifecycleRun.Inv.of_init.calls ops hfew
  generalize LifecycleRun.init.calls ops = run at hinv
  have heffect := run.lifecycle.call_effect op
  constructor
  case valid => exact hinv.valid
  case completed =>
    intro batchId hop hret
    cases heffect with
    | inl hfailed => simp [hfailed] at hret
    | inr heffect =>
      rw [hop] at heffect
      generalize (run.lifecycle.call (.complete batchId)).1 = ret at heffect
      generalize (run.lifecycle.call (.complete batchId)).2 = l' at heffect
      cases heffect with
      | completed index hrunning hindex hne =>
        have hqueued := hinv.numbered.queued index hindex
        have honce := hinv.numbered.once (by simp [hrunning]) _ hne
        have hpos := List.count_pos_iff.mpr hqueued.1
        exact ⟨hrunning, hqueued.2.1, by omega, hqueued.2.2⟩
      | removed op hop => simp at hop
  case started =>
    intro hop hret
    cases heffect with
    | inl hfailed => simp [hfailed] at hret
    | inr heffect =>
      rw [hop] at heffect
      generalize (run.lifecycle.call .start).1 = ret at heffect
      generalize (run.lifecycle.call .start).2 = l' at heffect
      cases heffect with
      | started hpending hstate =>
        apply hinv.matched.none_pending _ hpending
        cases hstate with
        | inl hadded => simp [hadded]
        | inr hstopped => simp [hstopped]
      | removed op hop => simp at hop
  case removing =>
    intro hop hret hstate ops hadd
    apply LifecycleRun.Removing.onlyFree
    apply LifecycleRun.Removing.calls _ hadd
    cases heffect with
    | inl hfailed => simp [hfailed] at hret
    | inr heffect =>
      rw [hop] at heffect ⊢
      dsimp only
      generalize (run.lifecycle.call .requestRemove).1 = ret at heffect
      generalize (run.lifecycle.call .requestRemove).2 = l' at heffect
      cases heffect with
      | removed op hop hadded => exact Or.inr rfl
      | removeRequested => exact Or.inl ⟨rfl, rfl⟩

theorem lifecycleRun_safe_removed
    : LifecycleSafe (LifecycleRun.init.calls [.add, .start, .queue, .complete 1, .queue])
        .requestRemove :=
  lifecycleRun_safe _ _ (LifecycleRun.fewQueues_of_length (by decide))

end ZZUsb
