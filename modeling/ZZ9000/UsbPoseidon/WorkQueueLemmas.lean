import ZZ9000.UsbPoseidon.WorkQueue
import ZZ9000.UsbPoseidon.EngineLemmas

/-!
This module shows that the work queue replies every request that it accepts exactly once, whatever
the worker and the aborting tasks do between the atomic sections of each other.
-/

namespace ZZUsb

open Concurrency (total total_update total_update_of_eq le_total add_le_total total_eq_zero)

theorem nextSequence_ne_zero (workSequence : UInt32) : nextSequence workSequence ≠ 0 := by
  unfold nextSequence
  split
  . decide
  . next hne => exact hne

namespace WorkSlot

variable {ι υ : Type}

/-- What holds of a slot outside of the atomic sections. -/
structure Inv (slot : WorkSlot ι υ) (active : Bool) (aborted : ι → Bool) : Prop where
  free : slot.ior = none → slot.lifecycle.state = .free ∧ active = false
  unclaimed : slot.ior ≠ none → slot.lifecycle.replyClaimed = false
  aborted_eq : ∀ ior, slot.ior = some ior → aborted ior = slot.lifecycle.abortRequested
  queued : slot.ior ≠ none → active = false →
    slot.lifecycle.state = .queued ∧ slot.lifecycle.abortRequested = false
  inFlight : active = true →
    slot.lifecycle.state = .inFlight ∧ slot.lifecycle.requestId = slot.sequence
      ∧ slot.sequence ≠ 0

variable {slot : WorkSlot ι υ} {aborted : ι → Bool}

theorem inv_clear (slot : WorkSlot ι υ) (aborted : ι → Bool) : slot.clear.Inv false aborted := by
  constructor <;> simp [clear, EngineRequest.init]

theorem inv_enqueue (slot : WorkSlot ι υ) {ior : ι} (unit : υ) (observer : Bool)
    (enqueueSeq : UInt32) (haborted : aborted ior = false)
    : (slot.enqueue ior unit observer enqueueSeq).Inv false aborted := by
  constructor <;> simp [enqueue, EngineRequest.queue, EngineRequest.init, haborted]

theorem inv_congr {active : Bool} {aborted' : ι → Bool} (h : slot.Inv active aborted)
    (haborted : ∀ ior, slot.ior = some ior → aborted' ior = aborted ior)
    : slot.Inv active aborted' where
  free := h.free
  unclaimed := h.unclaimed
  aborted_eq := by
    intro ior hior
    rw [haborted ior hior]
    exact h.aborted_eq ior hior
  queued := h.queued
  inFlight := h.inFlight

theorem inv_begin {ior : ι} (h : slot.Inv false aborted) (hior : slot.ior = some ior)
    {sequence : UInt32} (hsequence : sequence ≠ 0) (controllerEpoch : UInt32)
    : (slot.begin sequence controllerEpoch).Inv true aborted := by
  have hne : slot.ior ≠ none := by simp [hior]
  have hqueued := h.queued hne rfl
  have hunclaimed := h.unclaimed hne
  have haborted := h.aborted_eq ior hior
  constructor <;>
    simp_all [begin, EngineRequest.dispatch, EngineRequest.begin]

theorem inv_execute {active : Bool} (h : slot.Inv active aborted) (status : UInt16)
    (bulkActual : UInt32)
    : Inv { slot with completionStatus := status, bulkActual } active aborted := by
  exact ⟨h.free, h.unclaimed, h.aborted_eq, h.queued, h.inFlight⟩

theorem inv_advanceDelay {active : Bool} (h : slot.Inv active aborted) (elapsedUs : UInt32)
    : (slot.advanceDelay elapsedUs).Inv active aborted := by
  unfold advanceDelay
  split
  . exact h
  . exact ⟨h.free, h.unclaimed, h.aborted_eq, h.queued, h.inFlight⟩

@[simp]
theorem advanceDelay_ior (slot : WorkSlot ι υ) (elapsedUs : UInt32)
    : (slot.advanceDelay elapsedUs).ior = slot.ior := by
  unfold advanceDelay
  split <;> rfl

@[simp]
theorem advanceDelay_sequence (slot : WorkSlot ι υ) (elapsedUs : UInt32)
    : (slot.advanceDelay elapsedUs).sequence = slot.sequence := by
  unfold advanceDelay
  split <;> rfl

/-- An abort makes a queued request terminal, and claims its reply. -/
theorem abort_queued (h : slot.Inv false aborted) (hior : slot.ior ≠ none)
    : slot.lifecycle.abort.request.state = .terminal
        ∧
      slot.lifecycle.abort.request.claimReply.ret = true := by
  have hqueued := h.queued hior rfl
  have hunclaimed := h.unclaimed hior
  simp [EngineRequest.abort, EngineRequest.makeTerminal, EngineRequest.claimReply, hqueued,
    hunclaimed]

theorem inv_abort_inFlight {ior : ι} {aborted' : ι → Bool} (h : slot.Inv true aborted)
    (hior : slot.ior = some ior) (haborted : aborted' ior = true)
    : Inv { slot with lifecycle := slot.lifecycle.abort.request } true aborted' := by
  have hinFlight := h.inFlight rfl
  rw [EngineRequest.abort_of_inFlight hinFlight.1]
  have hunclaimed := h.unclaimed (by simp [hior])
  constructor <;> simp_all

theorem complete_reply (h : slot.Inv true aborted) (hior : slot.ior ≠ none) (ior : WorkIor)
    : (slot.complete ior).reply = true := by
  have hinFlight := h.inFlight rfl
  have hunclaimed := h.unclaimed hior
  unfold complete
  simp [EngineRequest.complete, EngineRequest.makeTerminal, EngineRequest.claimReply, hinFlight,
    hunclaimed]

/-- What the worker does with a request that it has executed. -/
inductive Finish (held : Option ι) (sequence : UInt32) (abortRequested : Bool) (aborted : ι → Bool)
    : WorkFinish ι υ → Prop where
  | retried (slot : WorkSlot ι υ) (ior : WorkIor) (hior : slot.ior = held)
      (hsequence : slot.sequence = sequence) (hinv : slot.Inv false aborted) :
    Finish held sequence abortRequested aborted ⟨slot, ior, true, false⟩
  | replied (slot : WorkSlot ι υ) (ior : WorkIor) (hior : slot.ior = none)
      (hinv : slot.Inv false aborted)
      (haborted : abortRequested = true → ior.actual = 0 ∧ ior.error = .aborted) :
    Finish held sequence abortRequested aborted ⟨slot, ior, false, true⟩

theorem complete_finish (h : slot.Inv true aborted) (hior : slot.ior ≠ none) (ior : WorkIor)
    (haborted : slot.lifecycle.abortRequested = true → ior.actual = 0 ∧ ior.error = .aborted)
    : Finish slot.ior slot.sequence slot.lifecycle.abortRequested aborted (slot.complete ior) := by
  have hreply := complete_reply h hior ior
  unfold complete at hreply ⊢
  dsimp only at hreply ⊢
  rw [hreply]
  apply Finish.replied
  . rfl
  . apply inv_clear
  . exact haborted

theorem inv_retry {ior : ι} (h : slot.Inv true aborted) (hior : slot.ior = some ior)
    (habort : slot.lifecycle.abortRequested = false) (status : UInt16) (enqueueSeq : UInt32)
    (idleBulkRetries : UInt16)
    : Inv
        { slot with
          lifecycle := (slot.lifecycle.retry status).request
          enqueueSeq
          idleBulkRetries }
        false aborted := by
  have hinFlight := h.inFlight rfl
  have hunclaimed := h.unclaimed (by simp [hior])
  have haborted := h.aborted_eq ior hior
  constructor <;> simp_all [EngineRequest.retry]

theorem finish_finish {held : ι} (h : slot.Inv true aborted) (hior : slot.ior = some held)
    (ior : WorkIor) (enqueueSeq : UInt32)
    : Finish slot.ior slot.sequence slot.lifecycle.abortRequested aborted
        (slot.finish ior enqueueSeq) := by
  have hne : slot.ior ≠ none := by simp [hior]
  unfold finish
  split
  . next habort =>
    apply complete_finish (inv_execute h EngineStatus.cancelled slot.bulkActual) hne
    simp
  . next habort =>
    have hexecute := inv_execute h (slot.finishStatus ior) slot.bulkActual
    dsimp only
    split
    . apply Finish.retried
      . rfl
      . rfl
      . apply inv_retry hexecute hior
        simpa using habort
    . apply complete_finish hexecute hne
      intro habort'
      exact absurd habort' habort

end WorkSlot

namespace WorkQueue

variable {ι υ : Type} [DecidableEq ι]

def holds (ior : ι) (slot : WorkSlot ι υ) : Nat := if slot.ior = some ior then 1 else 0

def held (q : WorkQueue ι υ) (ior : ι) : Nat := total (holds ior) q.slots

def WorkerInv (q : WorkQueue ι υ) : Prop :=
  match q.worker with
  | .idle => q.activeWorkSlot = none
  | .executing i ior ticket =>
    q.activeWorkSlot = some i ∧ (q.slots i).ior = some ior ∧ q.history.tickets i = ticket
  | .retrying i _ sequence ticket =>
    q.activeWorkSlot = none ∧ sequence ≠ 0
      ∧ ((q.slots i).sequence = sequence → q.history.tickets i = ticket)

structure Inv (q : WorkQueue ι υ) : Prop where
  slot : ∀ i, (q.slots i).Inv (q.activeWorkSlot = some i) q.history.aborted
  worker : q.WorkerInv
  account : ∀ ior, q.history.accepted ior = q.replied ior + q.held ior + q.owed.count ior
  owner : ∀ ior, q.held ior + q.owed.count ior ≤ 1
  owed : ∀ ior ∈ q.owed, (q.iors ior).actual = 0 ∧ (q.iors ior).error = .aborted
  inactive : ∀ e ∈ q.history.replies, e.active = false
  aborted : ∀ e ∈ q.history.replies, e.aborted = true → e.error = .aborted ∧ e.actual = 0
  touched : ∀ t ∈ q.history.touched, t.1 = t.2

variable {q : WorkQueue ι υ}

theorem one_le_held {ior : ι} {i : Fin workSlots} (h : (q.slots i).ior = some ior)
    : 1 ≤ q.held ior := by
  have := le_total (holds ior) q.slots i
  rw [holds, if_pos h] at this
  exact this

/-- No two slots hold the same request. -/
theorem Inv.eq_of_held (h : q.Inv) {ior : ι} {i j : Fin workSlots}
    (hi : (q.slots i).ior = some ior) (hj : (q.slots j).ior = some ior)
    : i = j := by
  apply Decidable.byContradiction
  intro hne
  have hle := add_le_total (holds ior) q.slots hne
  rw [holds, if_pos hi, holds, if_pos hj] at hle
  have howner := h.owner ior
  unfold held at howner
  omega

theorem Inv.not_mem_owed (h : q.Inv) {ior : ι} {i : Fin workSlots}
    (hi : (q.slots i).ior = some ior)
    : ior ∉ q.owed := by
  intro hmem
  have := one_le_held hi
  have := List.one_le_count_iff.mpr hmem
  have := h.owner ior
  omega

/-- The slots other than `i` are not concerned by what happens to the request in `i`. -/
theorem Inv.slot_of_ne (h : q.Inv) {ior : ι} {i j : Fin workSlots} (hne : j ≠ i)
    (hi : (q.slots i).ior = some ior) (flag : Bool)
    : (q.slots j).Inv (q.activeWorkSlot = some j)
        (Function.update q.history.aborted ior flag) := by
  apply WorkSlot.inv_congr (h.slot j)
  intro ior' hior'
  rw [Function.update_of_ne]
  intro heq
  rw [heq] at hior'
  exact hne (h.eq_of_held hior' hi)

theorem held_update (q : WorkQueue ι υ) (i : Fin workSlots) (slot : WorkSlot ι υ) (ior : ι)
    : total (holds ior) (Function.update q.slots i slot) + holds ior (q.slots i)
        =
      q.held ior + holds ior slot := by
  apply total_update

theorem held_update_of_ior_eq {i : Fin workSlots} {slot : WorkSlot ι υ}
    (h : slot.ior = (q.slots i).ior) (ior : ι)
    : total (holds ior) (Function.update q.slots i slot) = q.held ior := by
  apply total_update_of_eq
  unfold holds
  rw [h]

theorem holds_of_ior_eq {slot : WorkSlot ι υ} {ior : ι} (h : slot.ior = some ior) (ior' : ι)
    : holds ior' slot = if ior = ior' then 1 else 0 := by
  unfold holds
  rw [h]
  simp

theorem holds_of_free {slot : WorkSlot ι υ} (h : slot.ior = none) (ior : ι)
    : holds ior slot = 0 := by
  simp [holds, h]

omit [DecidableEq ι] in
/-- The other tasks leave the slot of the worker alone, and give a slot away only with sequence 0. -/
theorem WorkerInv.congr {q' : WorkQueue ι υ} (h : q.WorkerInv) (hworker : q'.worker = q.worker)
    (hactive : q'.activeWorkSlot = q.activeWorkSlot)
    (hheld : ∀ j, q.activeWorkSlot = some j → (q'.slots j).ior = (q.slots j).ior
      ∧ q'.history.tickets j = q.history.tickets j)
    (hother : ∀ j, (q'.slots j).sequence = 0 ∨ (q'.slots j).sequence = (q.slots j).sequence
      ∧ q'.history.tickets j = q.history.tickets j)
    : q'.WorkerInv := by
  unfold WorkerInv at h ⊢
  rw [hworker, hactive]
  split
  . next hidle =>
    rw [hidle] at h
    exact h
  . next i ior ticket hexecuting =>
    rw [hexecuting] at h
    have := hheld i h.1
    rw [this.1, this.2]
    exact h
  . next i ior sequence ticket hretrying =>
    rw [hretrying] at h
    refine ⟨h.1, h.2.1, ?_⟩
    intro hsequence
    cases hother i with
    | inl hzero =>
      rw [hzero] at hsequence
      exact absurd hsequence.symm h.2.1
    | inr hsame =>
      rw [hsame.2]
      apply h.2.2
      rw [← hsame.1]
      exact hsequence

theorem Inv.abortSlot (h : q.Inv) {ior : ι} {i : Fin workSlots} (hi : (q.slots i).ior = some ior)
    : (q.abortSlot i ior).Inv := by
  have hslot := h.slot i
  have hne : (q.slots i).ior ≠ none := by simp [hi]
  unfold WorkQueue.abortSlot
  dsimp only
  by_cases hactive : q.activeWorkSlot = some i
  . rw [decide_eq_true hactive] at hslot
    have hinFlight := hslot.inFlight rfl
    have hstate : (q.slots i).lifecycle.abort.request.state ≠ .terminal := by
      rw [EngineRequest.abort_of_inFlight hinFlight.1]
      simp [hinFlight]
    rw [if_neg hstate]
    constructor
    . intro j
      by_cases hj : j = i
      . rw [hj]
        dsimp only
        rw [Function.update_self]
        rw [decide_eq_true hactive]
        apply WorkSlot.inv_abort_inFlight hslot hi
        simp
      . dsimp only
        rw [Function.update_of_ne hj]
        exact h.slot_of_ne hj hi true
    . refine h.worker.congr rfl rfl ?_ ?_
      . intro j _
        by_cases hj : j = i
        . simp [hj]
        . simp [hj]
      . intro j
        by_cases hj : j = i
        . simp [hj]
        . simp [hj]
    . intro ior'
      unfold held
      rw [held_update_of_ior_eq]
      . exact h.account ior'
      . rfl
    . intro ior'
      unfold held
      rw [held_update_of_ior_eq]
      . exact h.owner ior'
      . rfl
    . exact h.owed
    . exact h.inactive
    . exact h.aborted
    . exact h.touched
  . rw [decide_eq_false hactive] at hslot
    have hqueued := WorkSlot.abort_queued hslot hne
    rw [if_pos hqueued.1]
    rw [if_pos hqueued.2]
    have hheld (ior' : ι)
        : total (holds ior') (Function.update q.slots i (q.slots i).clear)
            + (ior :: q.owed).count ior'
          = q.held ior' + q.owed.count ior' := by
      have := held_update q i (q.slots i).clear ior'
      rw [holds_of_ior_eq hi, holds_of_free rfl] at this
      rw [List.count_cons]
      simp only [beq_iff_eq]
      omega
    constructor
    . intro j
      by_cases hj : j = i
      . rw [hj]
        dsimp only
        rw [Function.update_self]
        rw [decide_eq_false hactive]
        apply WorkSlot.inv_clear
      . dsimp only
        rw [Function.update_of_ne hj]
        exact h.slot_of_ne hj hi true
    . refine h.worker.congr rfl rfl ?_ ?_
      . intro j hj
        have hj : j ≠ i := by
          intro heq
          exact hactive (heq ▸ hj)
        simp [hj]
      . intro j
        by_cases hj : j = i
        . simp [hj, WorkSlot.clear]
        . simp [hj]
    . intro ior'
      have := h.account ior'
      have := hheld ior'
      unfold held replied at *
      dsimp only
      omega
    . intro ior'
      have := h.owner ior'
      have := hheld ior'
      unfold held at *
      dsimp only
      omega
    . intro ior' hmem
      by_cases heq : ior' = ior
      . simp [heq]
      . dsimp only
        rw [Function.update_of_ne heq]
        apply h.owed
        simpa [heq] using hmem
    . exact h.inactive
    . exact h.aborted
    . exact h.touched

theorem Inv.abortWorkIor (h : q.Inv) (ior : ι) : (q.abortWorkIor ior).Inv := by
  unfold WorkQueue.abortWorkIor
  split
  . exact h
  . next i hfound =>
    apply h.abortSlot
    simpa using List.find?_some hfound

theorem Inv.enqueueWork (h : q.Inv) {ior : ι} (howned : q.history.accepted ior = q.replied ior)
    (unit : υ) (bulkInStream observer : Bool)
    : (q.enqueueWork ior unit bulkInStream observer).Inv := by
  have haccount := h.account ior
  have hfresh (j : Fin workSlots) : (q.slots j).ior ≠ some ior := by
    intro hj
    have := one_le_held hj
    omega
  unfold WorkQueue.enqueueWork
  split
  . exact h
  . next i hfound =>
    have hi : (q.slots i).ior = none := by
      unfold available at hfound
      simpa using List.find?_some hfound
    have hactive : q.activeWorkSlot ≠ some i := by
      have := (h.slot i).free hi
      simpa using this.2
    have hheld (ior' : ι)
        : total (holds ior') (Function.update q.slots i
            ((q.slots i).enqueue ior unit observer q.enqueueSequence))
          = q.held ior' + if ior = ior' then 1 else 0 := by
      have hnew : ((q.slots i).enqueue ior unit observer q.enqueueSequence).ior = some ior := by
        rfl
      have := held_update q i ((q.slots i).enqueue ior unit observer q.enqueueSequence) ior'
      rw [holds_of_free hi, holds_of_ior_eq hnew] at this
      rw [Nat.add_zero] at this
      exact this
    constructor
    . intro j
      by_cases hj : j = i
      . rw [hj]
        dsimp only
        rw [Function.update_self]
        rw [decide_eq_false hactive]
        apply WorkSlot.inv_enqueue
        simp
      . dsimp only
        rw [Function.update_of_ne hj]
        apply WorkSlot.inv_congr (h.slot j)
        intro ior' hior'
        rw [Function.update_of_ne]
        intro heq
        exact hfresh j (heq ▸ hior')
    . refine h.worker.congr rfl rfl ?_ ?_
      . intro j hj
        have hj : j ≠ i := by
          intro heq
          exact hactive (heq ▸ hj)
        simp [hj]
      . intro j
        by_cases hj : j = i
        . simp [hj, WorkSlot.enqueue]
        . simp [hj]
    . intro ior'
      have := h.account ior'
      have := hheld ior'
      unfold held replied at *
      dsimp only
      rw [Function.update_apply]
      split
      . next heq =>
        subst heq
        rw [if_pos rfl] at this
        omega
      . next hne =>
        rw [if_neg (Ne.symm hne)] at this
        omega
    . intro ior'
      have := h.owner ior'
      have := hheld ior'
      unfold held at *
      dsimp only
      split at this
      . next heq =>
        subst heq
        omega
      . omega
    . intro ior' hmem
      have hne : ior' ≠ ior := by
        intro heq
        have := List.one_le_count_iff.mpr hmem
        rw [heq] at this
        dsimp only at this
        omega
      dsimp only
      rw [Function.update_of_ne hne]
      exact h.owed ior' hmem
    . exact h.inactive
    . exact h.aborted
    . exact h.touched

theorem Inv.deliver (h : q.Inv) {ior : ι} (hmem : ior ∈ q.owed) : (q.deliver ior).Inv := by
  have hcount := List.one_le_count_iff.mpr hmem
  have howner := h.owner ior
  have hactive : q.activeIor ≠ some ior := by
    unfold activeIor
    split
    . simp
    . next i hi =>
      intro hior
      have := one_le_held hior
      omega
  have howed (ior' : ι) : (q.owed.erase ior).count ior' + (if ior = ior' then 1 else 0)
      = q.owed.count ior' := by
    rw [List.count_erase]
    by_cases heq : ior = ior'
    . subst heq
      simp
      omega
    . simp [heq]
  unfold WorkQueue.deliver
  constructor
  . exact h.slot
  . exact h.worker
  . intro ior'
    have := h.account ior'
    have := howed ior'
    unfold held replied at *
    simp only [List.countP_cons, WorkQueue.reply, decide_eq_true_eq]
    omega
  . intro ior'
    have := h.owner ior'
    have := howed ior'
    unfold held at *
    dsimp only
    omega
  . intro ior' hmem'
    exact h.owed ior' (List.mem_of_mem_erase hmem')
  . intro e he
    cases he with
    | head => simp [WorkQueue.reply, hactive]
    | tail _ he => exact h.inactive e he
  . intro e he
    cases he with
    | head =>
      intro _
      have := h.owed ior hmem
      exact ⟨this.2, this.1⟩
    | tail _ he => exact h.aborted e he
  . exact h.touched

/-- The worker writes to the slot `i`, which keeps its request. -/
theorem Inv.work (h : q.Inv) {ior : ι} {i : Fin workSlots} (hi : (q.slots i).ior = some ior)
    (slot : WorkSlot ι υ) {q' : WorkQueue ι υ} (hslots : q'.slots = Function.update q.slots i slot)
    (hior : slot.ior = some ior)
    (hslot : slot.Inv (q'.activeWorkSlot = some i) q.history.aborted)
    (hactive : ∀ j, j ≠ i → (q'.activeWorkSlot = some j ↔ q.activeWorkSlot = some j))
    (hiors : ∀ ior', ior' ≠ ior → q'.iors ior' = q.iors ior')
    (howed : q'.owed = q.owed)
    (hhistory : q'.history = q.history.touch i (q.history.tickets i))
    (hworker : q'.WorkerInv)
    : q'.Inv := by
  have hheld (ior' : ι) : q'.held ior' = q.held ior' := by
    unfold held
    rw [hslots]
    apply held_update_of_ior_eq
    rw [hi, hior]
  constructor
  . intro j
    rw [hslots, hhistory]
    by_cases hj : j = i
    . rw [hj]
      rw [Function.update_self]
      exact hslot
    . rw [Function.update_of_ne hj]
      simp only [hactive j hj]
      exact h.slot j
  . exact hworker
  . intro ior'
    unfold replied
    rw [hheld, howed, hhistory]
    exact h.account ior'
  . intro ior'
    rw [hheld, howed]
    exact h.owner ior'
  . intro ior' hmem
    rw [howed] at hmem
    rw [hiors ior']
    . exact h.owed ior' hmem
    . intro heq
      exact h.not_mem_owed hi (heq ▸ hmem)
  . rw [hhistory]
    exact h.inactive
  . rw [hhistory]
    exact h.aborted
  . intro t ht
    rw [hhistory] at ht
    cases ht with
    | head => rfl
    | tail _ ht => exact h.touched t ht

theorem Inv.select (h : q.Inv) (hidle : q.worker = .idle) (controllerEpoch : UInt32)
    : (q.select controllerEpoch).Inv := by
  have hworker : q.activeWorkSlot = none := by
    have := h.worker
    unfold WorkerInv at this
    rw [hidle] at this
    exact this
  unfold WorkQueue.select
  split
  . exact h
  . next i hcandidate =>
    split
    . exact h
    . next ior hi =>
      have hslot := h.slot i
      rw [hworker] at hslot
      dsimp only
      have hnonzero := nextSequence_ne_zero q.workSequence
      have hbegin : ((q.slots i).begin (nextSequence q.workSequence) controllerEpoch).ior
          = some ior := hi
      have hinv := WorkSlot.inv_begin hslot hi hnonzero controllerEpoch
      rw [← decide_eq_true (rfl : some i = some i)] at hinv
      refine h.work hi _ rfl hbegin hinv ?_ ?_ rfl rfl ?_
      . intro j hj
        simp [hworker, hj.symm]
      . intro ior' _
        rfl
      . exact ⟨rfl, by simp [WorkSlot.begin, hi], rfl⟩

theorem Inv.execute (h : q.Inv) {i : Fin workSlots} {ior : ι} {ticket : Nat}
    (hexecuting : q.worker = .executing i ior ticket) (actual : UInt32) (error : IoError)
    (status : UInt16) (bulkActual : UInt32)
    : (q.execute i ior ticket actual error status bulkActual).Inv := by
  have hworker := h.worker
  unfold WorkerInv at hworker
  rw [hexecuting] at hworker
  obtain ⟨hactive, hi, hticket⟩ := hworker
  subst hticket
  refine h.work hi _ rfl hi (WorkSlot.inv_execute (h.slot i) status bulkActual) ?_ ?_ rfl rfl ?_
  . intro j _
    rfl
  . intro ior' hne
    exact Function.update_of_ne hne _ _
  . unfold WorkQueue.execute WorkerInv
    dsimp only
    rw [hexecuting]
    exact ⟨hactive, by simp [hi], rfl⟩

theorem Inv.publish (h : q.Inv) {i : Fin workSlots} {ior : ι} {sequence : UInt32} {ticket : Nat}
    (hretrying : q.worker = .retrying i ior sequence ticket)
    : (q.publish i ior sequence ticket).Inv := by
  have hworker := h.worker
  unfold WorkerInv at hworker
  rw [hretrying] at hworker
  obtain ⟨hidle, -, hticket⟩ := hworker
  unfold WorkQueue.publish
  dsimp only
  split
  . next hi =>
    rw [← hticket hi.2.1]
    have hslot := h.slot i
    refine h.work hi.1 _ rfl hi.1
      ⟨hslot.free, hslot.unclaimed, hslot.aborted_eq, hslot.queued, hslot.inFlight⟩ ?_ ?_ rfl rfl
      hidle
    . intro j _
      rfl
    . intro ior' _
      rfl
  . exact ⟨h.slot, hidle, h.account, h.owner, h.owed, h.inactive, h.aborted, h.touched⟩

theorem Inv.advanceDelay (h : q.Inv) (elapsedUs : UInt32)
    : Inv { q with slots := fun i => (q.slots i).advanceDelay elapsedUs } := by
  have hheld (ior : ι)
      : total (holds ior) (fun i => (q.slots i).advanceDelay elapsedUs) = q.held ior := by
    simp [total, held, holds]
  constructor
  . intro i
    apply WorkSlot.inv_advanceDelay
    exact h.slot i
  . refine h.worker.congr rfl rfl ?_ ?_
    . intro j _
      simp
    . intro j
      simp
  . intro ior
    unfold held
    rw [hheld]
    exact h.account ior
  . intro ior
    unfold held
    rw [hheld]
    exact h.owner ior
  . exact h.owed
  . exact h.inactive
  . exact h.aborted
  . exact h.touched

theorem Inv.finish (h : q.Inv) {i : Fin workSlots} {ior : ι} {ticket : Nat}
    (hexecuting : q.worker = .executing i ior ticket)
    : (q.finish i ior ticket).Inv := by
  have hworker := h.worker
  unfold WorkerInv at hworker
  rw [hexecuting] at hworker
  obtain ⟨hactive, hi, hticket⟩ := hworker
  subst hticket
  have hslot := h.slot i
  rw [decide_eq_true hactive] at hslot
  have hothers (j : Fin workSlots) (hj : j ≠ i) : q.activeWorkSlot ≠ some j := by
    rw [hactive]
    simp [hj.symm]
  have hsequence := hslot.inFlight rfl
  have haborted := hslot.aborted_eq ior hi
  have hdone := WorkSlot.finish_finish hslot hi (q.iors ior) q.enqueueSequence
  unfold WorkQueue.finish
  dsimp only
  generalize (q.slots i).finish (q.iors ior) q.enqueueSequence = done at hdone
  cases hdone with
  | retried slot contents hior hseq hinv =>
    dsimp only
    rw [if_pos rfl]
    refine h.work hi slot rfl (hior.trans hi) hinv ?_ ?_ rfl rfl ?_
    . intro j hj
      simp [hothers j hj]
    . intro ior' hne
      exact Function.update_of_ne hne _ _
    . refine ⟨rfl, ?_, fun _ => rfl⟩
      rw [hseq]
      exact hsequence.2.2
  | replied slot contents hior hinv hcontents =>
    dsimp only
    rw [if_neg Bool.false_ne_true]
    have hheld (ior' : ι)
        : total (holds ior') (Function.update q.slots i slot) + (if ior = ior' then 1 else 0)
          = q.held ior' := by
      have := held_update q i slot ior'
      rw [holds_of_ior_eq hi, holds_of_free hior] at this
      omega
    constructor
    . intro j
      by_cases hj : j = i
      . rw [hj]
        dsimp only
        rw [Function.update_self]
        exact hinv
      . have hslotj := h.slot j
        rw [decide_eq_false (hothers j hj)] at hslotj
        dsimp only
        rw [Function.update_of_ne hj]
        exact hslotj
    . exact rfl
    . intro ior'
      have := h.account ior'
      have := hheld ior'
      unfold held replied WorkHistory.touch at *
      simp only [if_true, List.countP_cons, WorkQueue.reply, decide_eq_true_eq]
      omega
    . intro ior'
      have := h.owner ior'
      have := hheld ior'
      unfold held at *
      dsimp only
      omega
    . intro ior' hmem
      have hne : ior' ≠ ior := by
        intro heq
        exact h.not_mem_owed hi (heq ▸ hmem)
      dsimp only
      rw [Function.update_of_ne hne]
      exact h.owed ior' hmem
    . intro e he
      rw [if_pos rfl] at he
      cases he with
      | head => rfl
      | tail _ he => exact h.inactive e he
    . intro e he
      rw [if_pos rfl] at he
      cases he with
      | head =>
        intro he
        have := hcontents (by rw [← haborted]; exact he)
        simp [WorkQueue.reply, this]
      | tail _ he => exact h.aborted e he
    . intro t ht
      cases ht with
      | head => rfl
      | tail _ ht => exact h.touched t ht

variable [DecidableEq υ]

theorem Inv.abortUnitWork (h : q.Inv) (unit : υ) : (q.abortUnitWork unit).Inv := by
  unfold WorkQueue.abortUnitWork
  generalize List.finRange workSlots = indices
  induction indices generalizing q with
  | nil => exact h
  | cons i indices ih =>
    rw [List.foldl_cons]
    apply ih
    unfold abortUnitSlot
    split
    . exact h
    . next ior hi =>
      split
      . exact h
      . exact h.abortSlot hi

theorem Inv.step (h : q.Inv) {action : WorkAction ι υ} {q' : WorkQueue ι υ}
    (hstep : q.step action = some q')
    : q'.Inv := by
  cases action with
  | enqueue ior unit bulkInStream observer =>
    simp only [WorkQueue.step] at hstep
    split at hstep
    . next howned =>
      rw [Option.some.injEq] at hstep
      rw [← hstep]
      exact h.enqueueWork howned unit bulkInStream observer
    . contradiction
  | abortIor ior =>
    simp only [WorkQueue.step, Option.some.injEq] at hstep
    rw [← hstep]
    exact h.abortWorkIor ior
  | abortUnit unit =>
    simp only [WorkQueue.step, Option.some.injEq] at hstep
    rw [← hstep]
    exact h.abortUnitWork unit
  | deliver ior =>
    simp only [WorkQueue.step] at hstep
    split at hstep
    . next hmem =>
      rw [Option.some.injEq] at hstep
      rw [← hstep]
      exact h.deliver hmem
    . contradiction
  | select controllerEpoch =>
    simp only [WorkQueue.step] at hstep
    split at hstep
    . next hidle =>
      rw [Option.some.injEq] at hstep
      rw [← hstep]
      exact h.select hidle controllerEpoch
    . contradiction
  | execute actual error status bulkActual =>
    simp only [WorkQueue.step] at hstep
    split at hstep
    . next i ior ticket hexecuting =>
      rw [Option.some.injEq] at hstep
      rw [← hstep]
      exact h.execute hexecuting actual error status bulkActual
    . contradiction
  | finish =>
    simp only [WorkQueue.step] at hstep
    split at hstep
    . next i ior ticket hexecuting =>
      rw [Option.some.injEq] at hstep
      rw [← hstep]
      exact h.finish hexecuting
    . contradiction
  | publish =>
    simp only [WorkQueue.step] at hstep
    split at hstep
    . next i ior sequence ticket hretrying =>
      rw [Option.some.injEq] at hstep
      rw [← hstep]
      exact h.publish hretrying
    . contradiction
  | advanceDelay elapsedUs =>
    simp only [WorkQueue.step, Option.some.injEq] at hstep
    rw [← hstep]
    exact h.advanceDelay elapsedUs

theorem Inv.run (h : q.Inv) {actions : List (WorkAction ι υ)} {q' : WorkQueue ι υ}
    (hrun : q.run actions = some q')
    : q'.Inv := by
  induction actions generalizing q with
  | nil =>
    unfold WorkQueue.run at hrun
    rw [Option.some.injEq] at hrun
    rw [← hrun]
    exact h
  | cons action actions ih =>
    unfold WorkQueue.run at hrun
    split at hrun
    . contradiction
    . next q₁ hstep =>
      apply ih (h.step hstep)
      exact hrun

end WorkQueue

end ZZUsb
