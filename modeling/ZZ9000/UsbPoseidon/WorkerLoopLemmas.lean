import ZZ9000.UsbPoseidon.WorkerLoop
import Mathlib.Data.UInt

/-!
This module shows when the worker's accounting credits real time only: the root hub accumulator is
never ahead of the time since the worker's start, and no retry delay ahead of the time since it was
published. What carries this is that the time of the armed request that was not credited yet ends
when the request can be replied at the earliest.
-/

namespace ZZUsb

namespace WorkerTimer

theorem elapsed_unknown (nowUs : UInt64) (delayUs : UInt32) : elapsed 0 nowUs delayUs = 0 := by
  simp [elapsed]

theorem elapsed_toNat_le (startedUs nowUs : UInt64) (delayUs : UInt32)
    : (elapsed startedUs nowUs delayUs).toNat ≤ nowUs.toNat - startedUs.toNat := by
  unfold elapsed
  split
  next => simp
  next h =>
    have hle : startedUs ≤ nowUs := by simpa using (not_or.mp h).2
    have hsub := UInt64.toNat_sub_of_le _ _ hle
    dsimp only
    split
    next hlt =>
      rw [gt_iff_lt, UInt64.lt_iff_toNat_lt, UInt32.toNat_toUInt64] at hlt
      omega
    next =>
      rw [UInt64.toNat_toUInt32, hsub]
      exact Nat.mod_le _ _

theorem elapsed_toNat_eq {startedUs nowUs : UInt64} {delayUs : UInt32} (hstarted : startedUs ≠ 0)
    (hle : startedUs ≤ nowUs) (hlt : (nowUs - startedUs).toNat < delayUs.toNat)
    : (elapsed startedUs nowUs delayUs).toNat = nowUs.toNat - startedUs.toNat := by
  have hsub := UInt64.toNat_sub_of_le _ _ hle
  have hdelay := delayUs.toNat_lt
  have hnot : ¬nowUs - startedUs > delayUs.toUInt64 := by
    rw [gt_iff_lt, UInt64.lt_iff_toNat_lt, UInt32.toNat_toUInt64]
    omega
  unfold elapsed
  rw [if_neg (by simpa [hstarted] using hle)]
  dsimp only
  rw [if_neg hnot, UInt64.toNat_toUInt32, hsub]
  exact Nat.mod_eq_of_lt (by omega)

theorem elapsed_toNat_eq_of_lt {startedUs nowUs : UInt64} {delayUs : UInt32}
    (hpos : (elapsed startedUs nowUs delayUs).toNat ≠ 0)
    (hlt : (elapsed startedUs nowUs delayUs).toNat < delayUs.toNat)
    : startedUs ≠ 0 ∧ startedUs.toNat + (elapsed startedUs nowUs delayUs).toNat = nowUs.toNat := by
  unfold elapsed at hpos hlt ⊢
  split at hpos
  next => simp at hpos
  next h =>
    rw [if_neg h] at hlt ⊢
    dsimp only at hpos hlt ⊢
    have hle : startedUs ≤ nowUs := by simpa using (not_or.mp h).2
    have hsub := UInt64.toNat_sub_of_le _ _ hle
    split at hlt
    next => omega
    next hnot =>
      rw [if_neg hnot]
      rw [gt_iff_lt, UInt64.lt_iff_toNat_lt, UInt32.toNat_toUInt64] at hnot
      have hdelay := delayUs.toNat_lt
      have hle' := UInt64.le_iff_toNat_le.mp hle
      rw [UInt64.toNat_toUInt32, Nat.mod_eq_of_lt (by omega), hsub]
      exact ⟨(not_or.mp h).1, by omega⟩

theorem expire_cases (timer : WorkerTimer) (timerSignaled : Bool)
    : timer.expire timerSignaled = (timer, 0)
      ∨ (timer.pending ∧ timerSignaled
        ∧ timer.expire timerSignaled = (⟨0, false⟩, timer.delayUs)) := by
  unfold expire
  split
  next hand => exact .inr ⟨hand.1, hand.2, rfl⟩
  next => exact .inl rfl

theorem accountElapsed_cases (timer : WorkerTimer) (elapsedUs : UInt32)
    : timer.accountElapsed elapsedUs = (timer, 0)
      ∨ (elapsedUs ≠ 0 ∧ elapsedUs < timer.delayUs ∧ timer.accountElapsed elapsedUs
        = ({ timer with delayUs := timer.delayUs - elapsedUs }, elapsedUs)) := by
  unfold accountElapsed
  split
  next => exact .inl rfl
  next h =>
    rw [not_or, not_or, UInt32.not_le] at h
    exact .inr ⟨h.2.1, h.2.2, rfl⟩

end WorkerTimer

section Delays

variable {ι υ : Type}

theorem WorkSlot.advanceDelay_retryDelayUs (slot : WorkSlot ι υ) (elapsedUs : UInt32)
    : (slot.advanceDelay elapsedUs).retryDelayUs.toNat ≤ slot.retryDelayUs.toNat
      ∧ slot.retryDelayUs.toNat - (slot.advanceDelay elapsedUs).retryDelayUs.toNat
        ≤ elapsedUs.toNat := by
  unfold advanceDelay
  split
  next => simp
  next =>
    dsimp only
    split
    next hlt =>
      rw [gt_iff_lt, UInt32.lt_iff_toNat_lt] at hlt
      rw [UInt32.toNat_sub_of_le _ _ (UInt32.le_iff_toNat_le.mpr hlt.le)]
      omega
    next hnot =>
      rw [gt_iff_lt, UInt32.lt_iff_toNat_lt] at hnot
      simp
      omega

namespace WorkQueue

/-- No delay of the queue grew. -/
def Shortens (q q' : WorkQueue ι υ) : Prop :=
  ∀ i, (q'.slots i).retryDelayUs = (q.slots i).retryDelayUs ∨ (q'.slots i).retryDelayUs = 0

theorem Shortens.refl (q : WorkQueue ι υ) : q.Shortens q := fun _ => .inl rfl

theorem Shortens.trans {q₁ q₂ q₃ : WorkQueue ι υ} (h : q₁.Shortens q₂) (h' : q₂.Shortens q₃)
    : q₁.Shortens q₃ := by
  intro i
  cases h' i with
  | inl heq =>
    rw [heq]
    exact h i
  | inr hzero => exact .inr hzero

theorem Shortens.of_update {q q' : WorkQueue ι υ} {i : Fin workSlots} {slot : WorkSlot ι υ}
    (hslots : q'.slots = Function.update q.slots i slot)
    (hslot : slot.retryDelayUs = (q.slots i).retryDelayUs ∨ slot.retryDelayUs = 0)
    : q.Shortens q' := by
  intro j
  rw [hslots]
  by_cases hj : j = i
  . subst hj
    rw [Function.update_self]
    exact hslot
  . rw [Function.update_of_ne hj]
    exact .inl rfl

theorem finish_retryDelayUs (slot : WorkSlot ι υ) (ior : WorkIor) (enqueueSeq : UInt32)
    : (slot.finish ior enqueueSeq).slot.retryDelayUs = slot.retryDelayUs := by
  unfold WorkSlot.finish
  split
  next => rfl
  next =>
    dsimp only
    split <;> rfl

theorem select_shortens (q : WorkQueue ι υ) (controllerEpoch : UInt32)
    : q.Shortens (q.select controllerEpoch) := by
  unfold select
  split
  next => exact .refl q
  next =>
    split
    next => exact .refl q
    next => exact .of_update rfl (.inl rfl)

variable [DecidableEq ι]

theorem abortSlot_shortens (q : WorkQueue ι υ) (i : Fin workSlots) (ior : ι)
    : q.Shortens (q.abortSlot i ior) := by
  unfold abortSlot
  dsimp only
  split <;> exact .of_update rfl (.inl rfl)

theorem finish_shortens (q : WorkQueue ι υ) (i : Fin workSlots) (ior : ι) (ticket : Nat)
    : q.Shortens (q.finish i ior ticket) := by
  unfold finish
  dsimp only
  split <;> exact .of_update rfl (.inl (finish_retryDelayUs _ _ _))

theorem enqueueWork_shortens (q : WorkQueue ι υ) (ior : ι) (unit : υ) (bulkInStream observer : Bool)
    : q.Shortens (q.enqueueWork ior unit bulkInStream observer) := by
  unfold enqueueWork
  split
  next => exact .refl q
  next => exact .of_update rfl (.inr rfl)

variable [DecidableEq υ]

theorem abortUnitSlots_shortens (unit : υ) (indices : List (Fin workSlots)) (q : WorkQueue ι υ)
    : q.Shortens (indices.foldl (abortUnitSlot unit) q) := by
  induction indices generalizing q with
  | nil => exact .refl q
  | cons i indices ih =>
    rw [List.foldl_cons]
    refine .trans ?_ (ih (abortUnitSlot unit q i))
    unfold abortUnitSlot
    split
    next => exact .refl q
    next =>
      split
      next => exact .refl q
      next => exact abortSlot_shortens _ _ _

theorem step_shortens {q q' : WorkQueue ι υ} {action : WorkAction ι υ}
    (hstep : q.step action = some q') (hpublish : action ≠ .publish)
    (hadvance : ∀ elapsedUs, action ≠ .advanceDelay elapsedUs) : q.Shortens q' := by
  cases action with
  | enqueue ior unit bulkInStream observer =>
    unfold step at hstep
    simp only [Option.ite_none_right_eq_some, Option.some.injEq] at hstep
    rw [← hstep.2]
    exact enqueueWork_shortens _ _ _ _ _
  | abortIor ior =>
    simp only [step, Option.some.injEq] at hstep
    rw [← hstep]
    unfold abortWorkIor
    split
    next => exact .refl q
    next => exact abortSlot_shortens _ _ _
  | abortUnit unit =>
    simp only [step, Option.some.injEq] at hstep
    rw [← hstep]
    exact abortUnitSlots_shortens _ _ _
  | deliver ior =>
    unfold step at hstep
    simp only [Option.ite_none_right_eq_some, Option.some.injEq] at hstep
    rw [← hstep.2]
    exact .refl q
  | select controllerEpoch =>
    simp only [step] at hstep
    split at hstep
    next =>
      rw [← Option.some.inj hstep]
      exact select_shortens _ _
    next => contradiction
  | execute actual error status bulkActual =>
    simp only [step] at hstep
    split at hstep
    next =>
      rw [← Option.some.inj hstep]
      exact .of_update rfl (.inl rfl)
    next => contradiction
  | finish =>
    simp only [step] at hstep
    split at hstep
    next =>
      rw [← Option.some.inj hstep]
      exact finish_shortens _ _ _ _
    next => contradiction
  | publish => contradiction
  | advanceDelay elapsedUs => exact absurd rfl (hadvance elapsedUs)

end WorkQueue

end Delays

namespace UsbWorker

section Accounting

variable {ι υ : Type}

/-- The part of the armed request that was not credited ends when it can be replied. -/
structure Timed (epoch : Nat) (w : UsbWorker ι υ) : Prop where
  credited : w.workerTimer.pending → w.history.creditedAt ≤ w.history.now
  timer : w.workerTimer.pending →
    w.history.creditedAt + w.workerTimer.delayUs.toNat ≤ w.history.firesAt
  started : w.workerTimer.pending → w.timerStartedUs ≠ 0 →
    w.timerStartedUs.toNat = epoch + w.history.creditedAt

/-- A counter that was credited the time up to `reached` gets later time only. -/
structure Covered (w : UsbWorker ι υ) (reached : Nat) : Prop where
  now : reached ≤ w.history.now
  timer : w.workerTimer.pending → reached + w.workerTimer.delayUs.toNat ≤ w.history.firesAt
  started : w.workerTimer.pending → w.timerStartedUs ≠ 0 → reached ≤ w.history.creditedAt

structure Accounted (epoch : Nat) (w : UsbWorker ι υ) : Prop where
  timed : w.Timed epoch
  root : w.Covered w.history.rootAdvanced
  retry : ∀ i, w.Covered (w.history.publishedAt i + w.history.advanced i)

/-- The counters are untouched, as are the retries that count down. -/
structure Untouched (w w' : UsbWorker ι υ) : Prop where
  queue : w'.queue = w.queue
  root : w'.history.rootAdvanced = w.history.rootAdvanced
  published : w'.history.publishedAt = w.history.publishedAt
  advanced : w'.history.advanced = w.history.advanced

theorem Covered.mono {w : UsbWorker ι υ} {reached reached' : Nat} (h : w.Covered reached')
    (hle : reached ≤ reached') : w.Covered reached where
  now := hle.trans h.now
  timer hpending := by
    have := h.timer hpending
    omega
  started hpending hstarted := hle.trans (h.started hpending hstarted)

theorem Accounted.congr {epoch : Nat} {w w' : UsbWorker ι υ} (h : w.Accounted epoch)
    (htimer : w'.workerTimer = w.workerTimer) (hstarted : w'.timerStartedUs = w.timerStartedUs)
    (hhistory : w'.history = w.history) : w'.Accounted epoch := by
  have hcovered {reached : Nat} (hc : w.Covered reached) : w'.Covered reached := by
    constructor
    . rw [hhistory]
      exact hc.now
    . rw [htimer, hhistory]
      exact hc.timer
    . rw [htimer, hstarted, hhistory]
      exact hc.started
  refine ⟨⟨?_, ?_, ?_⟩, ?_, ?_⟩
  . rw [htimer, hhistory]
    exact h.timed.credited
  . rw [htimer, hhistory]
    exact h.timed.timer
  . rw [htimer, hstarted, hhistory]
    exact h.timed.started
  . rw [hhistory]
    exact hcovered h.root
  . rw [hhistory]
    exact fun i => hcovered (h.retry i)

/-- One credit serves all the counters at once. -/
theorem accounted_credit {epoch : Nat} {w w' : UsbWorker ι υ} {elapsedUs : UInt32}
    (h : w.Accounted epoch) (huntouched : w.Untouched w') (htimed : w'.Timed epoch)
    (hcovered : ∀ reached, w.Covered reached → w'.Covered (reached + elapsedUs.toNat))
    : (w'.credit elapsedUs).Accounted epoch where
  timed := ⟨htimed.credited, htimed.timer, htimed.started⟩
  root := by
    have := hcovered _ h.root
    rw [← huntouched.root] at this
    exact ⟨this.now, this.timer, this.started⟩
  retry i := by
    have hcover := hcovered _ (h.retry i)
    have hadvance := (WorkSlot.advanceDelay_retryDelayUs (w'.queue.slots i) elapsedUs).2
    rw [← huntouched.published, ← huntouched.advanced] at hcover
    refine Covered.mono ⟨hcover.now, hcover.timer, hcover.started⟩ ?_
    dsimp only [credit]
    omega

theorem accounted_expire {epoch : Nat} {w : UsbWorker ι υ} (h : w.Accounted epoch)
    (hreply : w.workerTimer.pending → w.history.firesAt ≤ w.history.now)
    : w.expire.Accounted epoch := by
  unfold expire WorkerTimer.expire
  by_cases hpending : w.workerTimer.pending
  . rw [if_pos ⟨hpending, rfl⟩]
    refine accounted_credit h ⟨rfl, rfl, rfl, rfl⟩ ⟨nofun, nofun, nofun⟩ ?_
    intro reached hcovered
    exact ⟨(hcovered.timer hpending).trans (hreply hpending), nofun, nofun⟩
  . rw [if_neg (fun hand => hpending hand.1)]
    refine accounted_credit h ⟨rfl, rfl, rfl, rfl⟩ ?_ ?_
    . exact ⟨fun hp => absurd hp hpending, fun hp => absurd hp hpending,
        fun hp => absurd hp hpending⟩
    . intro reached hcovered
      exact ⟨hcovered.now, fun hp => absurd hp hpending, fun hp => absurd hp hpending⟩

/-- The clock shows the real time, counted from `epoch`. -/
def Exact (w : UsbWorker ι υ) (epoch : Nat) (reading : Option UInt64) : Prop :=
  ∀ nowUs ∈ reading, nowUs.toNat = epoch + w.history.now

instance (w : UsbWorker ι υ) (epoch : Nat) (reading : Option UInt64)
    : Decidable (w.Exact epoch reading) :=
  match reading with
  | none => .isTrue nofun
  | some nowUs => decidable_of_iff (nowUs.toNat = epoch + w.history.now) (by simp [Exact])

/-- What the clock shows as elapsed has elapsed since the last credit. -/
theorem Timed.elapsed_le {epoch : Nat} {w : UsbWorker ι υ} (h : w.Timed epoch)
    (hpending : w.workerTimer.pending) {nowUs : UInt64} (hexact : w.Exact epoch (some nowUs))
    {reached : Nat} (hcovered : w.Covered reached)
    : reached
      + (WorkerTimer.elapsed w.timerStartedUs nowUs w.workerTimer.delayUs).toNat
        ≤ w.history.now := by
  by_cases hstarted : w.timerStartedUs = 0
  . rw [hstarted, WorkerTimer.elapsed_unknown]
    exact hcovered.now
  . have hle := WorkerTimer.elapsed_toNat_le w.timerStartedUs nowUs w.workerTimer.delayUs
    rw [hexact nowUs rfl, h.started hpending hstarted] at hle
    have hreached := hcovered.started hpending hstarted
    have hcredited := h.credited hpending
    omega

theorem accounted_account {epoch : Nat} {w : UsbWorker ι υ} (h : w.Accounted epoch)
    (hpending : w.workerTimer.pending) {reading : Option UInt64} (hexact : w.Exact epoch reading)
    : (w.account reading).Accounted epoch := by
  unfold account
  cases reading with
  | none => exact h
  | some nowUs =>
    dsimp only
    cases WorkerTimer.accountElapsed_cases w.workerTimer
      (WorkerTimer.elapsed w.timerStartedUs nowUs w.workerTimer.delayUs) with
    | inl heq =>
      rw [heq, if_neg (by simp)]
      exact h
    | inr hcases =>
      obtain ⟨hpos, hlt, heq⟩ := hcases
      have hltNat := UInt32.lt_iff_toNat_lt.mp hlt
      have hsub := UInt32.toNat_sub_of_le _ _ (UInt32.le_iff_toNat_le.mpr hltNat.le)
      have hfull := WorkerTimer.elapsed_toNat_eq_of_lt
        (fun hzero => hpos (UInt32.toNat_inj.mp hzero)) hltNat
      have hstarted := h.timed.started hpending hfull.1
      have htimer := h.timed.timer hpending
      have hnow := hexact nowUs rfl
      rw [heq, if_pos hpos]
      refine accounted_credit h ⟨rfl, rfl, rfl, rfl⟩ ⟨?_, ?_, ?_⟩ ?_
      . exact fun _ => le_rfl
      . intro _
        dsimp only
        omega
      . exact fun _ _ => hnow
      . intro reached hcovered
        have hreached := h.timed.elapsed_le hpending hexact hcovered
        have hfires := hcovered.timer hpending
        refine ⟨hreached, ?_, fun _ _ => hreached⟩
        intro _
        dsimp only
        omega

theorem accounted_replace {epoch : Nat} {w : UsbWorker ι υ} (h : w.Accounted epoch)
    (hpending : w.workerTimer.pending) (pollDelayUs : UInt32) {reading : Option UInt64}
    (hexact : w.Exact epoch reading) : (w.replace pollDelayUs reading).Accounted epoch := by
  unfold replace
  cases reading with
  | none => exact h
  | some nowUs =>
    dsimp only
    split
    next =>
      refine accounted_credit h ⟨rfl, rfl, rfl, rfl⟩ ⟨nofun, nofun, nofun⟩ ?_
      intro reached hcovered
      exact ⟨h.timed.elapsed_le hpending hexact hcovered, nofun, nofun⟩
    next => exact h

theorem replace_now (w : UsbWorker ι υ) (pollDelayUs : UInt32) (reading : Option UInt64)
    : (w.replace pollDelayUs reading).history.now = w.history.now := by
  unfold replace
  split
  next => rfl
  next =>
    dsimp only
    split <;> rfl

theorem accounted_send {epoch : Nat} {w : UsbWorker ι υ} (h : w.Accounted epoch)
    (pollDelayUs : UInt32) {started : Option UInt64} (hexact : w.Exact epoch started)
    : (w.send pollDelayUs started).Accounted epoch := by
  unfold send
  split
  next => exact h
  next workerTimer _ =>
    have hsent {reached : Nat} (hcovered : w.Covered reached)
        : reached + workerTimer.delayUs.toNat ≤ w.history.now + workerTimer.delayUs.toNat :=
      Nat.add_le_add_right hcovered.now _
    refine ⟨⟨fun _ => le_rfl, fun _ => le_rfl, ?_⟩, ?_, ?_⟩
    . intro _ hstarted
      cases started with
      | none => exact absurd rfl hstarted
      | some nowUs => exact hexact nowUs rfl
    . exact ⟨h.root.now, fun _ => hsent h.root, fun _ _ => h.root.now⟩
    . exact fun i => ⟨(h.retry i).now, fun _ => hsent (h.retry i), fun _ _ => (h.retry i).now⟩

theorem accounted_closeInterval {epoch : Nat} {w : UsbWorker ι υ} (h : w.Accounted epoch)
    {replied : Bool} {reading : Option UInt64} (hreply : w.mayReply replied)
    (hexact : w.Exact epoch reading) : (w.closeInterval replied reading).Accounted epoch := by
  unfold closeInterval
  split
  next hpending =>
    split
    next hreplied => exact accounted_expire h (hreply hreplied)
    next => exact accounted_account h hpending hexact
  next => exact h

/-- The clock shows a part of the armed delay as elapsed, neither nothing nor all of it. -/
def ShowsPart (w : UsbWorker ι υ) (nowUs : UInt64) : Prop :=
  w.timerStartedUs ≠ 0 ∧ w.timerStartedUs < nowUs
    ∧ (nowUs - w.timerStartedUs).toNat < w.workerTimer.delayUs.toNat

instance (w : UsbWorker ι υ) (nowUs : UInt64) : Decidable (w.ShowsPart nowUs) := by
  unfold ShowsPart
  infer_instance

/--
No time that has passed is left in the armed request when a retry is published: it is replied, no
time has passed since the last credit, or the clock shows a part of the delay as elapsed.
-/
def Settled (w : UsbWorker ι υ) (replied : Bool) (reading : Option UInt64) : Prop :=
  w.workerTimer.pending →
    replied ∨ w.history.now = w.history.creditedAt ∨ ∃ nowUs ∈ reading, w.ShowsPart nowUs

instance (w : UsbWorker ι υ) (replied : Bool) (reading : Option UInt64)
    : Decidable (w.Settled replied reading) :=
  have : Decidable (∃ nowUs ∈ reading, w.ShowsPart nowUs) :=
    match reading with
    | none => .isFalse nofun
    | some nowUs => decidable_of_iff (w.ShowsPart nowUs) (by simp)
  inferInstanceAs (Decidable (_ → _ ∨ _ ∨ _))

theorem closeInterval_now (w : UsbWorker ι υ) (replied : Bool) (reading : Option UInt64)
    : (w.closeInterval replied reading).history.now = w.history.now := by
  unfold closeInterval account
  split
  next =>
    split
    next => rfl
    next =>
      split
      next => rfl
      next =>
        dsimp only
        split <;> rfl
  next => rfl

theorem account_queue (w : UsbWorker ι υ) (reading : Option UInt64)
    : ∃ elapsedUs, (w.account reading).queue = w.queue.advanceDelay elapsedUs
      ∨ (w.account reading).queue = w.queue := by
  unfold account
  split
  next => exact ⟨0, .inr rfl⟩
  next =>
    dsimp only
    split
    next => exact ⟨_, .inl rfl⟩
    next => exact ⟨0, .inr rfl⟩

theorem closeInterval_retried (w : UsbWorker ι υ) (replied : Bool) (reading : Option UInt64)
    (i : Fin workSlots) {ior : ι} {sequence : UInt32}
    (h : ((w.closeInterval replied reading).queue.slots i).retried ior sequence)
    : (w.queue.slots i).retried ior sequence := by
  have hadvanced (elapsedUs : UInt32)
      (h : ((w.queue.advanceDelay elapsedUs).slots i).retried ior sequence)
      : (w.queue.slots i).retried ior sequence := by
    unfold WorkQueue.advanceDelay WorkSlot.advanceDelay at h
    dsimp only at h
    split at h <;> exact h
  unfold closeInterval at h
  split at h
  next =>
    split at h
    next => exact hadvanced _ h
    next =>
      obtain ⟨elapsedUs, hqueue | hqueue⟩ := account_queue w reading
      . rw [hqueue] at h
        exact hadvanced elapsedUs h
      . rw [hqueue] at h
        exact h
  next => exact h

theorem account_of_credited {epoch : Nat} {w : UsbWorker ι υ} (h : w.Accounted epoch)
    (hpending : w.workerTimer.pending) {reading : Option UInt64} (hexact : w.Exact epoch reading)
    (hnow : w.history.now = w.history.creditedAt) : w.account reading = w := by
  unfold account
  cases reading with
  | none => rfl
  | some nowUs =>
    dsimp only
    have helapsed : WorkerTimer.elapsed w.timerStartedUs nowUs w.workerTimer.delayUs = 0 := by
      apply UInt32.toNat_inj.mp
      rw [UInt32.toNat_zero]
      by_cases hstarted : w.timerStartedUs = 0
      . rw [hstarted, WorkerTimer.elapsed_unknown]
        rfl
      . have hle := WorkerTimer.elapsed_toNat_le w.timerStartedUs nowUs w.workerTimer.delayUs
        rw [hexact nowUs rfl, h.timed.started hpending hstarted, hnow] at hle
        omega
    cases WorkerTimer.accountElapsed_cases w.workerTimer
      (WorkerTimer.elapsed w.timerStartedUs nowUs w.workerTimer.delayUs) with
    | inl heq =>
      rw [heq, if_neg (by simp)]
    | inr hcases => exact absurd helapsed hcases.1

/-- After a settled interval the armed request holds later time only. -/
theorem covered_closeInterval {epoch : Nat} {w : UsbWorker ι υ} (h : w.Accounted epoch)
    {replied : Bool} {reading : Option UInt64} (hexact : w.Exact epoch reading)
    (hsettled : w.Settled replied reading)
    : (w.closeInterval replied reading).Covered w.history.now := by
  unfold closeInterval
  split
  next hpending =>
    split
    next =>
      unfold expire WorkerTimer.expire
      rw [if_pos ⟨hpending, rfl⟩]
      exact ⟨le_rfl, nofun, nofun⟩
    next hreplied =>
      have htimer := h.timed.timer hpending
      cases hsettled hpending with
      | inl hreply => exact absurd hreply hreplied
      | inr hsettled =>
        cases hsettled with
        | inl hnow =>
          rw [account_of_credited h hpending hexact hnow]
          refine ⟨le_rfl, fun _ => ?_, fun _ _ => ?_⟩ <;> omega
        | inr hclock =>
          obtain ⟨nowUs, rfl, hstarted, hlt, hpart⟩ := hclock
          have heq := WorkerTimer.elapsed_toNat_eq hstarted (UInt64.le_of_lt hlt) hpart
          have hltNat := UInt64.lt_iff_toNat_lt.mp hlt
          rw [UInt64.toNat_sub_of_le _ _ (UInt64.le_of_lt hlt)] at hpart
          have hnow := hexact nowUs rfl
          have hstart := h.timed.started hpending hstarted
          unfold account
          dsimp only
          cases WorkerTimer.accountElapsed_cases w.workerTimer
            (WorkerTimer.elapsed w.timerStartedUs nowUs w.workerTimer.delayUs) with
          | inl hrefused =>
            -- The part is neither empty nor the whole delay.
            unfold WorkerTimer.accountElapsed at hrefused
            rw [if_neg] at hrefused
            . have hzero := congrArg (fun e => e.2.toNat) hrefused
              simp only [heq, UInt32.toNat_zero] at hzero
              omega
            . rintro (hnot | hzero | hge)
              . exact hnot hpending
              . have := congrArg UInt32.toNat hzero
                rw [heq, UInt32.toNat_zero] at this
                omega
              . have := UInt32.le_iff_toNat_le.mp hge
                omega
          | inr hcases =>
            obtain ⟨hpos, hlt, hcredit⟩ := hcases
            have hsub := UInt32.toNat_sub_of_le _ _ (UInt32.le_of_lt hlt)
            rw [hcredit, if_pos hpos]
            refine ⟨le_rfl, ?_, fun _ _ => le_rfl⟩
            intro _
            dsimp only [credit]
            omega
  next hpending =>
    exact ⟨le_rfl, fun hp => absurd hp hpending, fun hp => absurd hp hpending⟩

theorem accounted_arm {epoch : Nat} {w : UsbWorker ι υ} (h : w.Accounted epoch)
    (pollDelayUs : UInt32) (anyPending : Bool) {replied : Bool} {reading started : Option UInt64}
    (hreply : w.mayReply replied) (hexact : w.Exact epoch reading)
    (hstarted : w.Exact epoch started)
    : (w.arm pollDelayUs anyPending replied reading started).Accounted epoch := by
  unfold arm
  split
  next =>
    split
    next hpending =>
      rw [Bool.and_eq_true] at hpending
      split
      next hreplied => exact (accounted_expire h (hreply hreplied)).congr rfl rfl rfl
      next =>
        have hreplaced := accounted_replace h hpending.1 pollDelayUs hexact
        have hstarted' : (w.replace pollDelayUs reading).Exact epoch started := by
          intro nowUs heq
          rw [replace_now]
          exact hstarted nowUs heq
        exact (accounted_send hreplaced pollDelayUs hstarted').congr rfl rfl rfl
    next => exact (accounted_send h pollDelayUs hstarted).congr rfl rfl rfl
  next => exact h.congr rfl rfl rfl

theorem accounted_wake {epoch : Nat} {w : UsbWorker ι υ} (h : w.Accounted epoch) {replied : Bool}
    {reading : Option UInt64} (hreply : w.mayReply replied) (hexact : w.Exact epoch reading)
    : (w.wake replied reading).Accounted epoch := by
  unfold wake
  cases WorkerTimer.expire_cases w.workerTimer replied with
  | inl heq =>
    rw [heq]
    dsimp only
    rw [if_neg (by simp)]
    split
    next hpending => exact accounted_account h hpending hexact
    next => exact h
  | inr hcases =>
    obtain ⟨hpending, hreplied, heq⟩ := hcases
    rw [heq]
    dsimp only
    split
    next => exact accounted_expire h (hreply hreplied)
    next =>
      -- An armed delay is never zero, and without a delay there is nothing to credit.
      exact ⟨⟨nofun, nofun, nofun⟩, ⟨h.root.now, nofun, nofun⟩,
        fun i => ⟨(h.retry i).now, nofun, nofun⟩⟩

/-- What the histories say of the retries is what their delays say. -/
def Counted (w : UsbWorker ι υ) : Prop :=
  ∀ i, (w.queue.slots i).retryDelayUs ≠ 0 →
    (w.queue.slots i).retryDelayUs.toNat + w.history.advanced i = idleBulkRetryUs.toNat

theorem Counted.congr {w w' : UsbWorker ι υ} (h : w.Counted) (hqueue : w.queue.Shortens w'.queue)
    (hadvanced : w'.history.advanced = w.history.advanced) : w'.Counted := by
  intro i hne
  rw [hadvanced]
  cases hqueue i with
  | inl heq =>
    rw [heq] at hne ⊢
    exact h i hne
  | inr hzero => exact absurd hzero hne

theorem Counted.credit {w : UsbWorker ι υ} (h : w.Counted) (elapsedUs : UInt32)
    : (w.credit elapsedUs).Counted := by
  intro i hne
  have hadvance := WorkSlot.advanceDelay_retryDelayUs (w.queue.slots i) elapsedUs
  have hpos : ((w.queue.slots i).advanceDelay elapsedUs).retryDelayUs.toNat ≠ 0 := by
    intro hzero
    exact hne (UInt32.toNat_inj.mp hzero)
  have hbefore : (w.queue.slots i).retryDelayUs ≠ 0 := by
    intro hzero
    rw [hzero, UInt32.toNat_zero] at hadvance
    omega
  have heq := h i hbefore
  dsimp only [UsbWorker.credit, WorkQueue.advanceDelay]
  omega

theorem Counted.account {w : UsbWorker ι υ} (h : w.Counted) (reading : Option UInt64)
    : (w.account reading).Counted := by
  unfold UsbWorker.account
  split
  next => exact h
  next =>
    dsimp only
    split
    next => exact Counted.credit h _
    next => exact h

theorem Counted.closeInterval {w : UsbWorker ι υ} (h : w.Counted) (replied : Bool)
    (reading : Option UInt64) : (w.closeInterval replied reading).Counted := by
  unfold UsbWorker.closeInterval
  split
  next =>
    split
    next => exact Counted.credit h _
    next => exact h.account reading
  next => exact h

theorem Counted.replace {w : UsbWorker ι υ} (h : w.Counted) (pollDelayUs : UInt32)
    (reading : Option UInt64) : (w.replace pollDelayUs reading).Counted := by
  unfold UsbWorker.replace
  split
  next => exact h
  next =>
    dsimp only
    split
    next => exact Counted.credit h _
    next => exact h

theorem Counted.send {w : UsbWorker ι υ} (h : w.Counted) (pollDelayUs : UInt32)
    (started : Option UInt64) : (w.send pollDelayUs started).Counted := by
  unfold UsbWorker.send
  split <;> exact h

theorem Counted.arm {w : UsbWorker ι υ} (h : w.Counted) (pollDelayUs : UInt32)
    (anyPending replied : Bool) (reading started : Option UInt64)
    : (w.arm pollDelayUs anyPending replied reading started).Counted := by
  unfold UsbWorker.arm
  split
  next =>
    split
    next =>
      split
      next => exact Counted.credit h _
      next => exact (h.replace pollDelayUs reading).send pollDelayUs started
    next => exact h.send pollDelayUs started
  next => exact h

theorem Counted.wake {w : UsbWorker ι υ} (h : w.Counted) (replied : Bool)
    (reading : Option UInt64) : (w.wake replied reading).Counted := by
  unfold UsbWorker.wake
  dsimp only
  split
  next => exact Counted.credit h _
  next =>
    split
    next =>
      have hsame : Counted { w with workerTimer := (w.workerTimer.expire replied).1 } := h
      exact hsame.account reading
    next => exact h

/--
The root hub accumulator was advanced by no more than the time since the worker's start, and each
retry by no more than the time since it was published.
-/
structure DelaysBounded (w : UsbWorker ι υ) : Prop where
  root : w.history.rootAdvanced ≤ w.history.now
  retry : ∀ i, w.history.publishedAt i + w.history.advanced i ≤ w.history.now
  delay : ∀ i, (w.queue.slots i).retryDelayUs ≠ 0 →
    w.history.publishedAt i + idleBulkRetryUs.toNat
      ≤ w.history.now + (w.queue.slots i).retryDelayUs.toNat

theorem Accounted.delaysBounded {epoch : Nat} {w : UsbWorker ι υ} (h : w.Accounted epoch)
    (hcounted : w.Counted) : w.DelaysBounded where
  root := h.root.now
  retry i := (h.retry i).now
  delay i hne := by
    have heq := hcounted i hne
    have hle := (h.retry i).now
    omega

theorem accounted_boot (epoch : Nat) (iors : ι → WorkIor) (timerOpen : Bool)
    : (boot iors timerOpen : UsbWorker ι υ).Accounted epoch :=
  ⟨⟨nofun, nofun, nofun⟩, ⟨le_rfl, nofun, nofun⟩, fun _ => ⟨le_rfl, nofun, nofun⟩⟩

theorem counted_boot (iors : ι → WorkIor) (timerOpen : Bool)
    : (boot iors timerOpen : UsbWorker ι υ).Counted :=
  fun _ hne => absurd rfl hne

variable [DecidableEq ι]

theorem Counted.publish {w : UsbWorker ι υ} (h : w.Counted) (i : Fin workSlots) (ior : ι)
    (sequence : UInt32) (ticket : Nat) : (w.publish i ior sequence ticket).Counted := by
  unfold UsbWorker.publish WorkQueue.publish
  dsimp only
  by_cases hstands : (w.queue.slots i).stands ior sequence
  . rw [if_pos hstands]
    unfold WorkSlot.stands at hstands
    rw [if_pos hstands]
    intro j hne
    dsimp only at hne ⊢
    by_cases hj : j = i
    . subst hj
      rw [Function.update_self, Function.update_self]
      rfl
    . rw [Function.update_of_ne hj] at hne ⊢
      rw [Function.update_of_ne hj]
      exact h j hne
  . rw [if_neg hstands]
    unfold WorkSlot.stands at hstands
    rw [if_neg hstands]
    exact h

theorem accounted_publish {epoch : Nat} {w : UsbWorker ι υ} (h : w.Accounted epoch)
    (i : Fin workSlots) (ior : ι) (sequence : UInt32) (ticket : Nat)
    (hcovered : (w.queue.slots i).stands ior sequence → w.Covered w.history.now)
    : (w.publish i ior sequence ticket).Accounted epoch := by
  unfold publish
  by_cases hstands : (w.queue.slots i).stands ior sequence
  . rw [if_pos hstands]
    refine ⟨⟨h.timed.1, h.timed.2, h.timed.3⟩, ⟨h.root.1, h.root.2, h.root.3⟩, ?_⟩
    intro j
    dsimp only
    by_cases hj : j = i
    . subst hj
      rw [Function.update_self, Function.update_self]
      have := hcovered hstands
      exact ⟨this.1, this.2, this.3⟩
    . rw [Function.update_of_ne hj, Function.update_of_ne hj]
      exact ⟨(h.retry j).1, (h.retry j).2, (h.retry j).3⟩
  . rw [if_neg hstands]
    exact h.congr rfl rfl rfl

/--
When a step of the worker is accounted exactly: each clock reading shows the real time, and where a
retry is published the interval before it can be closed.
-/
def StepExact (epoch : Nat) (w : UsbWorker ι υ) (event : WorkerEvent ι υ) : Prop :=
  match event with
  | .retry replied reading =>
    w.Exact epoch reading ∧
      match w.queue.worker with
      | .retrying i ior sequence _ =>
        (w.queue.slots i).retried ior sequence → w.Settled replied reading
      | _ => True
  | .arm _ reading started => w.Exact epoch reading ∧ w.Exact epoch started
  | .wake _ reading => w.Exact epoch reading
  | _ => True

instance (epoch : Nat) (w : UsbWorker ι υ) (event : WorkerEvent ι υ)
    : Decidable (w.StepExact epoch event) := by
  unfold StepExact
  split
  next =>
    split
    next =>
      unfold WorkSlot.retried
      infer_instance
    next => infer_instance
  all_goals infer_instance

theorem accounted_retry {epoch : Nat} {w w' : UsbWorker ι υ} (h : w.Accounted epoch)
    {pollDelayUs : UInt32} {replied : Bool} {reading : Option UInt64} (hreply : w.mayReply replied)
    (hexact : w.StepExact epoch (.retry replied reading))
    (hretry : w.retry pollDelayUs replied reading = some w') : w'.Accounted epoch := by
  unfold retry at hretry
  split at hretry
  next =>
    rw [← Option.some.inj hretry]
    exact h.congr rfl rfl rfl
  next => contradiction
  next i ior sequence ticket hworker =>
    rw [← Option.some.inj hretry]
    have hsettled := hexact.2
    rw [hworker] at hsettled
    have hclosed := accounted_closeInterval h hreply hexact.1
    refine (accounted_publish hclosed i ior sequence ticket ?_).congr rfl rfl rfl
    intro hstands
    have hretried := closeInterval_retried w replied reading i
      ⟨hstands.1, hstands.2.1, hstands.2.2.1⟩
    rw [closeInterval_now]
    exact covered_closeInterval h hexact.1 (hsettled hretried)

variable [DecidableEq υ]

theorem accounted_queueStep {epoch : Nat} {w w' : UsbWorker ι υ} (h : w.Accounted epoch)
    {action : WorkAction ι υ} (hstep : w.queueStep action = some w') : w'.Accounted epoch := by
  unfold queueStep at hstep
  split at hstep
  next => contradiction
  next =>
    split at hstep
    all_goals first
      | contradiction
      | (rw [← Option.some.inj hstep]; exact h.congr rfl rfl rfl)

theorem accounted_step {epoch : Nat} {w w' : UsbWorker ι υ} (h : w.Accounted epoch)
    {event : WorkerEvent ι υ} (hexact : w.StepExact epoch event) (hstep : w.step event = some w')
    : w'.Accounted epoch := by
  unfold step at hstep
  split at hstep
  next us =>
    rw [← Option.some.inj hstep]
    have hlater {reached : Nat} (hc : w.Covered reached) : reached ≤ w.history.now + us :=
      hc.now.trans (Nat.le_add_right _ _)
    refine ⟨⟨?_, h.timed.2, h.timed.3⟩, ⟨hlater h.root, h.root.2, h.root.3⟩,
      fun i => ⟨hlater (h.retry i), (h.retry i).2, (h.retry i).3⟩⟩
    exact fun hpending => (h.timed.credited hpending).trans (Nat.le_add_right _ _)
  next action _ => exact accounted_queueStep h hstep
  next =>
    rw [← Option.some.inj hstep]
    exact h.congr rfl rfl rfl
  next replied reading pollDelayUs _ =>
    split at hstep
    next hreply => exact accounted_retry h hreply hexact hstep
    next => contradiction
  next =>
    rw [← Option.some.inj hstep]
    exact h.congr rfl rfl rfl
  next =>
    rw [← Option.some.inj hstep]
    unfold workDelay
    dsimp only
    split <;> exact h.congr rfl rfl rfl
  next =>
    rw [← Option.some.inj hstep]
    unfold workPending
    split <;> exact h.congr rfl rfl rfl
  next =>
    split at hstep
    next hreply =>
      rw [← Option.some.inj hstep]
      exact accounted_arm h _ _ hreply hexact.1 hexact.2
    next => contradiction
  next =>
    split at hstep
    next hreply =>
      rw [← Option.some.inj hstep]
      exact (accounted_wake h hreply hexact).congr rfl rfl rfl
    next => contradiction
  next =>
    rw [← Option.some.inj hstep]
    exact h.congr rfl rfl rfl
  next => contradiction

theorem Counted.queueStep {w w' : UsbWorker ι υ} (h : w.Counted) {action : WorkAction ι υ}
    (hstep : w.queueStep action = some w') : w'.Counted := by
  unfold UsbWorker.queueStep at hstep
  split at hstep
  next => contradiction
  next hqueue =>
    split at hstep
    all_goals first
      | contradiction
      | (rw [← Option.some.inj hstep]
         exact h.congr (WorkQueue.step_shortens hqueue (by simp) (by simp)) rfl)

theorem Counted.step {w w' : UsbWorker ι υ} (h : w.Counted) {event : WorkerEvent ι υ}
    (hstep : w.step event = some w') : w'.Counted := by
  unfold UsbWorker.step at hstep
  split at hstep
  next =>
    rw [← Option.some.inj hstep]
    exact h
  next => exact h.queueStep hstep
  next =>
    rw [← Option.some.inj hstep]
    exact h
  next replied reading pollDelayUs _ =>
    rw [Option.ite_none_right_eq_some] at hstep
    have hretry := hstep.2
    unfold UsbWorker.retry at hretry
    split at hretry
    next =>
      rw [← Option.some.inj hretry]
      exact h
    next => contradiction
    next =>
      rw [← Option.some.inj hretry]
      exact (h.closeInterval replied reading).publish _ _ _ _
  next =>
    rw [← Option.some.inj hstep]
    exact h
  next =>
    rw [← Option.some.inj hstep]
    unfold workDelay
    dsimp only
    split <;> exact h
  next =>
    rw [← Option.some.inj hstep]
    unfold workPending
    split <;> exact h
  next replied reading started pollDelayUs anyPending _ =>
    simp only [Option.ite_none_right_eq_some, Option.some.injEq] at hstep
    rw [← hstep.2]
    exact h.arm pollDelayUs anyPending replied reading started
  next replied reading _ =>
    simp only [Option.ite_none_right_eq_some, Option.some.injEq] at hstep
    rw [← hstep.2]
    exact h.wake replied reading
  next =>
    rw [← Option.some.inj hstep]
    exact h
  next => contradiction

/-- Each step of the run is exact in the state that it meets. -/
def RunExact (epoch : Nat) (w : UsbWorker ι υ) (events : List (WorkerEvent ι υ)) : Prop :=
  match events with
  | [] => True
  | event :: events =>
    w.StepExact epoch event ∧
      match w.step event with
      | none => True
      | some w => w.RunExact epoch events

def RunExact.decidable (epoch : Nat) (w : UsbWorker ι υ) (events : List (WorkerEvent ι υ))
    : Decidable (w.RunExact epoch events) :=
  match events with
  | [] => .isTrue trivial
  | event :: events =>
    match hstep : w.step event with
    | none => decidable_of_iff (w.StepExact epoch event) (by simp [RunExact, hstep])
    | some w' =>
      have := RunExact.decidable epoch w' events
      decidable_of_iff (w.StepExact epoch event ∧ w'.RunExact epoch events)
        (by simp [RunExact, hstep])

instance (epoch : Nat) (w : UsbWorker ι υ) (events : List (WorkerEvent ι υ))
    : Decidable (w.RunExact epoch events) :=
  RunExact.decidable epoch w events

theorem run_delays {epoch : Nat} {w w' : UsbWorker ι υ} {events : List (WorkerEvent ι υ)}
    (h : w.Accounted epoch) (hcounted : w.Counted) (hexact : w.RunExact epoch events)
    (hrun : w.run events = some w') : w'.Accounted epoch ∧ w'.Counted := by
  induction events generalizing w with
  | nil =>
    rw [← Option.some.inj hrun]
    exact ⟨h, hcounted⟩
  | cons event events ih =>
    unfold run at hrun
    split at hrun
    next => contradiction
    next hstep =>
      have hrest := hexact.2
      rw [hstep] at hrest
      exact ih (accounted_step h hexact.1 hstep) (hcounted.step hstep) hrest hrun

theorem run_delaysBounded {epoch : Nat} {iors : ι → WorkIor} {timerOpen : Bool}
    {events : List (WorkerEvent ι υ)} {w : UsbWorker ι υ}
    (hexact : (boot iors timerOpen).RunExact epoch events)
    (hrun : (boot iors timerOpen).run events = some w) : w.DelaysBounded := by
  have h := run_delays (accounted_boot epoch iors timerOpen) (counted_boot iors timerOpen) hexact
    hrun
  exact h.1.delaysBounded h.2

end Accounting

/-- The worker, whose first request was not acknowledged, waits for its retry. -/
def firstRetry : List (WorkerEvent Bool Unit) :=
  [.queue (.enqueue false () true false), .top, .queue (.select 0), .queue (.execute 0 .nak 0 0),
    .queue .finish, .retry false none, .poll false [], .workDelay, .workPending,
    .arm false none (some 1000)]

/-- After 5000 microseconds a second request arrives, which takes `us` microseconds. -/
def secondRetry (us : Nat) (replied : Bool) (nowUs : UInt64) : List (WorkerEvent Bool Unit) :=
  [.elapse 5000, .queue (.enqueue true () true false), .wake false (some 6000), .top,
    .queue (.select 0), .elapse us, .queue (.execute 0 .nak 0 0), .queue .finish,
    .retry replied (some nowUs), .poll false [], .workDelay, .workPending]

def idleWorker : UsbWorker Bool Unit := boot (fun _ => ⟨0, .noError, false⟩) true

theorem exact_second
    : idleWorker.RunExact 1000 (firstRetry ++ secondRetry 3000 false 9000
      ++ [.elapse 12000, .arm true none none]) := by
  decide +kernel

theorem run_delaysBounded_second
    : (idleWorker.run (firstRetry ++ secondRetry 3000 false 9000
        ++ [.elapse 12000, .arm true none none])).isSome
      ∧ ∀ w, idleWorker.run (firstRetry ++ secondRetry 3000 false 9000
        ++ [.elapse 12000, .arm true none none]) = some w → w.DelaysBounded :=
  ⟨by decide +kernel, fun _ hrun => run_delaysBounded exact_second hrun⟩

/--
The second request ends when the whole delay of the armed request has run, but before its reply is
there. The retry is published, and 100 microseconds later the reply advances it by 15000.
-/
theorem run_delays_misplaced
    : ∃ w, idleWorker.run (firstRetry ++ secondRetry 15500 false 21500
        ++ [.elapse 100, .arm true none none]) = some w
      ∧ w.history.now = 20600
      ∧ w.history.publishedAt ⟨1, by decide⟩ = 20500
      ∧ w.history.advanced ⟨1, by decide⟩ = 15000
      ∧ (w.queue.slots ⟨1, by decide⟩).retryDelayUs = 5000
      ∧ ¬w.DelaysBounded := by
  have hrun : (idleWorker.run (firstRetry ++ secondRetry 15500 false 21500
      ++ [.elapse 100, .arm true none none])).map (fun w => (w.history.now,
        w.history.publishedAt ⟨1, by decide⟩, w.history.advanced ⟨1, by decide⟩,
        (w.queue.slots ⟨1, by decide⟩).retryDelayUs)) = some (20600, 20500, 15000, 5000) := by
    decide +kernel
  obtain ⟨w, hrun, hw⟩ := Option.map_eq_some_iff.mp hrun
  simp only [Prod.mk.injEq] at hw
  obtain ⟨hnow, hpublished, hadvanced, hdelay⟩ := hw
  refine ⟨w, hrun, hnow, hpublished, hadvanced, hdelay, ?_⟩
  intro h
  have := h.retry ⟨1, by decide⟩
  omega

end UsbWorker

end ZZUsb
