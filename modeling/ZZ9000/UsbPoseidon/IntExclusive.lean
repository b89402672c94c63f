import ZZ9000.UsbPoseidon.IntEndpoints
import ZZ9000.UsbPoseidon.IntPoll

/-!
This module contains the exclusivity of periodic endpoints: as long as no endpoint is armed while a
slot with an aborted request is still armed for it, no two slots are armed for one endpoint.
-/

namespace ZZUsb

open Concurrency
open Concurrency.Coroutine

variable {ι υ : Type}

def IntMark.ArmsFree (m : IntMark ι υ) (s : IntState ι υ) : Prop :=
  match m with
  | .arms i => s.NoneAborted i
  | _ => True

def IntMark.StopsAlone (m : IntMark ι υ) (s : IntState ι υ) : Prop :=
  match m with
  | .sends slot unit cmd => s.StopsAlone slot unit cmd
  | _ => True

section Worker

variable [DecidableEq ι] [DecidableEq υ]

/-- Only the worker releases `zz_Lock` while nobody resets anything. -/
def exclusive : Pool.Annotation (intPool ι υ false) where
  inv := IntState.Separate
  assume := IntMark.ArmsFree
  assert := IntMark.StopsAlone
  park t w s := t = .worker ∧ w.left.SlotsKept s
  idle t s := t = .worker → s.Calm
  guar t s s' := t ≠ .worker → s.SlotsKept s'

abbrev workerContract : Contract (IntState ι υ) (IntMark ι υ) (IntWindow ι υ) :=
  exclusive.contract .worker

namespace Exclusive

open IntState

variable {s₀ s : IntState ι υ}

theorem wp_releaseLock {wait : IntWait} {Q : Unit → IntState ι υ → IntState ι υ → Prop}
    (h : s.Separate) (hQ : ∀ s', s.SlotsKept s' → s'.Separate → Q () s' s')
    : (releaseLock wait).wp workerContract Q s₀ s := by
  unfold releaseLock
  rw [wp_bind, wp_read, wp_pause]
  refine ⟨?_, ⟨⟨rfl, .refl s⟩, h⟩, ?_⟩
  . intro hne; exact absurd rfl hne
  . intro s' hwake
    exact hQ s' hwake.1.2 hwake.2.1

theorem wp_receiveUsbCmd {unit : υ} {a : IntAnswer}
    {Q : IntReply → IntState ι υ → IntState ι υ → Prop} (h : s.Separate)
    (hQ : ∀ reply s₀ s', s.SlotsKept s' → s'.Separate → Q reply s₀ s')
    : (receiveUsbCmd unit a).wp workerContract Q s₀ s := by
  unfold receiveUsbCmd
  split
  . rw [wp_bind, wp_modify, wp_pure]
    exact hQ _ _ _ (.of_eq rfl) (h.congr rfl rfl)
  . rw [wp_pure]
    exact hQ _ _ _ (.refl s) h

theorem wp_sendUsbCmdWire {unit : υ} {Q : IntReply → IntState ι υ → IntState ι υ → Prop}
    (h : s.Separate) (hQ : ∀ reply s₀ s', s.SlotsKept s' → s'.Separate → Q reply s₀ s')
    : (sendUsbCmdWire unit).wp workerContract Q s₀ s := by
  unfold sendUsbCmdWire
  rw [wp_bind, wp_read, wp_bind, wp_answer]
  intro a
  split
  . rw [wp_bind]
    apply wp_releaseLock h
    intro s' hkept hs'
    apply wp_receiveUsbCmd hs'
    intro reply s₀ s'' hkept' hs''
    exact hQ reply s₀ s'' (hkept.trans hkept') hs''
  . exact wp_receiveUsbCmd h hQ

theorem wp_sendUsbCmd {slot : Option (Fin intPendingSlots)} {unit : υ} {cmd : IntCommand}
    {Q : IntReply → IntState ι υ → IntState ι υ → Prop} (h : s.Separate)
    (hstop : s.StopsAlone slot unit cmd)
    (hQ : ∀ reply s₀ s', s.SlotsKept s' → s'.Separate → Q reply s₀ s')
    : (sendUsbCmd slot unit cmd).wp workerContract Q s₀ s := by
  unfold sendUsbCmd
  rw [wp_bind, wp_read]
  split
  . rw [wp_pure]
    exact hQ _ _ _ (.refl s) h
  . rw [wp_bind, wp_note]
    intro _
    exact ⟨hstop, wp_sendUsbCmdWire h hQ⟩

theorem wp_sendUsbCmdWithRtWait {slot : Option (Fin intPendingSlots)} {unit : υ}
    {cmd : IntCommand} {Q : IntReply → IntState ι υ → IntState ι υ → Prop} (h : s.Separate)
    (hstop : s.StopsAlone slot unit cmd)
    (hQ : ∀ reply s₀ s', s.SlotsKept s' → s'.Separate → Q reply s₀ s')
    : (sendUsbCmdWithRtWait slot unit cmd).wp workerContract Q s₀ s := by
  unfold sendUsbCmdWithRtWait
  rw [wp_bind, wp_answer]
  intro a
  split
  . exact wp_sendUsbCmd h hstop hQ
  . split
    . rw [wp_pure]
      exact hQ _ _ _ (.refl s) h
    . rw [wp_bind, wp_modify, wp_bind]
      have hs : (s.setForeground (some unit)).Separate := h.congr rfl rfl
      apply wp_sendUsbCmd hs hstop
      intro reply s₀ s' hkept hs'
      have hset : s.SlotsKept (s.setForeground (some unit)) := .of_eq rfl
      have hkept := hset.trans hkept
      rw [wp_bind, wp_modify, wp_pure]
      exact hQ _ _ _ (hkept.trans (.of_eq rfl)) (hs'.congr rfl rfl)

theorem wp_sendUsbCmdWithRtService {t : UsbTask} {slot : Option (Fin intPendingSlots)} {unit : υ}
    {cmd : IntCommand} {Q : IntReply → IntState ι υ → IntState ι υ → Prop} (h : s.Separate)
    (hstop : ∀ s', s.SlotsKept s' → s'.Separate → s'.StopsAlone slot unit cmd)
    (hQ : ∀ reply s₀ s', s.SlotsKept s' → s'.Separate → Q reply s₀ s')
    : (sendUsbCmdWithRtService t slot unit cmd).wp workerContract Q s₀ s := by
  unfold sendUsbCmdWithRtService
  rw [wp_bind, wp_answer]
  intro a
  split
  . exact wp_sendUsbCmd h (hstop s (.refl s) h) hQ
  . rw [wp_bind, wp_read, wp_bind]
    apply wp_releaseLock h
    intro s₁ hkept₁ hs₁
    rw [wp_bind, wp_modify, wp_bind]
    have hs : (s₁.obtainPrimary t).Separate := hs₁.congr rfl rfl
    have hkept : s.SlotsKept (s₁.obtainPrimary t) := hkept₁.trans (.of_eq rfl)
    apply wp_sendUsbCmdWithRtWait hs (hstop _ hkept hs)
    intro reply s₀ s₂ hkept₂ hs₂
    have hkept := hkept.trans hkept₂
    rw [wp_bind]
    unfold releasePrimaryLock
    split
    . rw [wp_pure, wp_pure]
      exact hQ _ _ _ hkept hs₂
    . rw [wp_modify, wp_pure]
      exact hQ _ _ _ (hkept.trans (.of_eq rfl)) (hs₂.congr rfl rfl)

omit [DecidableEq ι] [DecidableEq υ] in
theorem stopsAlone_of_cmd_ne {slot : Option (Fin intPendingSlots)} {unit : υ} {cmd : IntCommand}
    (h : cmd.cmd ≠ .periodicStop)
    : s.StopsAlone slot unit cmd :=
  fun hstop => absurd hstop h

omit [DecidableEq ι] [DecidableEq υ] in
theorem endpointId_stopCommand {i : Fin intPendingSlots} {unit : υ} (h : s.Named (s.slots i))
    : (s.stopCommand (s.slots i) unit).endpointId = (s.slots i).armedCommand.endpointId := by
  unfold stopCommand
  split
  . next ior hior =>
    rw [h ior hior]
    rw [← IntIor.endpointId_fillIntArmCommand _ (s.ports unit)]
    rfl
  . rfl

omit [DecidableEq ι] [DecidableEq υ] in
/-- `PERIODIC_STOP` for the slot hits no other one, however long it waits to be sent. -/
theorem stopsAlone_stopCommand (h : s.Separate) {i : Fin intPendingSlots}
    (harmed : (s.slots i).armed) {unit : υ} (hunit : (s.slots i).unit = some unit)
    {s' : IntState ι υ} (hkept : s.SlotsKept s') (hs' : s'.Separate)
    : s'.StopsAlone (some i) unit (s.stopCommand (s.slots i) unit) := by
  have hhot : (s.slots i).hot := .inl harmed
  have hi := hkept.hot i hhot
  intro _ j hij hj hjunit
  have hij : j ≠ i := by
    intro heq
    rw [heq] at hij
    exact hij rfl
  rw [endpointId_stopCommand (h.named i hhot)]
  rw [← hi.2]
  apply hs'.exclusive j i hij hj ((hkept.hot_iff i).mpr hhot)
  rw [hjunit]
  rw [hi.1]
  rw [hunit]

/-- After `stop_periodic_slot` the `ARM` snapshot is still for the endpoint of the request. -/
theorem wp_stopPeriodicSlot {t : UsbTask} {i : Fin intPendingSlots}
    {Q : UInt16 → IntState ι υ → IntState ι υ → Prop} (h : s.Calm)
    (hQ : ∀ status s₀ s', s'.Calm → (s.Named (s.slots i) → s'.Named (s'.slots i)) →
      Q status s₀ s')
    : (stopPeriodicSlot t i).wp workerContract Q s₀ s := by
  unfold stopPeriodicSlot
  rw [wp_bind, wp_read]
  split
  . rw [wp_pure]
    exact hQ _ _ _ h id
  . next harmed =>
    simp only [Bool.not_eq_true', Bool.not_eq_false] at harmed
    split
    . rw [wp_pure]
      exact hQ _ _ _ h id
    . next unit hunit =>
      rw [wp_bind]
      apply wp_sendUsbCmdWithRtService h.toSeparate
      . intro s' hkept hs'
        exact stopsAlone_stopCommand h.toSeparate harmed hunit hkept hs'
      . intro reply s₀ s' hkept hs'
        have hcalm := h.of_kept hkept hs'
        have hnamed : s'.Named (s'.slots i) := by
          apply hs'.named
          rw [hkept.hot_iff]
          exact .inl harmed
        rw [wp_bind]
        unfold finishStop ZZUsb.modifySlot
        split
        . rw [wp_modify, wp_pure]
          apply hQ
          . apply hcalm.modifySlot_of_cooler <;> simp
          . intro _ ior
            simp only [IntState.modifySlot, Function.update_self]
            exact hnamed ior
        . rw [wp_modify, wp_pure]
          apply hQ
          . exact hcalm.congr rfl rfl
          . intro _
            exact hnamed

/-- A coroutine that the worker runs to its end -/
def Ends (c : IntM ι υ Unit) (s : IntState ι υ) : Prop :=
  ∀ s₀, c.wp workerContract (exclusive.Returned .worker) s₀ s

theorem returned (h : s.Calm) : exclusive.Returned .worker () s₀ s :=
  ⟨fun hne => absurd rfl hne, h.toSeparate, fun _ => h⟩

theorem ends_pure (h : s.Calm) : Ends (pure ()) s :=
  fun _ => returned h

theorem ends_modify {f : IntState ι υ → IntState ι υ} (h : (f s).Calm) : Ends (modify f) s :=
  fun _ => returned h

theorem ends_replySlot (h : s.Calm) (i : Fin intPendingSlots) (ior : ι)
    : Ends (replySlot i ior) s := by
  intro s₀
  unfold replySlot
  rw [wp_bind, wp_modify, wp_modify]
  apply returned
  exact (h.clearIntSlot i).congr rfl rfl

theorem ends_keepStopPending (h : s.Calm) (i : Fin intPendingSlots)
    : Ends (keepStopPending i) s := by
  apply ends_modify
  apply h.modifySlot_of_cooler <;> simp

theorem ends_keepAborted (h : s.Calm) (i : Fin intPendingSlots)
    : Ends (keepAborted i) s := by
  apply ends_modify
  apply h.modifySlot_of_cooler <;> simp

theorem ends_retireIntSlot {t : UsbTask} {unit : υ} {i : Fin intPendingSlots} {ior : ι}
    {retained : UInt16 → IntM ι υ Unit} (h : s.Calm)
    (hretained : ∀ status s', s'.Calm → Ends (retained status) s')
    : Ends (retireIntSlot t unit i ior retained) s := by
  intro s₀
  unfold retireIntSlot
  rw [wp_bind]
  apply wp_stopPeriodicSlot h
  intro status s₀ s' hs' _
  rw [wp_bind, wp_read]
  split
  . exact ends_pure hs' s₀
  . split
    . exact ends_replySlot hs' i ior s₀
    . exact hretained status s' hs' s₀

theorem ends_pollDetached {t : UsbTask} {i : Fin intPendingSlots} (h : s.Calm)
    : Ends (pollDetached t i) s := by
  intro s₀
  unfold pollDetached
  rw [wp_bind, wp_read]
  split
  . apply ends_modify
    apply h.modifySlot_of_cooler <;> simp
  . rw [wp_bind]
    apply wp_stopPeriodicSlot h
    intro _ s₀ s' hs' _
    rw [wp_bind, wp_read]
    split
    . rw [wp_bind, wp_note]
      intro _
      refine ⟨trivial, ?_⟩
      rw [wp_bind, wp_modify]
      have hclear := hs'.clearIntSlot i
      split
      . exact ends_pure hclear s₀
      . apply ends_modify
        exact hclear.congr rfl rfl
    . exact ends_pure hs' s₀

theorem ends_pollStopPending {t : UsbTask} {unit : υ} {i : Fin intPendingSlots} {ior : ι}
    (h : s.Calm)
    : Ends (pollStopPending t unit i ior) s := by
  intro s₀
  unfold pollStopPending
  rw [wp_bind, wp_read]
  split
  . rw [wp_bind, wp_modify, wp_bind]
    unfold ZZUsb.modifySlot
    rw [wp_modify]
    apply ends_retireIntSlot
    . apply (h.congr rfl rfl : (s.setResult ior 0 .aborted).Calm).modifySlot_of_cooler <;> simp
    . intro _ s' hs'
      exact ends_pure hs'
  . apply ends_retireIntSlot h
    intro _ s' hs'
    exact ends_pure hs'

theorem ends_pollAbortRequested {t : UsbTask} {unit : υ} {i : Fin intPendingSlots} {ior : ι}
    (h : s.Calm)
    : Ends (pollAbortRequested t unit i ior) s := by
  intro s₀
  unfold pollAbortRequested
  rw [wp_bind, wp_modify]
  apply ends_retireIntSlot
  . exact h.congr rfl rfl
  . intro _ s' hs'
    exact ends_keepAborted hs' i

theorem ends_failReap {t : UsbTask} {unit : υ} {i : Fin intPendingSlots} {ior : ι}
    {status : UInt16} (h : s.Calm)
    : Ends (failReap t unit i ior status) s := by
  intro s₀
  unfold failReap
  rw [wp_bind, wp_modify]
  apply ends_retireIntSlot
  . exact h.congr rfl rfl
  . intro stopStatus s' hs' s₀
    rw [wp_bind, wp_modify]
    apply ends_keepStopPending
    exact hs'.congr rfl rfl

omit [DecidableEq ι] [DecidableEq υ] in
theorem calm_retainEndpoint (h : s.Calm) (i : Fin intPendingSlots) {ior : ι}
    (hior : (s.slots i).ior = some ior)
    : (s.modifySlot i (·.retainEndpoint)).Calm := by
  have harming := h.idle i
  apply Calm.modifySlot
  . intro j _
    exact h.idle j
  . exact harming
  . apply h.toSeparate.modifySlot_of_weaker
    . simp [IntSlot.retainEndpoint, harming]
    . simp [Named, IntSlot.retainEndpoint]
    . intro hhot
      exact ⟨hhot, rfl, rfl⟩
    . intro hlive
      refine ⟨.inl (by simp [hior]), rfl, ?_⟩
      have harmed : (s.slots i).armed := by
        simp [IntSlot.live, IntSlot.retainEndpoint] at hlive
        exact hlive.1
      simp only [slotEndpoint, IntSlot.retainEndpoint, hior]
      exact h.named i (.inl harmed) ior hior

theorem ends_completeReap {t : UsbTask} {unit : υ} {i : Fin intPendingSlots} {ior : ι}
    {actual : UInt32} (h : s.Calm) (hior : (s.slots i).ior = some ior)
    : Ends (completeReap t unit i ior actual) s := by
  intro s₀
  unfold completeReap
  have hs : (s.setResult ior actual .noError).Calm := h.congr rfl rfl
  rw [wp_bind, wp_modify, wp_bind, wp_read]
  split
  . rw [wp_bind]
    unfold ZZUsb.modifySlot
    rw [wp_modify]
    apply ends_modify
    exact (calm_retainEndpoint hs i hior).congr rfl rfl
  . apply ends_retireIntSlot hs
    intro stopStatus s' hs' s₀
    rw [wp_bind, wp_modify]
    apply ends_keepStopPending
    exact hs'.congr rfl rfl

theorem ends_finishReap {t : UsbTask} {unit : υ} {i : Fin intPendingSlots} {ior : ι}
    {reply : IntReply} (h : s.Calm)
    : Ends (finishReap t unit i ior reply) s := by
  intro s₀
  unfold finishReap
  rw [wp_bind, wp_read]
  split
  . exact ends_pure h s₀
  . next hsame =>
    have hior : (s.slots i).ior = some ior := by
      simp [intSlotChanged] at hsame
      exact hsame.1
    split
    . exact ends_pollAbortRequested h s₀
    . dsimp only
      split
      . exact ends_pure h s₀
      . exact ends_completeReap h hior s₀
      . exact ends_failReap h s₀

theorem ends_pollReap {t : UsbTask} {unit : υ} {reapEvents : Bool} {i : Fin intPendingSlots}
    {ior : ι} {cmd : IntCommand} (h : s.Calm)
    : Ends (pollReap t unit reapEvents i ior cmd) s := by
  intro s₀
  unfold pollReap
  rw [wp_bind, wp_read]
  dsimp only
  split
  . rw [wp_bind]
    apply wp_sendUsbCmdWithRtService h.toSeparate
    . intro s' _ _
      apply stopsAlone_of_cmd_ne
      simp
    . intro reply s₀ s' hkept hs'
      exact ends_finishReap (h.of_kept hkept hs') s₀
  . exact ends_pure h s₀

omit [DecidableEq ι] [DecidableEq υ] in
theorem calm_arm (h : s.Calm) {i : Fin intPendingSlots} (hapart : s.Apart i) {ior : ι}
    (hior : (s.slots i).ior = some ior) (hnamed : s.Named (s.slots i))
    (f : IntSlot ι υ → IntSlot ι υ) (hunit : (f (s.slots i)).unit = (s.slots i).unit)
    (hior' : (f (s.slots i)).ior = (s.slots i).ior)
    (hcmd : (f (s.slots i)).armedCommand.endpointId = (s.slots i).armedCommand.endpointId)
    (harming : (f (s.slots i)).armInProgress = (s.slots i).armInProgress)
    : (s.modifySlot i f).Calm := by
  apply Calm.modifySlot
  . intro j _
    exact h.idle j
  . rw [harming]
    exact h.idle i
  . exact h.toSeparate.modifySlot_of_apart hapart hior hnamed f hunit hior' hcmd

theorem ends_reuseFailed {t : UsbTask} {i : Fin intPendingSlots} {ior : ι} {status : UInt16}
    (h : s.Calm) (hapart : s.Apart i) (hior : (s.slots i).ior = some ior)
    (hnamed : s.Named (s.slots i))
    : Ends (reuseFailed t i ior status) s := by
  intro s₀
  unfold reuseFailed ZZUsb.modifySlot
  have hs : (s.setResult ior 0 (s.armError i status)).Calm := h.congr rfl rfl
  have harmed := calm_arm hs hapart hior hnamed
    (fun slot => { slot with armed := true, reusePending := false }) rfl rfl rfl rfl
  rw [wp_bind, wp_modify, wp_bind, wp_modify, wp_bind]
  apply wp_stopPeriodicSlot harmed
  intro stopStatus s₀ s' hs' _
  split
  . rw [wp_bind, wp_note]
    intro _
    exact ⟨trivial, ends_replySlot hs' i ior s₀⟩
  . exact ends_keepStopPending hs' i s₀

theorem ends_armFailed {unit : υ} {i : Fin intPendingSlots} {ior : ι} {status : UInt16}
    (h : s.Calm) (hapart : s.Apart i) (hior : (s.slots i).ior = some ior)
    (hnamed : s.Named (s.slots i))
    : Ends (armFailed unit i ior status) s := by
  intro s₀
  unfold armFailed ZZUsb.modifySlot
  have hs : (s.setResult ior 0 (s.armError i status)).Calm := h.congr rfl rfl
  rw [wp_bind, wp_modify, wp_bind, wp_read]
  split
  . apply ends_modify
    apply calm_arm hs hapart hior hnamed <;> rfl
  . exact ends_replySlot hs i ior s₀

/-- The slot that is being armed keeps its request, only the worker can take it away. -/
theorem ends_finishArm {t : UsbTask} {unit : υ} {reapEvents : Bool} {i : Fin intPendingSlots}
    {ior : ι} {cmd : IntCommand} {status : UInt16} (h : s.Separate)
    (harming : (s.slots i).armInProgress) (hothers : ∀ j, j ≠ i → (s.slots j).armInProgress = false)
    (hior : (s.slots i).ior = some ior) (hunit : (s.slots i).unit = some unit)
    : Ends (finishArm t unit reapEvents i ior cmd status) s := by
  intro s₀
  unfold finishArm ZZUsb.modifySlot
  have hnamed := h.named i (.inr harming)
  have hapart := h.apart (.inr harming)
  have hsame : s.intSlotChanged i unit ior = false := by
    simp [intSlotChanged, hior, hunit]
  have hcalm : (s.modifySlot i (fun slot => { slot with armInProgress := false })).Calm := by
    apply Calm.modifySlot hothers
    . rfl
    . apply h.modifySlot_of_cooler <;> simp
  have hapart' : (s.modifySlot i (fun slot => { slot with armInProgress := false })).Apart i := by
    apply hapart.congr
    . intro j hji
      simp [IntState.modifySlot, hji]
    . simp [IntState.modifySlot]
    . simp [IntState.modifySlot]
  rw [wp_bind, wp_read, hsame]
  simp only [Bool.false_eq_true, ↓reduceIte]
  rw [wp_bind, wp_modify]
  generalize hs' : s.modifySlot i (fun slot => { slot with armInProgress := false }) = s' at *
  have hior' : (s'.slots i).ior = some ior := by simp [← hs', IntState.modifySlot, hior]
  have hnamed' : s'.Named (s'.slots i) := by
    simpa [← hs', IntState.modifySlot, Named] using hnamed
  split
  . exact ends_reuseFailed hcalm hapart' hior' hnamed' s₀
  . split
    . exact ends_armFailed hcalm hapart' hior' hnamed' s₀
    . rw [wp_bind, wp_modify]
      apply ends_pollReap
      apply calm_arm hcalm hapart' hior' hnamed'
      . rfl
      . rfl
      . rw [hnamed' ior hior']
        rw [IntIor.endpointId_fillIntArmCommand]
        rw [← hs']
        rfl
      . rfl

theorem ends_pollArm {t : UsbTask} {unit : υ} {reapEvents : Bool} {i : Fin intPendingSlots}
    {ior : ι} {cmd : IntCommand} (h : s.Calm) (hior : (s.slots i).ior = some ior)
    (hunit : (s.slots i).unit = some unit) (hnamed : s.Named (s.slots i))
    : Ends (pollArm t unit reapEvents i ior cmd) s := by
  intro s₀
  unfold pollArm ZZUsb.modifySlot
  rw [wp_bind, wp_read]
  dsimp only
  split
  . rw [wp_bind, wp_note]
    intro hnone
    refine ⟨trivial, ?_⟩
    have hapart := h.toSeparate.apart_of_noneAborted hior hnamed hnone
    have hs := h.toSeparate.modifySlot_of_apart hapart hior hnamed
      (fun slot => { slot with armGeneration := cmd.reserved, armInProgress := true }) rfl rfl rfl
    rw [wp_bind, wp_modify, wp_bind]
    apply wp_sendUsbCmdWithRtService hs
    . intro s' _ _
      apply stopsAlone_of_cmd_ne
      simp
    . intro reply s₀ s' hkept hs'
      apply ends_finishArm hs'
      . rw [hkept.armInProgress]
        simp [IntState.modifySlot]
      . intro j hji
        rw [hkept.armInProgress]
        simp [IntState.modifySlot, hji, h.idle j]
      . rw [hkept.arming i (by simp [IntState.modifySlot])]
        simp [IntState.modifySlot, hior]
      . rw [(hkept.hot i (by simp [IntState.modifySlot, IntSlot.hot])).1]
        simp [IntState.modifySlot, hunit]
  . exact ends_pollReap h s₀

theorem ends_pollRearm {t : UsbTask} {unit : υ} {reapEvents : Bool} {i : Fin intPendingSlots}
    {ior : ι} {cmd : IntCommand} (h : s.Calm) (hnamed : s.Named (s.slots i))
    : Ends (pollRearm t unit reapEvents i ior cmd) s := by
  intro s₀
  unfold pollRearm ZZUsb.modifySlot
  rw [wp_bind]
  apply wp_stopPeriodicSlot h
  intro stopStatus s₀ s' hs' hnamed'
  rw [wp_bind, wp_read]
  split
  . exact ends_pure hs' s₀
  . next hsame =>
    simp only [intSlotChanged, Bool.or_eq_true, decide_eq_true_eq, not_or, ne_eq,
      Decidable.not_not] at hsame
    have hs'' : (s'.modifySlot i (fun slot => { slot with rearmRequired := false })).Calm := by
      apply hs'.modifySlot_of_cooler <;> simp
    rw [wp_bind, wp_modify]
    split
    . apply ends_pollArm hs''
      . simp [IntState.modifySlot, hsame.1]
      . simp [IntState.modifySlot, hsame.2]
      . simpa [IntState.modifySlot, Named] using hnamed' hnamed
    . rw [wp_bind, wp_modify]
      apply ends_keepStopPending
      exact hs''.congr rfl rfl

omit [DecidableEq ι] [DecidableEq υ] in
theorem calm_prepare (h : s.Calm) (i : Fin intPendingSlots) {ior : ι}
    (hior : (s.slots i).ior = some ior) {cmd : IntCommand}
    (hcmd : cmd.endpointId = (s.iors ior).endpointId)
    : (s.modifySlot i (·.prepare cmd)).Calm
        ∧ (s.modifySlot i (·.prepare cmd)).Named ((s.slots i).prepare cmd) := by
  have hcold := h.idle i
  have hnamed : s.Named ((s.slots i).prepare cmd) := by
    unfold IntSlot.prepare
    split
    . next harmed => exact h.named i (.inl harmed)
    . intro r hr
      simp only [hior, Option.some.injEq] at hr
      rw [← hr]
      exact hcmd
  refine ⟨?_, hnamed⟩
  apply Calm.modifySlot
  . intro j _
    exact h.idle j
  . unfold IntSlot.prepare
    split
    . exact hcold
    . exact hcold
  . apply h.toSeparate.modifySlot_of_weaker
    . unfold IntSlot.prepare
      split <;> simp [hcold]
    . intro _
      exact hnamed
    . unfold IntSlot.prepare
      split
      . intro hhot
        exact ⟨hhot, rfl, rfl⟩
      . next harmed => simp [IntSlot.hot, harmed, hcold]
    . unfold IntSlot.prepare
      split
      . intro hlive
        exact ⟨hlive, rfl, rfl⟩
      . intro _
        refine ⟨.inl (by simp [hior]), rfl, ?_⟩
        simp [slotEndpoint, hior]

theorem ends_pollQueued {t : UsbTask} {unit : υ} {reapEvents : Bool} {i : Fin intPendingSlots}
    {ior : ι} (h : s.Calm) (hior : (s.slots i).ior = some ior)
    (hunit : (s.slots i).unit = some unit)
    : Ends (pollQueued t unit reapEvents i ior) s := by
  intro s₀
  unfold pollQueued ZZUsb.modifySlot
  rw [wp_bind, wp_read]
  dsimp only
  rw [wp_bind, wp_modify]
  have hprepare := calm_prepare h i hior
    (IntIor.endpointId_fillIntArmCommand (s.iors ior) (s.ports unit))
  generalize hcmd : (s.iors ior).fillIntArmCommand (s.ports unit) = cmd at *
  have hs := hprepare.1
  split
  . exact ends_pollStopPending hs s₀
  . split
    . exact ends_pollAbortRequested hs s₀
    . split
      . apply ends_pollRearm hs
        simpa [IntState.modifySlot] using hprepare.2
      . apply ends_pollArm hs
        . simp only [IntState.modifySlot, Function.update_self, IntSlot.prepare]
          split <;> exact hior
        . simp only [IntState.modifySlot, Function.update_self, IntSlot.prepare]
          split <;> exact hunit
        . simpa [IntState.modifySlot] using hprepare.2

theorem ends_pollIntSlot {t : UsbTask} {unit : υ} {reapEvents : Bool} {i : Fin intPendingSlots}
    (h : s.Calm)
    : Ends (pollIntSlot t unit reapEvents i) s := by
  intro s₀
  unfold pollIntSlot
  rw [wp_bind, wp_read]
  split
  . next hunit =>
    split
    . exact ends_pollDetached h s₀
    . next ior hior => exact ends_pollQueued h hior hunit s₀
  . exact ends_pure h s₀

theorem Ends.bind {c : IntM ι υ Unit} {f : Unit → IntM ι υ Unit} (hc : Ends c s)
    (hf : ∀ s', s'.Calm → Ends (f ()) s')
    : Ends (c >>= f) s := by
  intro s₀
  rw [wp_bind]
  apply wp_mono (hc s₀)
  intro _ s₀ s' hs'
  exact hf s' (hs'.2.2 rfl) s₀

theorem ends_releaseLock {wait : IntWait} (h : s.Calm) : Ends (releaseLock wait) s := by
  intro s₀
  apply wp_releaseLock h.toSeparate
  intro s' hkept hs'
  exact returned (h.of_kept hkept hs')

theorem ends_pollIntSlots {t : UsbTask} {unit : υ} {reapEvents : Bool}
    {indices : List (Fin intPendingSlots)} (h : s.Calm)
    : Ends (pollIntSlots t unit reapEvents indices) s := by
  induction indices generalizing s with
  | nil => exact ends_pure h
  | cons i indices ih =>
    unfold pollIntSlots
    apply (ends_releaseLock h).bind
    intro s₁ hs₁
    apply (ends_pollIntSlot hs₁).bind
    intro s₂ hs₂
    exact ih hs₂

theorem ends_note_clears {i : Fin intPendingSlots} {reply : Option ι} {c : Unit → IntM ι υ Unit}
    (h : Ends (c ()) s)
    : Ends (note (.clears i reply) >>= c) s := by
  intro s₀
  rw [wp_bind, wp_note]
  intro _
  exact ⟨trivial, h s₀⟩

theorem ends_finishLegacy {i : Fin intPendingSlots} {ior : ι} {reply : IntReply} (h : s.Calm)
    : Ends (finishLegacy i ior reply) s := by
  intro s₀
  unfold finishLegacy ZZUsb.modifySlot
  rw [wp_bind, wp_read]
  dsimp only
  split
  . rw [wp_bind, wp_modify, wp_bind, wp_read]
    have hs : (s.modifySlot i (fun slot =>
        { slot with
          idlePolls := if slot.idlePolls < 0xff then slot.idlePolls + 1 else slot.idlePolls })).Calm
        := by
      apply h.modifySlot_of_cooler <;> simp
    split
    . apply ends_note_clears
      intro s₀
      rw [wp_bind, wp_modify]
      apply ends_replySlot
      exact hs.congr rfl rfl
    . exact ends_pure hs s₀
  . apply ends_note_clears
    intro s₀
    rw [wp_bind, wp_modify]
    apply ends_replySlot
    split
    . exact h.congr rfl rfl
    . exact h.congr rfl rfl

theorem ends_pollLegacyRequest {unit : υ} {i : Fin intPendingSlots} {ior : ι} (h : s.Calm)
    : Ends (pollLegacyRequest unit i ior) s := by
  intro s₀
  unfold pollLegacyRequest
  rw [wp_bind, wp_read]
  split
  . rw [wp_bind, wp_modify]
    apply ends_replySlot
    exact h.congr rfl rfl
  . rw [wp_bind]
    apply wp_sendUsbCmd h.toSeparate
    . apply stopsAlone_of_cmd_ne
      simp [legacyCommand]
    . intro reply s₀ s' hkept hs'
      exact ends_finishLegacy (h.of_kept hkept hs') s₀

theorem ends_pollLegacySlot {unit : υ} {i : Fin intPendingSlots} {ior : ι} (h : s.Calm)
    : Ends (pollLegacySlot unit i ior) s := by
  unfold pollLegacySlot
  apply (ends_pollLegacyRequest h).bind
  intro s' hs'
  apply ends_modify
  exact hs'.congr rfl rfl

theorem ends_pollLegacySlots {unit : υ} {indices : List (Fin intPendingSlots)} (h : s.Calm)
    : Ends (pollLegacySlots unit indices) s := by
  induction indices generalizing s with
  | nil => exact ends_pure h
  | cons i indices ih =>
    unfold pollLegacySlots
    apply (ends_releaseLock h).bind
    intro s' hs' s₀
    rw [wp_bind, wp_read]
    split
    . exact ih hs' s₀
    . split
      . exact ends_pollLegacySlot hs' s₀
      . exact ih hs' s₀

theorem ends_pollIntPending {t : UsbTask} {unit : υ} {reapEvents : Bool} (h : s.Calm)
    : Ends (pollIntPending t unit reapEvents) s := by
  intro s₀
  unfold pollIntPending
  rw [wp_bind, wp_read]
  split
  . exact ends_pollIntSlots h s₀
  . exact ends_pollLegacySlots h s₀

theorem calm_abortIntIorsOffline (h : s.Calm) (unit : υ) : (s.abortIntIorsOffline unit).1.Calm := by
  have hfold (indices : List (Fin intPendingSlots)) (p : IntState ι υ × List ι) (hp : p.1.Calm)
      : (indices.foldl (abortOffline unit) p).1.Calm := by
    induction indices generalizing p with
    | nil => exact hp
    | cons i indices ih =>
      rw [List.foldl_cons]
      apply ih
      unfold abortOffline
      split
      . exact hp
      . split
        . split <;> exact (hp.clearIntSlot i).congr rfl rfl
        . exact hp
  exact hfold _ _ h

omit [DecidableEq υ] in
theorem calm_replyAll (h : s.Calm) (iors : List ι) : (s.replyAll iors).Calm := by
  unfold replyAll
  induction iors generalizing s with
  | nil => exact h
  | cons ior iors ih =>
    rw [List.foldl_cons]
    apply ih
    exact h.congr rfl rfl

theorem ends_updatePortState {t : UsbTask} {unit : υ} (h : s.Calm)
    : Ends (updatePortState t unit) s := by
  intro s₀
  unfold updatePortState
  rw [wp_bind]
  apply wp_sendUsbCmdWithRtService h.toSeparate
  . intro s' _ _
    apply stopsAlone_of_cmd_ne
    simp
  . intro reply s₀ s' hkept hs'
    have hcalm := h.of_kept hkept hs'
    rw [wp_bind, wp_read]
    split
    . apply ends_modify
      apply calm_replyAll
      apply calm_abortIntIorsOffline
      exact hcalm.congr rfl rfl
    . exact ends_pure hcalm s₀

theorem valid : (exclusive : Pool.Annotation (intPool ι υ false)).Valid where
  call t c s h hidle hcall := by
    have hclient (t : UsbTask) (ht : t ≠ .worker) (s' : IntState ι υ) (hstep : s.ClientStep s')
        : exclusive.Returned t () s s' :=
      ⟨fun _ => hstep.kept, hstep.separate, fun heq => absurd heq ht⟩
    show (c.body t).wp _ _ s s
    replace hcall : c.allowed false t s = true := hcall
    cases t with
    | worker =>
      have hcalm := hidle rfl
      cases c with
      | pollIntPending unit reapEvents => exact ends_pollIntPending hcalm s
      | updatePortState unit => exact ends_updatePortState hcalm s
      | intXfer | abortIo | flush | finishReset | setPort => simp [IntCall.allowed] at hcall
    | client n =>
      cases c with
      | intXfer ior fields =>
        apply hclient
        . simp
        . apply clientStep_beginIntXfer h
          simpa [IntCall.allowed] using (Bool.and_eq_true_iff.mp hcall).2
      | abortIo ior =>
        apply hclient
        . simp
        . exact clientStep_abortIo h ior
      | flush | finishReset | pollIntPending | updatePortState | setPort =>
        simp [IntCall.allowed] at hcall
    | driver =>
      cases c with
      | setPort unit port =>
        apply hclient
        . simp
        . exact .of_eq h rfl rfl
      | intXfer | abortIo | flush | finishReset | pollIntPending | updatePortState =>
        simp [IntCall.allowed] at hcall
  stable t u w s s' htu hguar _ hpark := by
    refine ⟨hpark.1, hpark.2.trans (hguar ?_)⟩
    rw [hpark.1] at htu
    exact htu.symm
  stable_idle t u s s' htu hguar hs' hidle := by
    intro ht
    apply (hidle ht).of_kept _ hs'
    apply hguar
    rw [ht] at htu
    exact htu.symm

end Exclusive

omit [DecidableEq ι] [DecidableEq υ] in
theorem calm_init (ports : υ → IntPort) (iors : ι → IntIor υ) (results : ι → IntResult)
    : (IntState.init ports iors results).Calm where
  exclusive i := by simp [IntState.init]
  arming i := by simp [IntState.init, IntSlot.zero]
  named i := by simp [IntState.init]
  live i := by simp [IntState.init]
  idle i := by simp [IntState.init, IntSlot.zero]

/--
In a run without resets that never arms an endpoint while a slot with an aborted request is armed
for it, no two slots are armed or arming for one endpoint, and no `PERIODIC_STOP` is for an endpoint
of another slot.
-/
theorem intRun_exclusive {ports : υ → IntPort} {iors : ι → IntIor υ} {results : ι → IntResult}
    {actions : List (Pool.Action UsbTask (IntCall ι υ) IntAnswer)}
    {marks : Trace (IntState ι υ) (IntMark ι υ)} {st : (intPool ι υ false).State}
    (hrun : (intPool ι υ false).run (.start _ (.init ports iors results)) actions
      = some (marks, st))
    (harms : ∀ m ∈ marks, m.1.ArmsFree m.2)
    : st.shared.Exclusive ∧ ∀ m ∈ marks, m.1.StopsAlone m.2 := by
  have hinit := calm_init ports iors results
  have hstart := Pool.Annotation.follows_start (P := intPool ι υ false) (A := exclusive)
    hinit.toSeparate (fun _ _ => hinit)
  have hfollows := Pool.Annotation.follows_run Exclusive.valid hstart hrun harms
  exact ⟨hfollows.2.inv.exclusive, hfollows.1⟩

end Worker

section Examples

/-- Slot 0 is free again and the request in slot 1 is armed when it is aborted. -/
def abortArmedRun : List (Pool.Action UsbTask (IntCall Nat Unit) IntAnswer) :=
  clientCall (.intXfer 0 (exampleIor 1)) :: clientCall (.intXfer 1 (exampleIor 2))
    :: clientCall (.abortIo 0)
    :: pollPass false ([] :: [exampleAnswer, exampleAnswer] :: List.replicate 30 [])
    ++ [clientCall (.abortIo 1)]

/-- The next request for the endpoint goes to slot 0, which is armed before slot 1 is stopped. -/
def armTwiceRun : List (Pool.Action UsbTask (IntCall Nat Unit) IntAnswer) :=
  abortArmedRun ++ clientCall (.intXfer 2 (exampleIor 2))
    :: pollPass false [[exampleAnswer, exampleAnswer]]

instance (m : IntMark Nat Unit) (s : IntState Nat Unit) : Decidable (m.ArmsFree s) :=
  match m with
  | .sends _ _ _ => .isTrue trivial
  | .arms i => inferInstanceAs (Decidable (∀ j, j ≠ i → _ → _ → _ → _ ≠ _))
  | .clears _ _ => .isTrue trivial

theorem intRun_not_exclusive
    : ∃ marks st, (intPool Nat Unit false).run (exampleStart false) armTwiceRun = some (marks, st)
        ∧ ¬st.shared.Exclusive := by
  have h : ((intPool Nat Unit false).run (exampleStart false) armTwiceRun).map (fun r =>
      (((r.2.shared.slots 0).armed, (r.2.shared.slots 1).armed),
        decide ((r.2.shared.slots 0).unit = (r.2.shared.slots 1).unit),
        decide ((r.2.shared.slots 0).armedCommand.endpointId
          = (r.2.shared.slots 1).armedCommand.endpointId)))
      = some ((true, true), true, true) := by
    decide +kernel
  rw [Option.map_eq_some_iff] at h
  obtain ⟨⟨marks, st⟩, hrun, hst⟩ := h
  simp only [Prod.mk.injEq, decide_eq_true_eq] at hst
  refine ⟨marks, st, hrun, ?_⟩
  intro hexclusive
  exact hexclusive 0 1 (by decide) (.inl hst.1.1) (.inl hst.1.2) hst.2.1 hst.2.2

theorem intRun_exclusive_armed
    : ∃ marks st, (intPool Nat Unit false).run (exampleStart false) abortArmedRun
          = some (marks, st)
        ∧ (st.shared.slots 1).armed
        ∧ st.shared.Exclusive ∧ ∀ m ∈ marks, m.1.StopsAlone m.2 := by
  have h : ((intPool Nat Unit false).run (exampleStart false) abortArmedRun).map (fun r =>
      (decide (∀ m ∈ r.1, m.1.ArmsFree m.2), (r.2.shared.slots 1).armed))
      = some (true, true) := by
    decide +kernel
  rw [Option.map_eq_some_iff] at h
  obtain ⟨⟨marks, st⟩, hrun, hst⟩ := h
  simp only [Prod.mk.injEq, decide_eq_true_eq] at hst
  exact ⟨marks, st, hrun, hst.2, intRun_exclusive hrun hst.1⟩

end Examples

end ZZUsb
