import ZZ9000.UsbPoseidon.IntSlots

/-!
This module contains the endpoints that the slots of pending interrupt requests are armed for, and
how `queue_int_ior` and `abort_io` keep them apart.
-/

namespace ZZUsb

variable {ι υ : Type}

-- device address, endpoint number and direction
abbrev EndpointId : Type := UInt8 × UInt16 × UInt8

def IntCommand.endpointId (cmd : IntCommand) : EndpointId :=
  (cmd.devAddr, cmd.endpoint &&& 0x0f, cmd.direction)

def IntIor.endpointId (ior : IntIor υ) : EndpointId :=
  (ior.devAddr, ior.intEndpointKey, if ior.directionIn then 0x80 else 0)

@[simp]
theorem IntIor.endpointId_fillIntArmCommand (ior : IntIor υ) (port : IntPort)
    : (ior.fillIntArmCommand port).endpointId = ior.endpointId := by
  simp only [fillIntArmCommand, fillSplitFields]
  split
  . rfl
  . split <;> rfl

theorem toUInt8_and_eq_iff (a b : UInt16)
    : a.toUInt8 &&& 0x0f = b.toUInt8 &&& 0x0f ↔ a &&& 0x0f = b &&& 0x0f := by
  have key (x : UInt16) : (x.toUInt8 &&& 0x0f).toNat = (x &&& 0x0f).toNat := by
    rw [UInt8.toNat_and, UInt16.toNat_and, UInt16.toNat_toUInt8]
    show x.toNat % 2 ^ 8 &&& (2 ^ 4 - 1) = x.toNat &&& (2 ^ 4 - 1)
    rw [Nat.and_two_pow_sub_one_eq_mod, Nat.and_two_pow_sub_one_eq_mod]
    omega
  rw [← UInt8.toNat_inj, ← UInt16.toNat_inj]
  rw [key, key]

theorem periodicEndpointMatches_iff (a b : IntCommand)
    : periodicEndpointMatches a.devAddr a.endpoint.toUInt8 a.direction b.devAddr
        b.endpoint.toUInt8 b.direction
        ↔
      a.endpointId = b.endpointId := by
  simp [periodicEndpointMatches, IntCommand.endpointId, toUInt8_and_eq_iff, and_assoc]

namespace IntSlot

/-- The slot is armed or arming. -/
def hot (slot : IntSlot ι υ) : Prop := slot.armed ∨ slot.armInProgress

/-- `queue_int_ior` sees the endpoint of the slot. -/
def live (slot : IntSlot ι υ) : Prop := slot.ior.isSome ∨ (slot.armed ∧ slot.abortReply = none)

@[simp]
theorem not_hot_zero : ¬(zero : IntSlot ι υ).hot := by
  simp [hot, zero]

@[simp]
theorem not_live_zero : ¬(zero : IntSlot ι υ).live := by
  simp [live, zero]

end IntSlot

namespace IntState

/-- The endpoint that `queue_int_ior` compares with -/
def slotEndpoint (s : IntState ι υ) (slot : IntSlot ι υ) : EndpointId :=
  match slot.ior with
  | none => slot.armedCommand.endpointId
  | some ior => (s.iors ior).endpointId

/-- No two slots are armed or arming for one endpoint. -/
def Exclusive (s : IntState ι υ) : Prop :=
  ∀ i j, i ≠ j → (s.slots i).hot → (s.slots j).hot → (s.slots i).unit = (s.slots j).unit →
    (s.slots i).armedCommand.endpointId ≠ (s.slots j).armedCommand.endpointId

/-- The `ARM` snapshot of the slot is for the endpoint of the request in it. -/
def Named (s : IntState ι υ) (slot : IntSlot ι υ) : Prop :=
  ∀ ior, slot.ior = some ior → slot.armedCommand.endpointId = (s.iors ior).endpointId

structure Separate (s : IntState ι υ) : Prop where
  exclusive : s.Exclusive
  arming : ∀ i, (s.slots i).armInProgress → (s.slots i).ior.isSome
  named : ∀ i, (s.slots i).hot → s.Named (s.slots i)
  live : ∀ i j, i ≠ j → (s.slots i).live → (s.slots j).live →
    (s.slots i).unit = (s.slots j).unit → s.slotEndpoint (s.slots i) ≠ s.slotEndpoint (s.slots j)

/-- What the worker relies on while it has released `zz_Lock`. -/
structure SlotsKept (s s' : IntState ι υ) : Prop where
  armed : ∀ i, (s'.slots i).armed = (s.slots i).armed
  armInProgress : ∀ i, (s'.slots i).armInProgress = (s.slots i).armInProgress
  hot : ∀ i, (s.slots i).hot →
    (s'.slots i).unit = (s.slots i).unit ∧ (s'.slots i).armedCommand = (s.slots i).armedCommand
  arming : ∀ i, (s.slots i).armInProgress → (s'.slots i).ior = (s.slots i).ior

theorem SlotsKept.of_eq {s s' : IntState ι υ} (h : s'.slots = s.slots) : SlotsKept s s' := by
  constructor <;> simp [h]

theorem SlotsKept.refl (s : IntState ι υ) : SlotsKept s s := .of_eq rfl

theorem SlotsKept.hot_iff {s s' : IntState ι υ} (h : SlotsKept s s') (i : Fin intPendingSlots)
    : (s'.slots i).hot ↔ (s.slots i).hot := by
  unfold IntSlot.hot
  rw [h.armed]
  rw [h.armInProgress]

theorem SlotsKept.trans {s s' s'' : IntState ι υ} (h : SlotsKept s s') (h' : SlotsKept s' s'')
    : SlotsKept s s'' where
  armed i := by
    rw [h'.armed]
    apply h.armed
  armInProgress i := by
    rw [h'.armInProgress]
    apply h.armInProgress
  hot i hi := by
    have := h.hot i hi
    have := h'.hot i ((h.hot_iff i).mpr hi)
    simp_all
  arming i hi := by
    rw [h'.arming i (by rw [h.armInProgress]; exact hi)]
    exact h.arming i hi

theorem Separate.congr {s s' : IntState ι υ} (h : s.Separate) (hslots : s'.slots = s.slots)
    (hiors : s'.iors = s.iors)
    : s'.Separate := by
  constructor
  . unfold Exclusive
    rw [hslots]
    exact h.exclusive
  . rw [hslots]
    exact h.arming
  . unfold Named
    rw [hslots]
    rw [hiors]
    exact h.named
  . unfold slotEndpoint
    rw [hslots]
    rw [hiors]
    exact h.live

/-- A new contents of slot `i` that stays apart from the other slots. -/
theorem Separate.modifySlot {s : IntState ι υ} (h : s.Separate) (i : Fin intPendingSlots)
    (f : IntSlot ι υ → IntSlot ι υ)
    (harming : (f (s.slots i)).armInProgress → (f (s.slots i)).ior.isSome)
    (hnamed : (f (s.slots i)).hot → s.Named (f (s.slots i)))
    (hhot : (f (s.slots i)).hot → ∀ j, j ≠ i → (s.slots j).hot →
      (f (s.slots i)).unit = (s.slots j).unit →
      (f (s.slots i)).armedCommand.endpointId ≠ (s.slots j).armedCommand.endpointId)
    (hlive : (f (s.slots i)).live → ∀ j, j ≠ i → (s.slots j).live →
      (f (s.slots i)).unit = (s.slots j).unit →
      s.slotEndpoint (f (s.slots i)) ≠ s.slotEndpoint (s.slots j))
    : (s.modifySlot i f).Separate := by
  constructor
  . intro j k hjk hj hk hunit
    simp only [IntState.modifySlot, Function.update_apply] at hj hk hunit ⊢
    split at hj
    . next hji =>
      have hki : k ≠ i := by rw [← hji]; exact hjk.symm
      simp only [hji, hki, ↓reduceIte] at hk hunit ⊢
      exact hhot hj k hki hk hunit
    . next hji =>
      split at hk
      . next hki =>
        simp only [hji, hki, ↓reduceIte] at hunit ⊢
        exact (hhot hk j hji hj hunit.symm).symm
      . next hki =>
        simp only [hji, hki, ↓reduceIte] at hunit ⊢
        exact h.exclusive j k hjk hj hk hunit
  . intro j hj
    simp only [IntState.modifySlot, Function.update_apply] at hj ⊢
    split
    . next hji => exact harming (by simpa [hji] using hj)
    . next hji => exact h.arming j (by simpa [hji] using hj)
  . intro j hj
    simp only [IntState.modifySlot, Function.update_apply] at hj ⊢
    split
    . next hji => exact hnamed (by simpa [hji] using hj)
    . next hji => exact h.named j (by simpa [hji] using hj)
  . intro j k hjk hj hk hunit
    simp only [IntState.modifySlot, Function.update_apply] at hj hk hunit ⊢
    split at hj
    . next hji =>
      have hki : k ≠ i := by rw [← hji]; exact hjk.symm
      simp only [hji, hki, ↓reduceIte] at hk hunit ⊢
      exact hlive hj k hki hk hunit
    . next hji =>
      split at hk
      . next hki =>
        simp only [hji, hki, ↓reduceIte] at hunit ⊢
        exact (hlive hk j hji hj hunit.symm).symm
      . next hki =>
        simp only [hji, hki, ↓reduceIte] at hunit ⊢
        exact h.live j k hjk hj hk hunit

/-- A new contents of slot `i` that is not armed or live unless the old one was. -/
theorem Separate.modifySlot_of_weaker {s : IntState ι υ} (h : s.Separate) (i : Fin intPendingSlots)
    (f : IntSlot ι υ → IntSlot ι υ)
    (harming : (f (s.slots i)).armInProgress → (f (s.slots i)).ior.isSome)
    (hnamed : (f (s.slots i)).hot → s.Named (f (s.slots i)))
    (hhot : (f (s.slots i)).hot → (s.slots i).hot ∧ (f (s.slots i)).unit = (s.slots i).unit
      ∧ (f (s.slots i)).armedCommand.endpointId = (s.slots i).armedCommand.endpointId)
    (hlive : (f (s.slots i)).live → (s.slots i).live ∧ (f (s.slots i)).unit = (s.slots i).unit
      ∧ s.slotEndpoint (f (s.slots i)) = s.slotEndpoint (s.slots i))
    : (s.modifySlot i f).Separate := by
  apply h.modifySlot i f harming hnamed
  . intro hi j hji hj hunit
    have hi := hhot hi
    rw [hi.2.2]
    rw [hi.2.1] at hunit
    exact h.exclusive i j hji.symm hi.1 hj hunit
  . intro hi j hji hj hunit
    have hi := hlive hi
    rw [hi.2.2]
    rw [hi.2.1] at hunit
    exact h.live i j hji.symm hi.1 hj hunit

theorem Separate.clearIntSlot {s : IntState ι υ} (h : s.Separate) (i : Fin intPendingSlots)
    : (s.clearIntSlot i).Separate := by
  apply h.modifySlot
  . simp [IntSlot.zero]
  . intro hi; exact absurd hi IntSlot.not_hot_zero
  . intro hi; exact absurd hi IntSlot.not_hot_zero
  . intro hi; exact absurd hi IntSlot.not_live_zero

theorem SlotsKept.modifySlot {s : IntState ι υ} (i : Fin intPendingSlots)
    (f : IntSlot ι υ → IntSlot ι υ) (harmed : (f (s.slots i)).armed = (s.slots i).armed)
    (harming : (f (s.slots i)).armInProgress = (s.slots i).armInProgress)
    (hhot : (s.slots i).hot → (f (s.slots i)).unit = (s.slots i).unit
      ∧ (f (s.slots i)).armedCommand = (s.slots i).armedCommand)
    (hior : (s.slots i).armInProgress → (f (s.slots i)).ior = (s.slots i).ior)
    : SlotsKept s (s.modifySlot i f) := by
  constructor
  all_goals
    intro j
    simp only [IntState.modifySlot, Function.update_apply]
    split
    . next hji =>
      rw [hji]
      assumption
    . simp

theorem not_hot_of_isFree {slot : IntSlot ι υ} (h : slot.isFree)
    (harming : slot.armInProgress → slot.ior.isSome)
    : ¬slot.hot := by
  simp only [IntSlot.isFree, Bool.and_eq_true, Option.isNone_iff_eq_none, Bool.not_eq_true'] at h
  simp_all [IntSlot.hot]

/-- What a client does to the slots while the worker has released `zz_Lock`. -/
structure ClientStep (s s' : IntState ι υ) : Prop where
  kept : SlotsKept s s'
  separate : s'.Separate

theorem ClientStep.of_eq {s s' : IntState ι υ} (h : s.Separate) (hslots : s'.slots = s.slots)
    (hiors : s'.iors = s.iors)
    : ClientStep s s' :=
  ⟨.of_eq hslots, h.congr hslots hiors⟩

theorem ClientStep.trans {s s' s'' : IntState ι υ} (h : ClientStep s s') (h' : ClientStep s' s'')
    : ClientStep s s'' :=
  ⟨h.kept.trans h'.kept, h'.separate⟩

section Clients

variable [DecidableEq υ]

theorem detachedIntSlotMatches_iff {s : IntState ι υ} {slot : IntSlot ι υ} {unit : υ} {ior : ι}
    : s.detachedIntSlotMatches slot unit ior
        ↔
      slot.ior = none ∧ slot.armed ∧ slot.abortReply = none ∧ slot.unit = some unit
        ∧ slot.armedCommand.endpointId = (s.iors ior).endpointId := by
  unfold detachedIntSlotMatches
  split
  . next h =>
    simp only [Bool.false_eq_true, false_iff]
    intro h'
    simp [h'.1, h'.2.1, h'.2.2.1, h'.2.2.2.1] at h
  . next h =>
    rw [periodicEndpointMatches_iff]
    rw [IntIor.endpointId_fillIntArmCommand]
    simp only [Bool.or_eq_true, Bool.not_eq_true', Option.isSome_iff_ne_none, ne_eq,
      decide_eq_true_eq, not_or, Bool.not_eq_false, Decidable.not_not] at h
    simp [h]

theorem intSlotMatches_iff {s : IntState ι υ} {slot : IntSlot ι υ} {unit : υ} {ior : ι}
    : s.intSlotMatches slot unit ior
        ↔
      slot.ior.isSome ∧ slot.unit = some unit
        ∧ s.slotEndpoint slot = (s.iors ior).endpointId := by
  unfold intSlotMatches slotEndpoint
  cases slot.ior with
  | none => simp
  | some pending =>
    have hdirection (a b : Bool)
        : ((if a then 0x80 else 0 : UInt8) = if b then 0x80 else 0) ↔ a = b := by
      cases a <;> cases b <;> decide
    simp [IntIor.endpointId, hdirection, and_assoc]

/-- What holds for the place that the loop of `queue_int_ior` finds in some of the slots. -/
def Suits (s : IntState ι υ) (unit : υ) (ior : ι) (indices : List (Fin intPendingSlots))
    (place : Place) : Prop :=
  match place with
  | .detached i => s.detachedIntSlotMatches (s.slots i) unit ior
  | .pending i => s.intSlotMatches (s.slots i) unit ior
  | .free i => (s.slots i).isFree ∧ ∀ j ∈ indices, (s.slots j).live →
      (s.slots j).unit = some unit → s.slotEndpoint (s.slots j) ≠ (s.iors ior).endpointId
  | .none => True

theorem Suits.cons {s : IntState ι υ} {unit : υ} {ior : ι} {i : Fin intPendingSlots}
    {indices : List (Fin intPendingSlots)} {place : Place} (h : s.Suits unit ior indices place)
    (hi : (s.slots i).live → (s.slots i).unit = some unit →
      s.slotEndpoint (s.slots i) ≠ (s.iors ior).endpointId)
    : s.Suits unit ior (i :: indices) place := by
  cases place with
  | detached j => exact h
  | pending j => exact h
  | free j =>
    refine ⟨h.1, ?_⟩
    intro k hk
    cases List.mem_cons.mp hk with
    | inl heq => rw [heq]; exact hi
    | inr hmem => exact h.2 k hmem
  | none => trivial

theorem apart_of_no_match {s : IntState ι υ} {slot : IntSlot ι υ} {unit : υ} {ior : ι}
    (hdetached : ¬s.detachedIntSlotMatches slot unit ior)
    (hpending : ¬s.intSlotMatches slot unit ior) (hlive : slot.live) (hunit : slot.unit = some unit)
    : s.slotEndpoint slot ≠ (s.iors ior).endpointId := by
  intro heq
  rw [detachedIntSlotMatches_iff] at hdetached
  rw [intSlotMatches_iff] at hpending
  cases hior : slot.ior with
  | none =>
    have harmed : slot.armed ∧ slot.abortReply = none := by
      simpa [IntSlot.live, hior] using hlive
    apply hdetached
    refine ⟨hior, harmed.1, harmed.2, hunit, ?_⟩
    simpa [slotEndpoint, hior] using heq
  | some pending => exact hpending ⟨by simp [hior], hunit, heq⟩

theorem suits_findPlace {s : IntState ι υ} {unit : υ} {ior : ι}
    {freeSlot : Option (Fin intPendingSlots)} {indices : List (Fin intPendingSlots)}
    (hfree : ∀ i, freeSlot = some i → (s.slots i).isFree)
    : s.Suits unit ior indices (s.findPlace unit ior freeSlot indices) := by
  induction indices generalizing freeSlot with
  | nil =>
    unfold findPlace
    cases freeSlot with
    | none => trivial
    | some i => exact ⟨hfree i rfl, by simp⟩
  | cons i indices ih =>
    unfold findPlace
    split
    . assumption
    . next hdetached =>
      split
      . assumption
      . next hpending =>
        have hi := apart_of_no_match hdetached hpending
        split
        . next h =>
          apply Suits.cons _ hi
          apply ih
          intro j hj
          rw [← Option.some_inj.mp hj]
          exact (Bool.and_eq_true_iff.mp h).1
        . exact (ih hfree).cons hi

theorem clientStep_reuse {s : IntState ι υ} {unit : υ} {ior : ι} {i : Fin intPendingSlots}
    (h : s.Separate) (hmatch : s.detachedIntSlotMatches (s.slots i) unit ior)
    (candidate : IntCommand)
    : ClientStep s (s.modifySlot i (·.reuse ior candidate)) := by
  rw [detachedIntSlotMatches_iff] at hmatch
  obtain ⟨hior, harmed, hreply, hunit, hendpoint⟩ := hmatch
  have harming : (s.slots i).armInProgress = false := by
    have := h.arming i
    rw [hior] at this
    simpa using this
  constructor
  . apply SlotsKept.modifySlot
    . rfl
    . rfl
    . intro _; exact ⟨rfl, rfl⟩
    . simp [harming]
  . apply h.modifySlot_of_weaker
    . simp [IntSlot.reuse]
    . intro _ r hr
      simp only [IntSlot.reuse, Option.some.injEq] at hr ⊢
      rw [← hr]
      exact hendpoint
    . intro hhot; exact ⟨hhot, rfl, rfl⟩
    . intro _
      refine ⟨.inr ⟨harmed, hreply⟩, rfl, ?_⟩
      simp [slotEndpoint, IntSlot.reuse, hior, hendpoint]

theorem clientStep_replace {s : IntState ι υ} {unit : υ} {ior : ι} {i : Fin intPendingSlots}
    (h : s.Separate) (hmatch : s.intSlotMatches (s.slots i) unit ior)
    (harming : (s.slots i).armInProgress = false) (rearm : Bool)
    : ClientStep s (s.modifySlot i (·.replace unit ior rearm)) := by
  rw [intSlotMatches_iff] at hmatch
  obtain ⟨hior, hunit, hendpoint⟩ := hmatch
  have hnamed : (s.slots i).hot →
      (s.slots i).armedCommand.endpointId = (s.iors ior).endpointId := by
    intro hhot
    rw [← hendpoint]
    have hname := h.named i hhot
    unfold Named at hname
    cases hpending : (s.slots i).ior with
    | none => simp [hpending] at hior
    | some pending =>
      rw [hname pending hpending]
      simp [slotEndpoint, hpending]
  constructor
  . apply SlotsKept.modifySlot
    . rfl
    . rfl
    . intro _; exact ⟨hunit.symm, rfl⟩
    . simp [harming]
  . apply h.modifySlot_of_weaker
    . simp [IntSlot.replace]
    . intro hhot r hr
      simp only [IntSlot.replace, Option.some.injEq] at hr ⊢
      rw [← hr]
      exact hnamed hhot
    . intro hhot; exact ⟨hhot, hunit.symm, rfl⟩
    . intro _
      refine ⟨.inl hior, hunit.symm, ?_⟩
      rw [hendpoint]
      rfl

omit [DecidableEq υ] in
theorem clientStep_occupy {s : IntState ι υ} {unit : υ} {ior : ι} {i : Fin intPendingSlots}
    (h : s.Separate) (hfree : (s.slots i).isFree)
    (hapart : ∀ j, (s.slots j).live → (s.slots j).unit = some unit →
      s.slotEndpoint (s.slots j) ≠ (s.iors ior).endpointId)
    : ClientStep s (s.modifySlot i (fun _ => .occupy unit ior)) := by
  have hcold := not_hot_of_isFree hfree (h.arming i)
  have hcold' : ¬(IntSlot.occupy unit ior).hot := by
    simp [IntSlot.occupy, IntSlot.hot, IntSlot.zero]
  simp only [IntSlot.hot, not_or, Bool.not_eq_true] at hcold
  constructor
  . apply SlotsKept.modifySlot
    . rw [hcold.1]; rfl
    . rw [hcold.2]; rfl
    . simp [IntSlot.hot, hcold]
    . simp [hcold]
  . apply h.modifySlot
    . simp [IntSlot.occupy]
    . intro hhot; exact absurd hhot hcold'
    . intro hhot; exact absurd hhot hcold'
    . intro _ j _ hj hunit
      apply Ne.symm
      exact hapart j hj hunit.symm

variable [DecidableEq ι]

theorem clientStep_queueIntIor {s s' : IntState ι υ} {unit : υ} {ior : ι} {replaced : Option ι}
    (h : s.Separate) (hqueue : s.queueIntIor unit ior = some (s', replaced))
    : ClientStep s s' := by
  have hplace : s.Suits unit ior (List.finRange intPendingSlots) _ :=
    suits_findPlace (by simp : ∀ i, none = some i → (s.slots i).isFree)
  unfold queueIntIor at hqueue
  split at hqueue
  . next i hi =>
    rw [hi] at hplace
    simp only [Option.some.injEq, Prod.mk.injEq] at hqueue
    rw [← hqueue.1]
    exact clientStep_reuse h hplace _
  . next i hi =>
    rw [hi] at hplace
    split at hqueue
    . contradiction
    . next hbusy =>
      simp only [Bool.or_eq_true, not_or, Bool.not_eq_true] at hbusy
      unfold replaceIor at hqueue
      split at hqueue
      . simp only [Option.some.injEq, Prod.mk.injEq] at hqueue
        rw [← hqueue.1]
        exact clientStep_replace h hplace hbusy.2 _
      . split at hqueue
        . simp only [Option.some.injEq, Prod.mk.injEq] at hqueue
          rw [← hqueue.1]
          exact clientStep_replace h hplace hbusy.2 _
        . next old _ _ =>
          simp only [Option.some.injEq, Prod.mk.injEq] at hqueue
          rw [← hqueue.1]
          have hresult : ClientStep s (s.setResult old 0 .aborted) := .of_eq h rfl rfl
          apply hresult.trans
          apply clientStep_replace
          . exact h.congr rfl rfl
          . exact hplace
          . exact hbusy.2
  . next i hi =>
    rw [hi] at hplace
    simp only [Option.some.injEq, Prod.mk.injEq] at hqueue
    rw [← hqueue.1]
    apply clientStep_occupy h hplace.1
    intro j
    exact hplace.2 j (List.mem_finRange j)
  . contradiction

theorem clientStep_intXfer {s : IntState ι υ} (h : s.Separate) (ior : ι)
    : ClientStep s (s.intXfer ior) := by
  unfold intXfer
  dsimp only
  split
  . exact .of_eq h rfl rfl
  . split
    . exact .of_eq h rfl rfl
    . split
      . exact .of_eq h rfl rfl
      . split
        . exact .of_eq h rfl rfl
        . next s' replaced hqueue =>
          have hstep := clientStep_queueIntIor h hqueue
          apply hstep.trans
          apply ClientStep.of_eq hstep.separate
          . cases replaced <;> rfl
          . cases replaced <;> rfl

omit [DecidableEq υ] in
/-- A request that the driver does not own may get new fields. -/
theorem clientStep_setIor {s : IntState ι υ} (h : s.Separate) {ior : ι} (fields : IntIor υ)
    (howns : ∀ i, (s.slots i).ior ≠ some ior)
    : ClientStep s { s with iors := Function.update s.iors ior fields } := by
  have hiors (i : Fin intPendingSlots) (r : ι) (hr : (s.slots i).ior = some r)
      : Function.update s.iors ior fields r = s.iors r := by
    apply Function.update_of_ne
    intro heq
    rw [heq] at hr
    exact howns i hr
  have hendpoint (i : Fin intPendingSlots)
      : slotEndpoint { s with iors := Function.update s.iors ior fields } (s.slots i)
          = s.slotEndpoint (s.slots i) := by
    unfold slotEndpoint
    split
    . rfl
    . next r hr =>
      show (Function.update s.iors ior fields r).endpointId = _
      rw [hiors i r hr]
  constructor
  . exact .of_eq rfl
  . constructor
    . exact h.exclusive
    . exact h.arming
    . intro i hi r hr
      show _ = (Function.update s.iors ior fields r).endpointId
      rw [hiors i r hr]
      exact h.named i hi r hr
    . intro i j hij hi hj hunit
      show slotEndpoint _ (s.slots i) ≠ slotEndpoint _ (s.slots j)
      rw [hendpoint i]
      rw [hendpoint j]
      exact h.live i j hij hi hj hunit

omit [DecidableEq υ] in
theorem ior_ne_of_not_owns {s : IntState ι υ} {ior : ι} (h : s.owns ior = false)
    (i : Fin intPendingSlots)
    : (s.slots i).ior ≠ some ior := by
  intro hior
  simp only [owns, Bool.or_eq_false_iff, List.any_eq_false] at h
  apply h.2 i (List.mem_finRange i)
  simp [IntSlot.refs, hior]

theorem clientStep_beginIntXfer {s : IntState ι υ} (h : s.Separate) {ior : ι} (fields : IntIor υ)
    (howns : s.owns ior = false)
    : ClientStep s (s.beginIntXfer ior fields) := by
  have hset := clientStep_setIor h fields (ior_ne_of_not_owns howns)
  apply hset.trans
  exact clientStep_intXfer hset.separate ior

omit [DecidableEq υ] in
theorem clientStep_abortIntSlot {s : IntState ι υ} (h : s.Separate) (i : Fin intPendingSlots)
    (ior : ι)
    : ClientStep s (s.abortIntSlot i ior) := by
  unfold abortIntSlot interruptAbortAfterRetire
  simp only [Bool.and_eq_true, Bool.or_eq_true, Bool.not_eq_true']
  split
  . next hretire =>
    constructor
    . apply SlotsKept.modifySlot
      . rfl
      . rfl
      . intro _; exact ⟨rfl, rfl⟩
      . simp [hretire]
    . apply h.modifySlot_of_weaker
      . simp [IntSlot.abortAfterRetire, hretire]
      . simp [Named, IntSlot.abortAfterRetire]
      . intro hhot; exact ⟨hhot, rfl, rfl⟩
      . simp [IntSlot.live, IntSlot.abortAfterRetire]
  . split
    . constructor
      . apply SlotsKept.modifySlot
        . rfl
        . rfl
        . intro _; exact ⟨rfl, rfl⟩
        . intro _; rfl
      . apply h.modifySlot_of_weaker
        . exact h.arming i
        . exact h.named i
        . intro hhot; exact ⟨hhot, rfl, rfl⟩
        . intro hlive; exact ⟨hlive, rfl, rfl⟩
    . next hcold =>
      simp only [not_or, Bool.not_eq_true] at hcold
      have hclear : ClientStep s (s.clearIntSlot i) := by
        constructor
        . apply SlotsKept.modifySlot
          . rw [hcold.1]; rfl
          . rw [hcold.2]; rfl
          . simp [IntSlot.hot, hcold]
          . simp [hcold]
        . exact h.clearIntSlot i
      apply hclear.trans
      exact .of_eq hclear.separate rfl rfl

theorem clientStep_abortIo {s : IntState ι υ} (h : s.Separate) (ior : ι)
    : ClientStep s (s.abortIo ior) := by
  unfold abortIo
  split
  . exact .of_eq h rfl rfl
  . next i _ =>
    split
    . exact clientStep_abortIntSlot h i ior
    . exact .of_eq h rfl rfl

end Clients

/-- A contents of slot `i` for the same endpoint, which is armed or arming only if the old one was. -/
theorem Separate.modifySlot_of_cooler {s : IntState ι υ} (h : s.Separate)
    (i : Fin intPendingSlots) (f : IntSlot ι υ → IntSlot ι υ)
    (hunit : (f (s.slots i)).unit = (s.slots i).unit)
    (hior : (f (s.slots i)).ior = (s.slots i).ior)
    (hreply : (f (s.slots i)).abortReply = (s.slots i).abortReply)
    (hcmd : (f (s.slots i)).armedCommand = (s.slots i).armedCommand)
    (harmed : (f (s.slots i)).armed → (s.slots i).armed)
    (harming : (f (s.slots i)).armInProgress → (s.slots i).armInProgress)
    : (s.modifySlot i f).Separate := by
  have hhot : (f (s.slots i)).hot → (s.slots i).hot := Or.imp harmed harming
  apply h.modifySlot_of_weaker
  . intro hi
    rw [hior]
    exact h.arming i (harming hi)
  . intro hi
    have := h.named i (hhot hi)
    simpa [Named, hior, hcmd] using this
  . intro hi
    exact ⟨hhot hi, hunit, by rw [hcmd]⟩
  . intro hi
    refine ⟨?_, hunit, by simp [slotEndpoint, hior, hcmd]⟩
    unfold IntSlot.live at hi ⊢
    rw [hior] at hi
    rw [hreply] at hi
    exact hi.imp_right (And.imp_left harmed)

/-- No other slot is armed or arming for the endpoint of slot `i`. -/
def Apart (s : IntState ι υ) (i : Fin intPendingSlots) : Prop :=
  ∀ j, j ≠ i → (s.slots j).hot → (s.slots i).unit = (s.slots j).unit →
    (s.slots i).armedCommand.endpointId ≠ (s.slots j).armedCommand.endpointId

theorem Separate.apart {s : IntState ι υ} (h : s.Separate) {i : Fin intPendingSlots}
    (hi : (s.slots i).hot)
    : s.Apart i :=
  fun j hji hj hunit => h.exclusive i j hji.symm hi hj hunit

/-- Arm a slot with a request. -/
theorem Separate.modifySlot_of_apart {s : IntState ι υ} (h : s.Separate) {i : Fin intPendingSlots}
    (hapart : s.Apart i) {ior : ι} (hior : (s.slots i).ior = some ior)
    (hnamed : s.Named (s.slots i)) (f : IntSlot ι υ → IntSlot ι υ)
    (hunit : (f (s.slots i)).unit = (s.slots i).unit)
    (hior' : (f (s.slots i)).ior = (s.slots i).ior)
    (hcmd : (f (s.slots i)).armedCommand.endpointId = (s.slots i).armedCommand.endpointId)
    : (s.modifySlot i f).Separate := by
  apply h.modifySlot
  . simp [hior', hior]
  . intro _
    simpa [Named, hior', hcmd] using hnamed
  . intro _ j hji hj hunit'
    rw [hcmd]
    rw [hunit] at hunit'
    exact hapart j hji hj hunit'
  . intro _ j hji hj hunit'
    rw [hunit] at hunit'
    have hi : (s.slots i).live := .inl (by simp [hior])
    have := h.live i j hji.symm hi hj hunit'
    simpa [slotEndpoint, hior', hior] using this

theorem Apart.congr {s s' : IntState ι υ} {i : Fin intPendingSlots} (h : s.Apart i)
    (hothers : ∀ j, j ≠ i → s'.slots j = s.slots j)
    (hunit : (s'.slots i).unit = (s.slots i).unit)
    (hcmd : (s'.slots i).armedCommand = (s.slots i).armedCommand)
    : s'.Apart i := by
  intro j hji
  rw [hothers j hji]
  rw [hunit]
  rw [hcmd]
  exact h j hji

/-- No slot that waits for the end of an aborted request is still armed for the endpoint of `i`. -/
def NoneAborted (s : IntState ι υ) (i : Fin intPendingSlots) : Prop :=
  ∀ j, j ≠ i → (s.slots j).armed → (s.slots j).abortReply.isSome →
    (s.slots j).unit = (s.slots i).unit →
    (s.slots j).armedCommand.endpointId ≠ (s.slots i).armedCommand.endpointId

/-- `queue_int_ior` keeps the endpoints of the requests apart, aborted requests aside. -/
theorem Separate.apart_of_noneAborted {s : IntState ι υ} (h : s.Separate)
    {i : Fin intPendingSlots} {ior : ι} (hior : (s.slots i).ior = some ior)
    (hnamed : s.Named (s.slots i)) (hnone : s.NoneAborted i)
    : s.Apart i := by
  have hi : (s.slots i).live := .inl (by simp [hior])
  have hendpoint : s.slotEndpoint (s.slots i) = (s.slots i).armedCommand.endpointId := by
    rw [hnamed ior hior]
    simp [slotEndpoint, hior]
  intro j hji hj hunit
  cases hpending : (s.slots j).ior with
  | some pending =>
    have hlive := h.live i j hji.symm hi (.inl (by simp [hpending])) hunit
    rw [hendpoint] at hlive
    rw [h.named j hj pending hpending]
    simpa [slotEndpoint, hpending] using hlive
  | none =>
    have harmed : (s.slots j).armed := by
      apply hj.resolve_right
      intro harming
      simpa [hpending] using h.arming j harming
    cases hreply : (s.slots j).abortReply with
    | some r => exact (hnone j hji harmed (by simp [hreply]) hunit.symm).symm
    | none =>
      have hlive := h.live i j hji.symm hi (.inr ⟨harmed, hreply⟩) hunit
      rw [hendpoint] at hlive
      simpa [slotEndpoint, hpending] using hlive

/-- No slot but the one that is stopped is armed or arming for the endpoint of the command. -/
def StopsAlone (s : IntState ι υ) (slot : Option (Fin intPendingSlots)) (unit : υ)
    (cmd : IntCommand) : Prop :=
  cmd.cmd = .periodicStop → ∀ j, slot ≠ some j → (s.slots j).hot → (s.slots j).unit = some unit →
    (s.slots j).armedCommand.endpointId ≠ cmd.endpointId

/-- The worker is not arming any slot. -/
structure Calm (s : IntState ι υ) : Prop extends s.Separate where
  idle : ∀ i, (s.slots i).armInProgress = false

theorem Calm.of_kept {s s' : IntState ι υ} (h : s.Calm) (hkept : SlotsKept s s')
    (hseparate : s'.Separate)
    : s'.Calm where
  toSeparate := hseparate
  idle i := by
    rw [hkept.armInProgress]
    exact h.idle i

theorem Calm.congr {s s' : IntState ι υ} (h : s.Calm) (hslots : s'.slots = s.slots)
    (hiors : s'.iors = s.iors)
    : s'.Calm :=
  h.of_kept (.of_eq hslots) (h.toSeparate.congr hslots hiors)

theorem Calm.clearIntSlot {s : IntState ι υ} (h : s.Calm) (i : Fin intPendingSlots)
    : (s.clearIntSlot i).Calm where
  toSeparate := h.toSeparate.clearIntSlot i
  idle j := by
    simp only [IntState.clearIntSlot, IntState.modifySlot, Function.update_apply]
    split
    . rfl
    . exact h.idle j

theorem Calm.modifySlot {s : IntState ι υ} {i : Fin intPendingSlots} {f : IntSlot ι υ → IntSlot ι υ}
    (h : ∀ j, j ≠ i → (s.slots j).armInProgress = false)
    (hi : (f (s.slots i)).armInProgress = false) (hseparate : (s.modifySlot i f).Separate)
    : (s.modifySlot i f).Calm where
  toSeparate := hseparate
  idle j := by
    simp only [IntState.modifySlot, Function.update_apply]
    split
    . exact hi
    . next hji => exact h j hji

/-- The worker changes flags of a slot. -/
theorem Calm.modifySlot_of_cooler {s : IntState ι υ} (h : s.Calm) (i : Fin intPendingSlots)
    (f : IntSlot ι υ → IntSlot ι υ) (hunit : (f (s.slots i)).unit = (s.slots i).unit)
    (hior : (f (s.slots i)).ior = (s.slots i).ior)
    (hreply : (f (s.slots i)).abortReply = (s.slots i).abortReply)
    (hcmd : (f (s.slots i)).armedCommand = (s.slots i).armedCommand)
    (harmed : (f (s.slots i)).armed → (s.slots i).armed)
    (harming : (f (s.slots i)).armInProgress = (s.slots i).armInProgress)
    : (s.modifySlot i f).Calm := by
  apply Calm.modifySlot
  . intro j _
    exact h.idle j
  . rw [harming]
    exact h.idle i
  . apply h.toSeparate.modifySlot_of_cooler i f hunit hior hreply hcmd harmed
    rw [harming]
    exact id

end IntState

end ZZUsb
