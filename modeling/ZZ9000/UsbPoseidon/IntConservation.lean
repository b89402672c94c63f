import ZZ9000.UsbPoseidon.IntEndpoints
import ZZ9000.UsbPoseidon.IntPoll

/-!
This module contains the conservation of interrupt requests: as long as no slot is cleared that has
got another request while its command was sent, every request that the driver accepts is in one
field of one slot until it is replied once.
-/

namespace ZZUsb

open Concurrency
open Concurrency.Coroutine

variable {ι υ : Type} [DecidableEq ι]

namespace IntState

/-- How many fields of slots refer to the request. -/
def slotRefs (s : IntState ι υ) (ior : ι) : Nat := total (fun slot => slot.refs.count ior) s.slots

/--
Every accepted request has been replied or is in exactly one place: a field of a slot, or the
`aborted_replies` that a client in `CMD_FLUSH` replies before it returns.
-/
structure Conserved (s : IntState ι υ) : Prop where
  balance : ∀ ior,
    s.accepted ior = s.replied ior + (s.slotRefs ior + s.abortedReplies.count ior)
  once : ∀ ior, s.slotRefs ior + s.abortedReplies.count ior ≤ 1
  collected : (∀ n, s.primaryMailboxLock ≠ some (.client n)) → s.abortedReplies = []

/-- The requests in `owed` have been taken out of their slots and are about to be replied. -/
structure Accounted (owed : List ι) (s : IntState ι υ) : Prop where
  balance : ∀ ior, s.accepted ior
    = s.replied ior + (s.slotRefs ior + s.abortedReplies.count ior + owed.count ior)
  once : ∀ ior, s.slotRefs ior + s.abortedReplies.count ior + owed.count ior ≤ 1
  collected : (∀ n, s.primaryMailboxLock ≠ some (.client n)) → s.abortedReplies = []
  single : ∀ i, (s.slots i).ior = none ∨ (s.slots i).abortReply = none

theorem Accounted.conserved {s : IntState ι υ} (h : s.Accounted []) : s.Conserved where
  balance := by simpa using h.balance
  once := by simpa using h.once
  collected := h.collected

theorem Accounted.congr {owed : List ι} {s s' : IntState ι υ} (h : s.Accounted owed)
    (hslots : s'.slots = s.slots) (haccepted : s'.accepted = s.accepted)
    (hreplied : s'.replied = s.replied) (haborted : s'.abortedReplies = s.abortedReplies)
    (hlock : s'.primaryMailboxLock = s.primaryMailboxLock)
    : s'.Accounted owed := by
  constructor
  . unfold slotRefs
    rw [hslots]
    rw [haccepted]
    rw [hreplied]
    rw [haborted]
    exact h.balance
  . unfold slotRefs
    rw [hslots]
    rw [haborted]
    exact h.once
  . rw [hlock]
    rw [haborted]
    exact h.collected
  . rw [hslots]
    exact h.single

theorem slotRefs_modifySlot (s : IntState ι υ) (i : Fin intPendingSlots)
    (f : IntSlot ι υ → IntSlot ι υ) (ior : ι)
    : (s.modifySlot i f).slotRefs ior + (s.slots i).refs.count ior
        =
      s.slotRefs ior + (f (s.slots i)).refs.count ior := by
  apply total_update

theorem Accounted.modifySlot {owed : List ι} {s : IntState ι υ} (h : s.Accounted owed)
    (i : Fin intPendingSlots) (f : IntSlot ι υ → IntSlot ι υ)
    (hior : (f (s.slots i)).ior = (s.slots i).ior)
    (hreply : (f (s.slots i)).abortReply = (s.slots i).abortReply)
    : (s.modifySlot i f).Accounted owed := by
  have hrefs (ior : ι) : (s.modifySlot i f).slotRefs ior = s.slotRefs ior := by
    have := slotRefs_modifySlot s i f ior
    simp only [IntSlot.refs, hior, hreply] at this
    omega
  constructor
  . intro ior
    rw [hrefs]
    exact h.balance ior
  . intro ior
    rw [hrefs]
    exact h.once ior
  . exact h.collected
  . intro j
    simp only [IntState.modifySlot, Function.update_apply]
    split
    . rw [hior]
      rw [hreply]
      exact h.single i
    . exact h.single j

theorem refs_of_ior {owed : List ι} {s : IntState ι υ} (h : s.Accounted owed)
    {i : Fin intPendingSlots} {ior : ι} (hior : (s.slots i).ior = some ior)
    : (s.slots i).refs = [ior] := by
  have := h.single i
  simp_all [IntSlot.refs]

/-- Take the requests out of slot `i`. -/
theorem Accounted.take {owed : List ι} {s : IntState ι υ} (h : s.Accounted owed)
    (i : Fin intPendingSlots) (f : IntSlot ι υ → IntSlot ι υ) (hf : (f (s.slots i)).refs = [])
    : (s.modifySlot i f).Accounted (owed ++ (s.slots i).refs) := by
  have hrefs (ior : ι) : (s.modifySlot i f).slotRefs ior + (s.slots i).refs.count ior
      = s.slotRefs ior := by
    have := slotRefs_modifySlot s i f ior
    simpa [hf] using this
  constructor
  . intro ior
    have := hrefs ior
    have := h.balance ior
    rw [List.count_append]
    show s.accepted ior = s.replied ior + (_ + s.abortedReplies.count ior + _)
    omega
  . intro ior
    have := hrefs ior
    have := h.once ior
    rw [List.count_append]
    show _ + s.abortedReplies.count ior + _ ≤ 1
    omega
  . exact h.collected
  . intro j
    simp only [IntState.modifySlot, Function.update_apply]
    split
    . left
      simp only [IntSlot.refs, List.append_eq_nil_iff] at hf
      simpa using hf.1
    . exact h.single j

theorem Accounted.clearIntSlot {owed : List ι} {s : IntState ι υ} (h : s.Accounted owed)
    (i : Fin intPendingSlots)
    : (s.clearIntSlot i).Accounted (owed ++ (s.slots i).refs) :=
  h.take i _ rfl

theorem Accounted.replyMsg {ior : ι} {owed : List ι} {s : IntState ι υ}
    (h : s.Accounted (ior :: owed))
    : (s.replyMsg ior).Accounted owed := by
  constructor
  . intro r
    have := h.balance r
    show s.accepted r = (s.replyMsg ior).replied r
      + (s.slotRefs r + s.abortedReplies.count r + owed.count r)
    simp only [IntState.replyMsg, Function.update_apply]
    rw [List.count_cons] at this
    split
    . next heq =>
      simp only [heq, beq_self_eq_true, ↓reduceIte] at this ⊢
      omega
    . next hne =>
      simp only [beq_eq_false_iff_ne.mpr (Ne.symm hne), Bool.false_eq_true, ↓reduceIte] at this
      exact this
  . intro r
    have := h.once r
    rw [List.count_cons] at this
    show s.slotRefs r + s.abortedReplies.count r + owed.count r ≤ 1
    omega
  . exact h.collected
  . exact h.single

theorem Accounted.replyAll {iors owed : List ι} {s : IntState ι υ}
    (h : s.Accounted (iors ++ owed))
    : (s.replyAll iors).Accounted owed := by
  unfold IntState.replyAll
  induction iors generalizing s with
  | nil => exact h
  | cons ior iors ih =>
    rw [List.foldl_cons]
    apply ih
    exact h.replyMsg

/-- How often the requests have been replied after replying some of them -/
def repliedAfter (replied : ι → Nat) (iors : List ι) : ι → Nat :=
  iors.foldl (fun replied ior => Function.update replied ior (replied ior + 1)) replied

theorem replyAll_eq (s : IntState ι υ) (iors : List ι)
    : s.replyAll iors = { s with replied := repliedAfter s.replied iors } := by
  unfold IntState.replyAll repliedAfter
  induction iors generalizing s with
  | nil => rfl
  | cons ior iors ih =>
    rw [List.foldl_cons]
    rw [ih]
    rfl

/-- Move a request that is owed to `aborted_replies`, where it has room. -/
theorem Accounted.collect {s : IntState ι υ} {pending : Option ι}
    (h : s.Accounted pending.toList) (hlength : s.abortedReplies.length < abortedReplySlots)
    {n : Nat} (hlock : s.primaryMailboxLock = some (.client n))
    : (s.collect pending).Accounted [] := by
  unfold IntState.collect
  rw [if_pos hlength]
  constructor
  . intro ior
    have := h.balance ior
    show s.accepted ior = s.replied ior
      + (s.slotRefs ior + (s.abortedReplies ++ pending.toList).count ior + 0)
    rw [List.count_append]
    omega
  . intro ior
    have := h.once ior
    show s.slotRefs ior + (s.abortedReplies ++ pending.toList).count ior + 0 ≤ 1
    rw [List.count_append]
    omega
  . intro hnone
    exact absurd hlock (hnone n)
  . exact h.single

/-- Reply what is collected in `aborted_replies`. -/
theorem Accounted.drain {s : IntState ι υ} (h : s.Accounted [])
    : Accounted [] { (s.replyAll s.abortedReplies).releasePrimary with abortedReplies := [] } := by
  have howed : Accounted (s.abortedReplies ++ [])
      ({ s with abortedReplies := [], primaryMailboxLock := none } : IntState ι υ) := by
    constructor
    . intro ior
      have := h.balance ior
      simp only [List.append_nil, List.count_nil] at this ⊢
      show s.accepted ior = s.replied ior + (s.slotRefs ior + 0 + s.abortedReplies.count ior)
      omega
    . intro ior
      have := h.once ior
      simp only [List.append_nil, List.count_nil] at this ⊢
      show s.slotRefs ior + 0 + s.abortedReplies.count ior ≤ 1
      omega
    . intro _
      rfl
    . exact h.single
  have := howed.replyAll
  rw [replyAll_eq] at this ⊢
  exact this

theorem Accounted.replyNow {ior : Option ι} {s : IntState ι υ} (h : s.Accounted ior.toList)
    : (s.replyNow ior).Accounted [] := by
  cases ior with
  | none => exact h
  | some ior => exact h.replyMsg

theorem not_held_of_not_owns {s : IntState ι υ} {ior : ι} (h : s.owns ior = false)
    : s.slotRefs ior = 0 ∧ s.abortedReplies.count ior = 0 := by
  simp only [owns, Bool.or_eq_false_iff, List.any_eq_false, List.contains_eq_mem,
    decide_eq_false_iff_not] at h
  refine ⟨?_, List.count_eq_zero.mpr h.1⟩
  apply total_eq_zero
  intro j
  apply List.count_eq_zero.mpr
  simpa using h.2 j (List.mem_finRange j)

/-- Put an accepted request into slot `i`, whose requests are then owed. -/
theorem Accounted.put {s : IntState ι υ} (h : s.Accounted []) {ior : ι} (hnew : s.owns ior = false)
    (i : Fin intPendingSlots) (f : IntSlot ι υ → IntSlot ι υ)
    (hior : (f (s.slots i)).ior = some ior) (hreply : (f (s.slots i)).abortReply = none)
    : ((s.modifySlot i f).accept ior).Accounted (s.slots i).refs := by
  have hslot : (f (s.slots i)).refs = [ior] := by simp [IntSlot.refs, hior, hreply]
  have hrefs (r : ι) := slotRefs_modifySlot s i f r
  simp only [hslot] at hrefs
  have howns := not_held_of_not_owns hnew
  constructor
  . intro r
    have hbalance := h.balance r
    have hr := hrefs r
    show ((s.modifySlot i f).accept ior).accepted r = s.replied r
      + ((s.modifySlot i f).slotRefs r + s.abortedReplies.count r + (s.slots i).refs.count r)
    simp only [accept, Function.update_apply, List.count_singleton] at hr ⊢
    simp only [List.count_nil] at hbalance
    split
    . next heq =>
      simp only [heq, beq_self_eq_true, ↓reduceIte] at hr hbalance ⊢
      show s.accepted ior + 1 = _
      omega
    . next hne =>
      simp only [beq_eq_false_iff_ne.mpr (Ne.symm hne), Bool.false_eq_true, ↓reduceIte] at hr
      show s.accepted r = _
      omega
  . intro r
    have honce := h.once r
    have hr := hrefs r
    show (s.modifySlot i f).slotRefs r + s.abortedReplies.count r + (s.slots i).refs.count r ≤ 1
    simp only [List.count_singleton, List.count_nil] at hr honce
    by_cases heq : r = ior
    . simp only [heq, beq_self_eq_true, ↓reduceIte] at hr ⊢
      omega
    . simp only [beq_eq_false_iff_ne.mpr (Ne.symm heq), Bool.false_eq_true, ↓reduceIte] at hr
      omega
  . exact h.collected
  . intro j
    show ((s.modifySlot i f).slots j).ior = none ∨ _
    simp only [accept, IntState.modifySlot, Function.update_apply]
    split
    . exact .inr hreply
    . exact h.single j

theorem Accounted.abortIntSlot {s : IntState ι υ} (h : s.Accounted []) {i : Fin intPendingSlots}
    {ior : ι} (hior : (s.slots i).ior = some ior)
    : (s.abortIntSlot i ior).Accounted [] := by
  have hrefs := refs_of_ior h hior
  unfold IntState.abortIntSlot
  dsimp only
  split
  . have hsame : ((s.slots i).abortAfterRetire ior).refs = (s.slots i).refs := by
      rw [hrefs]
      rfl
    have hslotRefs (r : ι)
        : (s.modifySlot i (·.abortAfterRetire ior)).slotRefs r = s.slotRefs r := by
      have := slotRefs_modifySlot s i (·.abortAfterRetire ior) r
      simp only [hsame] at this
      omega
    constructor
    . intro r
      rw [hslotRefs]
      exact h.balance r
    . intro r
      rw [hslotRefs]
      exact h.once r
    . exact h.collected
    . intro j
      simp only [IntState.modifySlot, Function.update_apply]
      split
      . exact .inl rfl
      . exact h.single j
  . split
    . apply h.modifySlot <;> rfl
    . have hclear := h.clearIntSlot i
      rw [hrefs] at hclear
      have hresult : ((s.clearIntSlot i).setResult ior 0 .aborted).Accounted [ior] :=
        hclear.congr rfl rfl rfl rfl rfl
      exact hresult.replyMsg

theorem Accounted.abortIo [DecidableEq υ] {s : IntState ι υ} (h : s.Accounted []) (ior : ι)
    : (s.abortIo ior).Accounted [] := by
  unfold IntState.abortIo
  split
  . exact h.congr rfl rfl rfl rfl rfl
  . next i hi =>
    split
    . apply h.abortIntSlot
      have := List.find?_some hi
      simpa using this
    . exact h.congr rfl rfl rfl rfl rfl

theorem Accounted.finishReset [DecidableEq υ] {s : IntState ι υ} (h : s.Accounted []) (unit : υ)
    : (s.finishResetPeriodicForUnit unit).Accounted [] := by
  have hrefs (r : ι) : (s.finishResetPeriodicForUnit unit).slotRefs r = s.slotRefs r := by
    unfold slotRefs total
    apply Finset.sum_congr rfl
    intro i _
    simp only [finishResetPeriodicForUnit]
    split <;> rfl
  constructor
  . intro r
    rw [hrefs]
    exact h.balance r
  . intro r
    rw [hrefs]
    exact h.once r
  . exact h.collected
  . intro i
    simp only [finishResetPeriodicForUnit]
    split <;> exact h.single i

section Queue

variable [DecidableEq υ]

omit [DecidableEq υ] in
theorem Accounted.replaceIor {s : IntState ι υ} (h : s.Accounted []) (unit : υ) {ior : ι}
    (hnew : s.owns ior = false) {i : Fin intPendingSlots} (hior : (s.slots i).ior.isSome)
    : (((s.replaceIor unit ior i).1.accept ior).replyNow (s.replaceIor unit ior i).2).Accounted []
      := by
  have hreply : (s.slots i).abortReply = none := by
    apply (h.single i).resolve_left
    intro hnone
    simp [hnone] at hior
  have hput (s' : IntState ι υ) (hs' : s'.Accounted []) (hslots : s'.slots = s.slots)
      (hnew : s'.owns ior = false) (rearm : Bool)
      : ((s'.modifySlot i (·.replace unit ior rearm)).accept ior).Accounted (s.slots i).refs := by
    rw [← hslots]
    apply hs'.put hnew
    . rfl
    . rw [hslots]
      exact hreply
  unfold IntState.replaceIor
  split
  . next hnone => simp [hnone] at hior
  . next old hold =>
    have hrefs : (s.slots i).refs = [old] := refs_of_ior h hold
    split
    . next heq =>
      rw [heq] at hold
      exact absurd hold (ior_ne_of_not_owns hnew i)
    . dsimp only
      have hs' : (s.setResult old 0 .aborted).Accounted [] := h.congr rfl rfl rfl rfl rfl
      have := hput _ hs' rfl hnew (interruptRearmOnReplace (s.slots i).armed
        (s.iors ior).directionIn (s.intArmParametersChanged unit old ior))
      rw [hrefs] at this
      exact this.replyMsg

theorem Accounted.queueIntIor {s s' : IntState ι υ} (h : s.Accounted []) {unit : υ} {ior : ι}
    (hnew : s.owns ior = false) {replaced : Option ι}
    (hqueue : s.queueIntIor unit ior = some (s', replaced))
    : ((s'.accept ior).replyNow replaced).Accounted [] := by
  have hplace : s.Suits unit ior (List.finRange intPendingSlots) _ :=
    suits_findPlace (by simp : ∀ i, none = some i → (s.slots i).isFree)
  unfold IntState.queueIntIor at hqueue
  split at hqueue
  . next i hi =>
    rw [hi] at hplace
    have hmatch := detachedIntSlotMatches_iff.mp hplace
    simp only [Option.some.injEq, Prod.mk.injEq] at hqueue
    rw [← hqueue.1]
    rw [← hqueue.2]
    have hput := h.put hnew i
      (·.reuse ior ((s.iors ior).fillIntArmCommand (s.ports unit))) rfl hmatch.2.2.1
    have hrefs : (s.slots i).refs = [] := by simp [IntSlot.refs, hmatch.1, hmatch.2.2.1]
    rw [hrefs] at hput
    exact hput
  . next i hi =>
    rw [hi] at hplace
    have hmatch := intSlotMatches_iff.mp hplace
    split at hqueue
    . contradiction
    . simp only [Option.some.injEq] at hqueue
      have := h.replaceIor unit hnew hmatch.1
      rw [hqueue] at this
      exact this
  . next i hi =>
    rw [hi] at hplace
    have hfree := hplace.1
    simp only [IntSlot.isFree, Bool.and_eq_true, Option.isNone_iff_eq_none] at hfree
    simp only [Option.some.injEq, Prod.mk.injEq] at hqueue
    rw [← hqueue.1]
    rw [← hqueue.2]
    have hput := h.put hnew i (fun _ => .occupy unit ior) rfl rfl
    have hrefs : (s.slots i).refs = [] := by simp [IntSlot.refs, hfree.1.1, hfree.1.2]
    rw [hrefs] at hput
    exact hput
  . contradiction

theorem Accounted.intXfer {s : IntState ι υ} (h : s.Accounted []) {ior : ι}
    (hnew : s.owns ior = false)
    : (s.intXfer ior).Accounted [] := by
  unfold IntState.intXfer
  dsimp only
  split
  . exact h
  . split
    . exact h.congr rfl rfl rfl rfl rfl
    . split
      . exact h.congr rfl rfl rfl rfl rfl
      . split
        . exact h.congr rfl rfl rfl rfl rfl
        . next hqueue => exact h.queueIntIor hnew hqueue

theorem Accounted.beginIntXfer {s : IntState ι υ} (h : s.Accounted []) {ior : ι}
    (fields : IntIor υ) (hnew : s.owns ior = false)
    : (s.beginIntXfer ior fields).Accounted [] := by
  have hs : Accounted [] { s with iors := Function.update s.iors ior fields } :=
    h.congr rfl rfl rfl rfl rfl
  exact hs.intXfer hnew

theorem Accounted.abortOffline (unit : υ) {p : IntState ι υ × List ι} (h : p.1.Accounted p.2)
    {i : Fin intPendingSlots} (hlength : p.2.length < abortedReplySlots)
    : (abortOffline unit p i).1.Accounted (abortOffline unit p i).2
        ∧ (IntState.abortOffline unit p i).2.length ≤ p.2.length + 1 := by
  unfold IntState.abortOffline
  split
  . exact ⟨h, by omega⟩
  . next ior hior =>
    split
    . dsimp only
      have hclear := h.clearIntSlot i
      rw [refs_of_ior h hior] at hclear
      exact ⟨hclear.congr rfl rfl rfl rfl rfl, by simp⟩
    . exact ⟨h, by omega⟩

/-- `aborted_replies` has room for the requests in all slots. -/
theorem Accounted.abortIntIorsOffline {s : IntState ι υ} (h : s.Accounted []) (unit : υ)
    : (s.abortIntIorsOffline unit).1.Accounted (s.abortIntIorsOffline unit).2 := by
  have hfold (indices : List (Fin intPendingSlots)) (p : IntState ι υ × List ι)
      (hp : p.1.Accounted p.2) (hlength : p.2.length + indices.length ≤ abortedReplySlots)
      : (indices.foldl (IntState.abortOffline unit) p).1.Accounted
          (indices.foldl (IntState.abortOffline unit) p).2 := by
    induction indices generalizing p with
    | nil => exact hp
    | cons i indices ih =>
      rw [List.length_cons] at hlength
      have hstep := hp.abortOffline unit (i := i) (by omega)
      rw [List.foldl_cons]
      apply ih _ hstep.1
      have := hstep.2
      omega
  apply hfold _ _ h
  rw [List.length_finRange]
  show 0 + intPendingSlots ≤ intPendingSlots + 1 + 16
  omega

end Queue

/-- What a task that holds `PrimaryMailboxLock` relies on. -/
structure LockKept (t : UsbTask) (s s' : IntState ι υ) : Prop where
  lock : s'.primaryMailboxLock = some t ↔ s.primaryMailboxLock = some t
  aborted : s.primaryMailboxLock = some t → s'.abortedReplies = s.abortedReplies

omit [DecidableEq ι]

theorem LockKept.of_eq {t : UsbTask} {s s' : IntState ι υ}
    (hlock : s'.primaryMailboxLock = s.primaryMailboxLock)
    (haborted : s'.abortedReplies = s.abortedReplies)
    : LockKept t s s' := by
  constructor
  . rw [hlock]
  . intro _
    exact haborted

theorem LockKept.refl (t : UsbTask) (s : IntState ι υ) : LockKept t s s := .of_eq rfl rfl

theorem LockKept.trans {t : UsbTask} {s s' s'' : IntState ι υ} (h : LockKept t s s')
    (h' : LockKept t s' s'')
    : LockKept t s s'' where
  lock := h'.lock.trans h.lock
  aborted hlock := by
    rw [h'.aborted (h.lock.mpr hlock)]
    exact h.aborted hlock

end IntState

def IntMark.ClearsReplied (m : IntMark ι υ) (s : IntState ι υ) : Prop :=
  match m with
  | .clears i reply => (s.slots i).refs = reply.toList
  | _ => True

section Tasks

variable [DecidableEq υ]

def conservation : Pool.Annotation (intPool ι υ true) where
  inv := IntState.Accounted []
  assume := IntMark.ClearsReplied
  assert _ _ := True
  park t w s := w.left.LockKept t s
  idle t s := s.primaryMailboxLock ≠ some t
  guar t s s' := ∀ u, u ≠ t → s.LockKept u s'

namespace Conservation

open IntState

variable {t : UsbTask} {s₀ s : IntState ι υ}

theorem guar_trans {s' : IntState ι υ} (h : conservation.guar t s₀ s)
    (h' : conservation.guar t s s')
    : conservation.guar t s₀ s' :=
  fun u hu => (h u hu).trans (h' u hu)

theorem guar_of_eq {s' : IntState ι υ} (hlock : s'.primaryMailboxLock = s.primaryMailboxLock)
    (haborted : s'.abortedReplies = s.abortedReplies)
    : conservation.guar t s s' :=
  fun _ _ => .of_eq hlock haborted

/-- What a task changes of the locks and `aborted_replies` while it may hold the locks itself. -/
theorem guar_of_mine {s' : IntState ι υ}
    (h : s.primaryMailboxLock = none ∨ s.primaryMailboxLock = some t)
    (h' : s'.primaryMailboxLock = none ∨ s'.primaryMailboxLock = some t)
    : conservation.guar t s s' := by
  intro u hu
  have hne (lock : Option UsbTask) (hlock : lock = none ∨ lock = some t) : lock ≠ some u := by
    cases hlock with
    | inl hlock => simp [hlock]
    | inr hlock => simp [hlock, hu.symm]
  constructor
  . simp [hne _ h, hne _ h']
  . intro hlock
    exact absurd hlock (hne _ h)

theorem wp_releaseLock {wait : IntWait} {Q : Unit → IntState ι υ → IntState ι υ → Prop}
    (h : s.Accounted []) (hguar : conservation.guar t s₀ s)
    (hQ : ∀ s', s.LockKept t s' → s'.Accounted [] → (IntWindow.mk wait s).canResume t s' →
      Q () s' s')
    : (releaseLock wait).wp (conservation.contract t) Q s₀ s := by
  unfold releaseLock
  rw [wp_bind, wp_read, wp_pause]
  refine ⟨hguar, ⟨.refl t s, h⟩, ?_⟩
  intro s' hwake
  exact hQ s' hwake.1 hwake.2.1 hwake.2.2

/-- How the task `t` leaves the state when it has sent a command. -/
structure Sent (t : UsbTask) (s s₀ s' : IntState ι υ) : Prop where
  accounted : s'.Accounted []
  kept : s.LockKept t s'
  guar : conservation.guar t s₀ s'

theorem Sent.congr {s' s'' : IntState ι υ} (h : Sent t s s₀ s') (hslots : s''.slots = s'.slots)
    (haccepted : s''.accepted = s'.accepted) (hreplied : s''.replied = s'.replied)
    (haborted : s''.abortedReplies = s'.abortedReplies)
    (hlock : s''.primaryMailboxLock = s'.primaryMailboxLock)
    : Sent t s s₀ s'' where
  accounted := h.accounted.congr hslots haccepted hreplied haborted hlock
  kept := h.kept.trans (.of_eq hlock haborted)
  guar := guar_trans h.guar (guar_of_eq hlock haborted)

theorem Sent.of_kept {s₁ s' : IntState ι υ} (hkept : s.LockKept t s₁) (h : Sent t s₁ s₀ s')
    : Sent t s s₀ s' where
  accounted := h.accounted
  kept := hkept.trans h.kept
  guar := h.guar

theorem guar_refl : conservation.guar t s s := guar_of_eq rfl rfl

theorem wp_receiveUsbCmd {unit : υ} {a : IntAnswer}
    {Q : IntReply → IntState ι υ → IntState ι υ → Prop} (h : s.Accounted [])
    (hguar : conservation.guar t s₀ s) (hQ : ∀ reply s₀ s', Sent t s s₀ s' → Q reply s₀ s')
    : (receiveUsbCmd unit a).wp (conservation.contract t) Q s₀ s := by
  have hsent : Sent t s s₀ s := ⟨h, .refl t s, hguar⟩
  unfold receiveUsbCmd
  split
  . rw [wp_bind, wp_modify, wp_pure]
    exact hQ _ _ _ (hsent.congr rfl rfl rfl rfl rfl)
  . rw [wp_pure]
    exact hQ _ _ _ hsent

theorem wp_sendUsbCmdWire {unit : υ} {Q : IntReply → IntState ι υ → IntState ι υ → Prop}
    (h : s.Accounted []) (hguar : conservation.guar t s₀ s)
    (hQ : ∀ reply s₀ s', Sent t s s₀ s' → Q reply s₀ s')
    : (sendUsbCmdWire unit).wp (conservation.contract t) Q s₀ s := by
  unfold sendUsbCmdWire
  rw [wp_bind, wp_read, wp_bind, wp_answer]
  intro a
  split
  . rw [wp_bind]
    apply wp_releaseLock h hguar
    intro s₁ hkept hs₁ _
    apply wp_receiveUsbCmd hs₁ guar_refl
    intro reply s₀ s' hsent
    exact hQ reply s₀ s' (hsent.of_kept hkept)
  . exact wp_receiveUsbCmd h hguar hQ

theorem wp_sendUsbCmd {slot : Option (Fin intPendingSlots)} {unit : υ} {cmd : IntCommand}
    {Q : IntReply → IntState ι υ → IntState ι υ → Prop} (h : s.Accounted [])
    (hguar : conservation.guar t s₀ s) (hQ : ∀ reply s₀ s', Sent t s s₀ s' → Q reply s₀ s')
    : (sendUsbCmd slot unit cmd).wp (conservation.contract t) Q s₀ s := by
  unfold sendUsbCmd
  rw [wp_bind, wp_read]
  split
  . rw [wp_pure]
    exact hQ _ _ _ ⟨h, .refl t s, hguar⟩
  . rw [wp_bind, wp_note]
    intro _
    exact ⟨trivial, wp_sendUsbCmdWire h hguar hQ⟩

theorem wp_sendUsbCmdWithRtWait {slot : Option (Fin intPendingSlots)} {unit : υ}
    {cmd : IntCommand} {Q : IntReply → IntState ι υ → IntState ι υ → Prop}
    (h : s.Accounted []) (hguar : conservation.guar t s₀ s)
    (hQ : ∀ reply s₀ s', Sent t s s₀ s' → Q reply s₀ s')
    : (sendUsbCmdWithRtWait slot unit cmd).wp (conservation.contract t) Q s₀ s := by
  unfold sendUsbCmdWithRtWait
  rw [wp_bind, wp_answer]
  intro a
  split
  . exact wp_sendUsbCmd h hguar hQ
  . split
    . rw [wp_pure]
      exact hQ _ _ _ ⟨h, .refl t s, hguar⟩
    . rw [wp_bind, wp_modify, wp_bind]
      have hs : (s.setForeground (some unit)).Accounted [] := h.congr rfl rfl rfl rfl rfl
      have hset : s.LockKept t (s.setForeground (some unit)) := .of_eq rfl rfl
      apply wp_sendUsbCmd hs (guar_trans hguar (guar_of_eq rfl rfl))
      intro reply s₀ s' hsent
      rw [wp_bind, wp_modify, wp_pure]
      exact hQ _ _ _ ((hsent.of_kept hset).congr rfl rfl rfl rfl rfl)

theorem wp_sendUsbCmdWithRtService {slot : Option (Fin intPendingSlots)} {unit : υ}
    {cmd : IntCommand} {Q : IntReply → IntState ι υ → IntState ι υ → Prop}
    (h : s.Accounted []) (hguar : conservation.guar t s₀ s)
    (hholds : t = .worker ∨ s.primaryMailboxLock = some t)
    (hQ : ∀ reply s₀ s', Sent t s s₀ s' → Q reply s₀ s')
    : (sendUsbCmdWithRtService t slot unit cmd).wp (conservation.contract t) Q s₀ s := by
  unfold sendUsbCmdWithRtService
  rw [wp_bind, wp_answer]
  intro a
  split
  . exact wp_sendUsbCmd h hguar hQ
  . rw [wp_bind, wp_read, wp_bind]
    apply wp_releaseLock h hguar
    intro s₁ hkept₁ hs₁ hresume
    have hmine : s₁.primaryMailboxLock = none ∨ s₁.primaryMailboxLock = some t := by
      simpa [IntWindow.canResume] using hresume
    have hs : (s₁.obtainPrimary t).Accounted [] := by
      refine ⟨hs₁.balance, hs₁.once, ?_, hs₁.single⟩
      intro hworker
      apply hs₁.collected
      intro n hn
      cases hmine with
      | inl hnone => simp [hnone] at hn
      | inr hsome =>
        rw [hsome] at hn
        exact hworker n hn
    rw [wp_bind, wp_modify, wp_bind]
    apply wp_sendUsbCmdWithRtWait hs (guar_of_mine hmine (.inr rfl))
    intro reply s₀ s₂ hsent
    have hlock : s₂.primaryMailboxLock = some t := hsent.kept.lock.mpr rfl
    rw [wp_bind]
    unfold releasePrimaryLock
    split
    . next hheld =>
      rw [wp_pure, wp_pure]
      apply hQ
      refine ⟨hsent.accounted, ?_, hsent.guar⟩
      constructor
      . simp [hlock, hheld]
      . intro _
        rw [hsent.kept.aborted rfl]
        exact hkept₁.aborted hheld
    . next hheld =>
      have ht : t = .worker := hholds.resolve_right hheld
      rw [wp_modify, wp_pure]
      apply hQ
      constructor
      . refine ⟨hsent.accounted.balance, hsent.accounted.once, ?_, hsent.accounted.single⟩
        intro _
        apply hsent.accounted.collected
        simp [hlock, ht]
      . constructor
        . simp [IntState.releasePrimary, hheld]
        . intro hlock
          exact absurd hlock hheld
      . exact guar_trans hsent.guar (guar_of_mine (.inr hlock) (.inl rfl))

theorem wp_stopPeriodicSlot {i : Fin intPendingSlots}
    {Q : UInt16 → IntState ι υ → IntState ι υ → Prop} (h : s.Accounted [])
    (hguar : conservation.guar t s₀ s) (hholds : t = .worker ∨ s.primaryMailboxLock = some t)
    (hQ : ∀ status s₀ s', Sent t s s₀ s' → Q status s₀ s')
    : (stopPeriodicSlot t i).wp (conservation.contract t) Q s₀ s := by
  have hsent : Sent t s s₀ s := ⟨h, .refl t s, hguar⟩
  unfold stopPeriodicSlot
  rw [wp_bind, wp_read]
  split
  . rw [wp_pure]
    exact hQ _ _ _ hsent
  . split
    . rw [wp_pure]
      exact hQ _ _ _ hsent
    . rw [wp_bind]
      apply wp_sendUsbCmdWithRtService h hguar hholds
      intro reply s₀ s' hsent
      rw [wp_bind]
      unfold finishStop ZZUsb.modifySlot
      split
      . rw [wp_modify, wp_pure]
        apply hQ
        refine ⟨?_, hsent.kept.trans (.of_eq rfl rfl), guar_trans hsent.guar (guar_of_eq rfl rfl)⟩
        apply hsent.accounted.modifySlot <;> rfl
      . rw [wp_modify, wp_pure]
        exact hQ _ _ _ (hsent.congr rfl rfl rfl rfl rfl)

/-- The worker is not in the middle of anything. -/
structure Steady (s : IntState ι υ) : Prop where
  accounted : s.Accounted []
  lock : s.primaryMailboxLock ≠ some .worker

omit [DecidableEq υ] in
theorem Steady.congr {s' : IntState ι υ} (h : Steady s) (hslots : s'.slots = s.slots)
    (haccepted : s'.accepted = s.accepted) (hreplied : s'.replied = s.replied)
    (haborted : s'.abortedReplies = s.abortedReplies)
    (hlock : s'.primaryMailboxLock = s.primaryMailboxLock)
    : Steady s' where
  accounted := h.accounted.congr hslots haccepted hreplied haborted hlock
  lock := by
    rw [hlock]
    exact h.lock

theorem Steady.of_sent {s' : IntState ι υ} (h : Steady s) (hsent : Sent .worker s s₀ s')
    : Steady s' where
  accounted := hsent.accounted
  lock := by
    rw [ne_eq]
    rw [hsent.kept.lock]
    exact h.lock

omit [DecidableEq υ] in
theorem Steady.modifySlot (h : Steady s) (i : Fin intPendingSlots)
    (f : IntSlot ι υ → IntSlot ι υ) (hior : (f (s.slots i)).ior = (s.slots i).ior)
    (hreply : (f (s.slots i)).abortReply = (s.slots i).abortReply)
    : Steady (s.modifySlot i f) where
  accounted := h.accounted.modifySlot i f hior hreply
  lock := h.lock

/-- A coroutine that the worker runs to its end -/
def Ends (c : IntM ι υ Unit) (s : IntState ι υ) : Prop :=
  ∀ s₀, conservation.guar .worker s₀ s →
    c.wp (conservation.contract .worker) (conservation.Returned .worker) s₀ s

theorem returned (h : Steady s) (hguar : conservation.guar .worker s₀ s)
    : conservation.Returned .worker () s₀ s :=
  ⟨hguar, h.accounted, h.lock⟩

theorem ends_pure (h : Steady s) : Ends (pure ()) s :=
  fun _ hguar => returned h hguar

theorem ends_modify {f : IntState ι υ → IntState ι υ} (h : Steady (f s))
    (hlock : (f s).primaryMailboxLock = s.primaryMailboxLock)
    (haborted : (f s).abortedReplies = s.abortedReplies)
    : Ends (modify f) s :=
  fun _ hguar => returned h (guar_trans hguar (guar_of_eq hlock haborted))

theorem ends_modify_bind {f : IntState ι υ → IntState ι υ} {c : Unit → IntM ι υ Unit}
    (hlock : (f s).primaryMailboxLock = s.primaryMailboxLock)
    (haborted : (f s).abortedReplies = s.abortedReplies) (h : Ends (c ()) (f s))
    : Ends (modify f >>= c) s := by
  intro s₀ hguar
  rw [wp_bind, wp_modify]
  exact h s₀ (guar_trans hguar (guar_of_eq hlock haborted))

theorem ends_read_bind {c : IntState ι υ → IntM ι υ Unit} (h : Ends (c s) s)
    : Ends (read >>= c) s :=
  fun s₀ hguar => h s₀ hguar

theorem Ends.bind {c : IntM ι υ Unit} {f : Unit → IntM ι υ Unit} (hc : Ends c s)
    (hf : ∀ s', Steady s' → Ends (f ()) s')
    : Ends (c >>= f) s := by
  intro s₀ hguar
  rw [wp_bind]
  apply wp_mono (hc s₀ hguar)
  intro _ s₀ s' hs'
  exact hf s' ⟨hs'.2.1, hs'.2.2⟩ s₀ hs'.1

theorem ends_sendUsbCmdWithRtService_bind {slot : Option (Fin intPendingSlots)} {unit : υ}
    {cmd : IntCommand} {c : IntReply → IntM ι υ Unit} (h : Steady s)
    (hc : ∀ reply s', Steady s' → Ends (c reply) s')
    : Ends (sendUsbCmdWithRtService .worker slot unit cmd >>= c) s := by
  intro s₀ hguar
  rw [wp_bind]
  apply wp_sendUsbCmdWithRtService h.accounted hguar (.inl rfl)
  intro reply s₀ s' hsent
  exact hc reply s' (h.of_sent hsent) s₀ hsent.guar

theorem ends_stopPeriodicSlot_bind {i : Fin intPendingSlots} {c : UInt16 → IntM ι υ Unit}
    (h : Steady s) (hc : ∀ status s', Steady s' → Ends (c status) s')
    : Ends (stopPeriodicSlot .worker i >>= c) s := by
  intro s₀ hguar
  rw [wp_bind]
  apply wp_stopPeriodicSlot h.accounted hguar (.inl rfl)
  intro status s₀ s' hsent
  exact hc status s' (h.of_sent hsent) s₀ hsent.guar

theorem ends_note_clears {i : Fin intPendingSlots} {reply : Option ι} {c : Unit → IntM ι υ Unit}
    (h : (s.slots i).refs = reply.toList → Ends (c ()) s)
    : Ends (note (.clears i reply) >>= c) s := by
  intro s₀ hguar
  rw [wp_bind, wp_note]
  intro hrefs
  exact ⟨trivial, h hrefs s₀ hguar⟩

theorem ends_replySlot (h : Steady s) {i : Fin intPendingSlots} {ior : ι}
    (hrefs : (s.slots i).refs = [ior])
    : Ends (replySlot i ior) s := by
  apply ends_modify_bind
  . rfl
  . rfl
  . have hclear := h.accounted.clearIntSlot i
    rw [hrefs] at hclear
    apply ends_modify
    . exact ⟨hclear.replyMsg, h.lock⟩
    . rfl
    . rfl

theorem ends_keepStopPending (h : Steady s) (i : Fin intPendingSlots)
    : Ends (keepStopPending i) s := by
  apply ends_modify
  . apply h.modifySlot <;> rfl
  . rfl
  . rfl

theorem ends_keepAborted (h : Steady s) (i : Fin intPendingSlots)
    : Ends (keepAborted i) s := by
  apply ends_modify
  . apply h.modifySlot <;> rfl
  . rfl
  . rfl

theorem ior_of_not_changed {i : Fin intPendingSlots} {unit : υ} {ior : ι}
    (h : ¬s.intSlotChanged i unit ior)
    : (s.slots i).ior = some ior := by
  simp only [intSlotChanged, Bool.or_eq_true, decide_eq_true_eq, not_or, ne_eq,
    Decidable.not_not] at h
  exact h.1

theorem ends_retireIntSlot {unit : υ} {i : Fin intPendingSlots} {ior : ι}
    {retained : UInt16 → IntM ι υ Unit} (h : Steady s)
    (hretained : ∀ status s', Steady s' → Ends (retained status) s')
    : Ends (retireIntSlot .worker unit i ior retained) s := by
  apply ends_stopPeriodicSlot_bind h
  intro status s' hs'
  apply ends_read_bind
  split
  . exact ends_pure hs'
  . next hsame =>
    split
    . exact ends_replySlot hs' (refs_of_ior hs'.accounted (ior_of_not_changed hsame))
    . exact hretained status s' hs'

theorem ends_pollDetached {i : Fin intPendingSlots} (h : Steady s)
    : Ends (pollDetached .worker i) s := by
  apply ends_read_bind
  split
  . apply ends_modify
    . apply h.modifySlot <;> rfl
    . rfl
    . rfl
  . apply ends_stopPeriodicSlot_bind h
    intro _ s' hs'
    apply ends_read_bind
    split
    . apply ends_note_clears
      intro hrefs
      apply ends_modify_bind
      . rfl
      . rfl
      . have hclear := hs'.accounted.clearIntSlot i
        rw [hrefs] at hclear
        split
        . next hnone =>
          rw [hnone] at hclear
          exact ends_pure ⟨hclear, hs'.lock⟩
        . next ior hior =>
          rw [hior] at hclear
          have hresult : ((s'.clearIntSlot i).setResult ior 0 .aborted).Accounted [ior] :=
            hclear.congr rfl rfl rfl rfl rfl
          apply ends_modify
          . exact ⟨hresult.replyMsg, hs'.lock⟩
          . rfl
          . rfl
    . exact ends_pure hs'

theorem ends_pollStopPending {unit : υ} {i : Fin intPendingSlots} {ior : ι} (h : Steady s)
    : Ends (pollStopPending .worker unit i ior) s := by
  apply ends_read_bind
  split
  . apply ends_modify_bind
    . rfl
    . rfl
    . apply ends_modify_bind
      . rfl
      . rfl
      . apply ends_retireIntSlot
        . have hs : Steady (s.setResult ior 0 .aborted) := h.congr rfl rfl rfl rfl rfl
          apply hs.modifySlot <;> rfl
        . intro _ s' hs'
          exact ends_pure hs'
  . apply ends_retireIntSlot h
    intro _ s' hs'
    exact ends_pure hs'

theorem ends_setResult_bind {c : Unit → IntM ι υ Unit} {f : IntState ι υ → IntState ι υ}
    (h : Steady s) {ior : ι} {actual : UInt32} {error : IoError}
    (hf : f s = s.setResult ior actual error) (hc : ∀ s', s'.slots = s.slots → s'.iors = s.iors →
      Steady s' → Ends (c ()) s')
    : Ends (modify f >>= c) s := by
  apply ends_modify_bind
  . rw [hf]; rfl
  . rw [hf]; rfl
  . rw [hf]
    apply hc
    . rfl
    . rfl
    . exact h.congr rfl rfl rfl rfl rfl

theorem ends_pollAbortRequested {unit : υ} {i : Fin intPendingSlots} {ior : ι} (h : Steady s)
    : Ends (pollAbortRequested .worker unit i ior) s := by
  apply ends_setResult_bind h rfl
  intro s' _ _ hs'
  apply ends_retireIntSlot hs'
  intro _ s'' hs''
  exact ends_keepAborted hs'' i

theorem ends_failReap {unit : υ} {i : Fin intPendingSlots} {ior : ι} {status : UInt16}
    (h : Steady s)
    : Ends (failReap .worker unit i ior status) s := by
  apply ends_setResult_bind h rfl
  intro s' _ _ hs'
  apply ends_retireIntSlot hs'
  intro _ s'' hs''
  apply ends_setResult_bind hs'' rfl
  intro s' _ _ hs'
  exact ends_keepStopPending hs' i

/-- A completed `IN` request leaves its slot to the endpoint. -/
theorem ends_retainEndpoint (h : Steady s) {i : Fin intPendingSlots} {ior : ι}
    (hior : (s.slots i).ior = some ior)
    : Ends (do ZZUsb.modifySlot i (·.retainEndpoint); modify (·.replyMsg ior)) s := by
  have hrefs := refs_of_ior h.accounted hior
  have htake := h.accounted.take i (·.retainEndpoint) (by
    have := (h.accounted.single i).resolve_left (by simp [hior])
    simp [IntSlot.refs, IntSlot.retainEndpoint, this])
  rw [hrefs] at htake
  apply ends_modify_bind
  . rfl
  . rfl
  . apply ends_modify
    . exact ⟨htake.replyMsg, h.lock⟩
    . rfl
    . rfl

theorem ends_completeReap {unit : υ} {i : Fin intPendingSlots} {ior : ι} {actual : UInt32}
    (h : Steady s) (hior : (s.slots i).ior = some ior)
    : Ends (completeReap .worker unit i ior actual) s := by
  apply ends_setResult_bind h rfl
  intro s' hslots _ hs'
  rw [← hslots] at hior
  apply ends_read_bind
  split
  . exact ends_retainEndpoint hs' hior
  . apply ends_retireIntSlot hs'
    intro _ s'' hs''
    apply ends_setResult_bind hs'' rfl
    intro s' _ _ hs'
    exact ends_keepStopPending hs' i

theorem ends_finishReap {unit : υ} {i : Fin intPendingSlots} {ior : ι} {reply : IntReply}
    (h : Steady s)
    : Ends (finishReap .worker unit i ior reply) s := by
  apply ends_read_bind
  split
  . exact ends_pure h
  . next hsame =>
    split
    . exact ends_pollAbortRequested h
    . dsimp only
      split
      . exact ends_pure h
      . exact ends_completeReap h (ior_of_not_changed hsame)
      . exact ends_failReap h

theorem ends_pollReap {unit : υ} {reapEvents : Bool} {i : Fin intPendingSlots} {ior : ι}
    {cmd : IntCommand} (h : Steady s)
    : Ends (pollReap .worker unit reapEvents i ior cmd) s := by
  apply ends_read_bind
  dsimp only
  split
  . apply ends_sendUsbCmdWithRtService_bind h
    intro reply s' hs'
    exact ends_finishReap hs'
  . exact ends_pure h

theorem ends_stopOrphan {unit : υ} {i : Fin intPendingSlots} {cmd : IntCommand} {status : UInt16}
    (h : Steady s)
    : Ends (stopOrphan .worker unit i cmd status) s := by
  unfold stopOrphan
  split
  . apply ends_sendUsbCmdWithRtService_bind h
    intro reply s' hs'
    split
    . apply ends_modify_bind
      . rfl
      . rfl
      . apply ends_modify
        . exact hs'.congr rfl rfl rfl rfl rfl
        . rfl
        . rfl
    . exact ends_pure hs'
  . exact ends_pure h

theorem ends_reuseFailed {i : Fin intPendingSlots} {ior : ι} {status : UInt16} (h : Steady s)
    : Ends (reuseFailed .worker i ior status) s := by
  apply ends_setResult_bind h rfl
  intro s' _ _ hs'
  apply ends_modify_bind
  . rfl
  . rfl
  . apply ends_stopPeriodicSlot_bind
    . apply hs'.modifySlot <;> rfl
    . intro _ s'' hs''
      split
      . apply ends_note_clears
        intro hrefs
        exact ends_replySlot hs'' hrefs
      . exact ends_keepStopPending hs'' i

theorem ends_armFailed {unit : υ} {i : Fin intPendingSlots} {ior : ι} {status : UInt16}
    (h : Steady s) (hior : (s.slots i).ior = some ior)
    : Ends (armFailed unit i ior status) s := by
  apply ends_setResult_bind h rfl
  intro s' hslots _ hs'
  rw [← hslots] at hior
  apply ends_read_bind
  split
  . apply ends_modify
    . apply hs'.modifySlot <;> rfl
    . rfl
    . rfl
  . exact ends_replySlot hs' (refs_of_ior hs'.accounted hior)

theorem ends_finishArm {unit : υ} {reapEvents : Bool} {i : Fin intPendingSlots} {ior : ι}
    {cmd : IntCommand} {status : UInt16} (h : Steady s)
    : Ends (finishArm .worker unit reapEvents i ior cmd status) s := by
  apply ends_read_bind
  split
  . exact ends_stopOrphan h
  . next hsame =>
    have hior := ior_of_not_changed hsame
    apply ends_modify_bind
    . rfl
    . rfl
    . have hs : Steady (s.modifySlot i (fun slot => { slot with armInProgress := false })) := by
        apply h.modifySlot <;> rfl
      split
      . exact ends_reuseFailed hs
      . split
        . apply ends_armFailed hs
          simpa [IntState.modifySlot] using hior
        . apply ends_modify_bind
          . rfl
          . rfl
          . apply ends_pollReap
            apply hs.modifySlot <;> rfl

theorem ends_pollArm {unit : υ} {reapEvents : Bool} {i : Fin intPendingSlots} {ior : ι}
    {cmd : IntCommand} (h : Steady s)
    : Ends (pollArm .worker unit reapEvents i ior cmd) s := by
  apply ends_read_bind
  dsimp only
  split
  . intro s₀ hguar
    rw [wp_bind, wp_note]
    intro _
    refine ⟨trivial, ?_⟩
    revert hguar s₀
    apply ends_modify_bind
    . rfl
    . rfl
    . apply ends_sendUsbCmdWithRtService_bind
      . apply h.modifySlot <;> rfl
      . intro reply s' hs'
        exact ends_finishArm hs'
  . exact ends_pollReap h

theorem ends_pollRearm {unit : υ} {reapEvents : Bool} {i : Fin intPendingSlots} {ior : ι}
    {cmd : IntCommand} (h : Steady s)
    : Ends (pollRearm .worker unit reapEvents i ior cmd) s := by
  apply ends_stopPeriodicSlot_bind h
  intro _ s' hs'
  apply ends_read_bind
  split
  . exact ends_pure hs'
  . have hs : Steady (s'.modifySlot i (fun slot => { slot with rearmRequired := false })) := by
      apply hs'.modifySlot <;> rfl
    apply ends_modify_bind
    . rfl
    . rfl
    . split
      . exact ends_pollArm hs
      . apply ends_setResult_bind hs rfl
        intro s'' _ _ hs''
        exact ends_keepStopPending hs'' i

theorem ends_pollQueued {unit : υ} {reapEvents : Bool} {i : Fin intPendingSlots} {ior : ι}
    (h : Steady s)
    : Ends (pollQueued .worker unit reapEvents i ior) s := by
  apply ends_read_bind
  dsimp only
  apply ends_modify_bind
  . rfl
  . rfl
  . have hs : Steady (s.modifySlot i
        (·.prepare ((s.iors ior).fillIntArmCommand (s.ports unit)))) := by
      apply h.modifySlot
      all_goals
        unfold IntSlot.prepare
        split <;> rfl
    split
    . exact ends_pollStopPending hs
    . split
      . exact ends_pollAbortRequested hs
      . split
        . exact ends_pollRearm hs
        . exact ends_pollArm hs

theorem ends_pollIntSlot {unit : υ} {reapEvents : Bool} {i : Fin intPendingSlots} (h : Steady s)
    : Ends (pollIntSlot .worker unit reapEvents i) s := by
  apply ends_read_bind
  split
  . split
    . exact ends_pollDetached h
    . exact ends_pollQueued h
  . exact ends_pure h

theorem ends_releaseLock {wait : IntWait} (h : Steady s) : Ends (releaseLock wait) s := by
  intro s₀ hguar
  apply wp_releaseLock h.accounted hguar
  intro s' hkept hs' _
  apply returned _ guar_refl
  exact h.of_sent ⟨hs', hkept, guar_refl⟩

theorem ends_pollIntSlots {unit : υ} {reapEvents : Bool} {indices : List (Fin intPendingSlots)}
    (h : Steady s)
    : Ends (pollIntSlots .worker unit reapEvents indices) s := by
  induction indices generalizing s with
  | nil => exact ends_pure h
  | cons i indices ih =>
    unfold pollIntSlots
    apply (ends_releaseLock h).bind
    intro s₁ hs₁
    apply (ends_pollIntSlot hs₁).bind
    intro s₂ hs₂
    exact ih hs₂

theorem ends_finishLegacy {i : Fin intPendingSlots} {ior : ι} {reply : IntReply} (h : Steady s)
    : Ends (finishLegacy i ior reply) s := by
  apply ends_read_bind
  dsimp only
  split
  . apply ends_modify_bind
    . rfl
    . rfl
    . have hs : Steady (s.modifySlot i (fun slot =>
          { slot with
            idlePolls := if slot.idlePolls < 0xff then slot.idlePolls + 1
              else slot.idlePolls })) := by
        apply h.modifySlot <;> rfl
      apply ends_read_bind
      split
      . apply ends_note_clears
        intro hrefs
        apply ends_setResult_bind hs rfl
        intro s' hslots _ hs'
        rw [← hslots] at hrefs
        exact ends_replySlot hs' hrefs
      . exact ends_pure hs
  . apply ends_note_clears
    intro hrefs
    have hresult (s' : IntState ι υ) (hslots : s'.slots = s.slots) (hs' : Steady s')
        : Ends (replySlot i ior) s' := by
      rw [← hslots] at hrefs
      exact ends_replySlot hs' hrefs
    apply ends_modify_bind
    . split <;> rfl
    . split <;> rfl
    . apply hresult
      . split <;> rfl
      . split <;> exact h.congr rfl rfl rfl rfl rfl

theorem ends_pollLegacyRequest {unit : υ} {i : Fin intPendingSlots} {ior : ι} (h : Steady s)
    (hior : (s.slots i).ior = some ior)
    : Ends (pollLegacyRequest unit i ior) s := by
  apply ends_read_bind
  split
  . apply ends_setResult_bind h rfl
    intro s' hslots _ hs'
    rw [← hslots] at hior
    exact ends_replySlot hs' (refs_of_ior hs'.accounted hior)
  . intro s₀ hguar
    rw [wp_bind]
    apply wp_sendUsbCmd h.accounted hguar
    intro reply s₀ s' hsent
    exact ends_finishLegacy (h.of_sent hsent) s₀ hsent.guar

theorem ends_pollLegacySlot {unit : υ} {i : Fin intPendingSlots} {ior : ι} (h : Steady s)
    (hior : (s.slots i).ior = some ior)
    : Ends (pollLegacySlot unit i ior) s := by
  unfold pollLegacySlot
  apply (ends_pollLegacyRequest h hior).bind
  intro s' hs'
  apply ends_modify
  . exact hs'.congr rfl rfl rfl rfl rfl
  . rfl
  . rfl

theorem ends_pollLegacySlots {unit : υ} {indices : List (Fin intPendingSlots)} (h : Steady s)
    : Ends (pollLegacySlots unit indices) s := by
  induction indices generalizing s with
  | nil => exact ends_pure h
  | cons i indices ih =>
    unfold pollLegacySlots
    apply (ends_releaseLock h).bind
    intro s' hs'
    apply ends_read_bind
    split
    . exact ih hs'
    . next ior hior =>
      split
      . exact ends_pollLegacySlot hs' hior
      . exact ih hs'

theorem ends_pollIntPending {unit : υ} {reapEvents : Bool} (h : Steady s)
    : Ends (pollIntPending .worker unit reapEvents) s := by
  apply ends_read_bind
  split
  . exact ends_pollIntSlots h
  . exact ends_pollLegacySlots h

theorem abortIntIorsOffline_lock (s : IntState ι υ) (unit : υ)
    : (s.abortIntIorsOffline unit).1.primaryMailboxLock = s.primaryMailboxLock
        ∧ (s.abortIntIorsOffline unit).1.abortedReplies = s.abortedReplies := by
  have hfold (indices : List (Fin intPendingSlots)) (p : IntState ι υ × List ι)
      : (indices.foldl (abortOffline unit) p).1.primaryMailboxLock = p.1.primaryMailboxLock
          ∧ (indices.foldl (abortOffline unit) p).1.abortedReplies = p.1.abortedReplies := by
    induction indices generalizing p with
    | nil => exact ⟨rfl, rfl⟩
    | cons i indices ih =>
      rw [List.foldl_cons]
      rw [(ih _).1]
      rw [(ih _).2]
      unfold abortOffline
      split
      . exact ⟨rfl, rfl⟩
      . split
        . split <;> exact ⟨rfl, rfl⟩
        . exact ⟨rfl, rfl⟩
  exact hfold _ _

theorem queueIntIor_lock {s s' : IntState ι υ} {unit : υ} {ior : ι} {replaced : Option ι}
    (h : s.queueIntIor unit ior = some (s', replaced))
    : s'.primaryMailboxLock = s.primaryMailboxLock ∧ s'.abortedReplies = s.abortedReplies := by
  unfold queueIntIor at h
  split at h
  . simp only [Option.some.injEq, Prod.mk.injEq] at h
    rw [← h.1]
    exact ⟨rfl, rfl⟩
  . split at h
    . contradiction
    . unfold replaceIor at h
      split at h
      . simp only [Option.some.injEq, Prod.mk.injEq] at h
        rw [← h.1]
        exact ⟨rfl, rfl⟩
      . split at h
        . simp only [Option.some.injEq, Prod.mk.injEq] at h
          rw [← h.1]
          exact ⟨rfl, rfl⟩
        . simp only [Option.some.injEq, Prod.mk.injEq] at h
          rw [← h.1]
          exact ⟨rfl, rfl⟩
  . simp only [Option.some.injEq, Prod.mk.injEq] at h
    rw [← h.1]
    exact ⟨rfl, rfl⟩
  . contradiction

theorem beginIntXfer_lock (s : IntState ι υ) (ior : ι) (fields : IntIor υ)
    : (s.beginIntXfer ior fields).primaryMailboxLock = s.primaryMailboxLock
        ∧ (s.beginIntXfer ior fields).abortedReplies = s.abortedReplies := by
  unfold beginIntXfer intXfer
  dsimp only
  split
  . exact ⟨rfl, rfl⟩
  . split
    . exact ⟨rfl, rfl⟩
    . split
      . exact ⟨rfl, rfl⟩
      . split
        . exact ⟨rfl, rfl⟩
        . next s' replaced hqueue =>
          have := queueIntIor_lock hqueue
          cases replaced <;> exact this

theorem abortIo_lock (s : IntState ι υ) (ior : ι)
    : (s.abortIo ior).primaryMailboxLock = s.primaryMailboxLock
        ∧ (s.abortIo ior).abortedReplies = s.abortedReplies := by
  unfold abortIo
  split
  . exact ⟨rfl, rfl⟩
  . split
    . unfold abortIntSlot
      dsimp only
      split
      . exact ⟨rfl, rfl⟩
      . split <;> exact ⟨rfl, rfl⟩
    . exact ⟨rfl, rfl⟩

theorem disconnect_lock (s : IntState ι υ) (unit : υ)
    : (s.disconnect unit).primaryMailboxLock = s.primaryMailboxLock
        ∧ (s.disconnect unit).abortedReplies = s.abortedReplies := by
  unfold disconnect
  dsimp only
  rw [replyAll_eq]
  exact abortIntIorsOffline_lock _ unit

theorem accounted_disconnect (h : s.Accounted []) (unit : υ)
    : (s.disconnect unit).Accounted [] := by
  apply Accounted.replyAll
  rw [List.append_nil]
  apply Accounted.abortIntIorsOffline
  exact h.congr rfl rfl rfl rfl rfl

theorem ends_updatePortState {unit : υ} (h : Steady s)
    : Ends (updatePortState .worker unit) s := by
  apply ends_sendUsbCmdWithRtService_bind h
  intro reply s' hs'
  apply ends_read_bind
  split
  . have hlock := disconnect_lock s' unit
    apply ends_modify
    . constructor
      . exact accounted_disconnect hs'.accounted unit
      . rw [hlock.1]
        exact hs'.lock
    . exact hlock.1
    . exact hlock.2
  . exact ends_pure hs'

/-- A client in `CMD_FLUSH` holds `PrimaryMailboxLock` and has passed some of the slots. -/
structure Flushing (n left : Nat) (s : IntState ι υ) : Prop where
  accounted : s.Accounted []
  lock : s.primaryMailboxLock = some (.client n)
  length : s.abortedReplies.length + left ≤ abortedReplySlots

theorem wp_finishFlush {n left : Nat} {i : Fin intPendingSlots} {pending : Option ι}
    {stopStatus : UInt16} {Q : Unit → IntState ι υ → IntState ι υ → Prop}
    (h : Flushing n (left + 1) s) (hguar : conservation.guar (.client n) s₀ s)
    (hQ : ∀ s', Flushing n left s' → conservation.guar (.client n) s₀ s' → Q () s₀ s')
    : (finishFlush i pending stopStatus).wp (conservation.contract (.client n)) Q s₀ s := by
  have hlength := h.length
  have hmine {s' : IntState ι υ} (hs' : s'.primaryMailboxLock = some (.client n))
      : conservation.guar (.client n) s₀ s' :=
    guar_trans hguar (guar_of_mine (.inr h.lock) (.inr hs'))
  unfold finishFlush
  split
  . rw [wp_bind, wp_note]
    intro hrefs
    refine ⟨trivial, ?_⟩
    rw [wp_bind, wp_modify, wp_modify]
    have hclear := h.accounted.clearIntSlot i
    rw [hrefs] at hclear
    have hroom : (s.clearIntSlot i).abortedReplies.length < abortedReplySlots := by
      show s.abortedReplies.length < abortedReplySlots
      omega
    have hcollect : (s.clearIntSlot i).collect pending
        = { s.clearIntSlot i with abortedReplies := s.abortedReplies ++ pending.toList } := by
      unfold IntState.collect
      rw [if_pos hroom]
      rfl
    have haccounted := Accounted.collect hclear hroom h.lock
    rw [hcollect] at haccounted ⊢
    apply hQ
    . refine ⟨haccounted, h.lock, ?_⟩
      show (s.abortedReplies ++ pending.toList).length + left ≤ abortedReplySlots
      have hpending : pending.toList.length ≤ 1 := by
        cases pending <;> simp
      rw [List.length_append]
      omega
    . exact hmine h.lock
  . apply hQ
    . refine ⟨?_, h.lock, ?_⟩
      . apply h.accounted.modifySlot <;> rfl
      . show s.abortedReplies.length + left ≤ abortedReplySlots
        omega
    . exact hmine h.lock

theorem wp_flushIntSlots {n : Nat} {unit : υ} {indices : List (Fin intPendingSlots)}
    {Q : Unit → IntState ι υ → IntState ι υ → Prop} (h : Flushing n indices.length s)
    (hguar : conservation.guar (.client n) s₀ s)
    (hQ : ∀ s₀ s', Flushing n 0 s' → conservation.guar (.client n) s₀ s' → Q () s₀ s')
    : (flushIntSlots (.client n) unit indices).wp (conservation.contract (.client n)) Q s₀ s := by
  induction indices generalizing s₀ s with
  | nil => exact hQ s₀ s h hguar
  | cons i indices ih =>
    have hlength := h.length
    rw [List.length_cons] at hlength
    unfold flushIntSlots
    rw [wp_bind, wp_read]
    dsimp only
    split
    . apply ih
      . refine ⟨h.accounted, h.lock, ?_⟩
        omega
      . exact hguar
    . generalize (s.slots i).pending = pending
      rw [wp_bind, wp_modify, wp_bind]
      unfold ZZUsb.modifySlot
      rw [wp_modify]
      have hpending : (s.abortPending pending).Accounted []
          ∧ (s.abortPending pending).primaryMailboxLock = s.primaryMailboxLock
          ∧ (s.abortPending pending).abortedReplies = s.abortedReplies := by
        cases pending with
        | none => exact ⟨h.accounted, rfl, rfl⟩
        | some ior => exact ⟨h.accounted.congr rfl rfl rfl rfl rfl, rfl, rfl⟩
      have hs : ((s.abortPending pending).modifySlot i
          (fun slot => { slot with reuseTicks := 0 })).Accounted [] := by
        apply hpending.1.modifySlot <;> rfl
      have hlock : (s.abortPending pending).primaryMailboxLock = some (.client n) := by
        rw [hpending.2.1]
        exact h.lock
      rw [wp_bind]
      apply wp_stopPeriodicSlot hs
      . exact guar_trans hguar (guar_of_mine (.inr h.lock) (.inr hlock))
      . exact .inr hlock
      . intro status s₀ s' hsent
        rw [wp_bind]
        have hflushing : Flushing n (indices.length + 1) s' := by
          refine ⟨hsent.accounted, hsent.kept.lock.mpr hlock, ?_⟩
          rw [hsent.kept.aborted hlock]
          show (s.abortPending pending).abortedReplies.length + _ ≤ _
          rw [hpending.2.2]
          exact hlength
        apply wp_finishFlush hflushing hsent.guar
        intro s'' hs'' hguar'
        exact ih hs'' hguar'

theorem wp_flush {n : Nat} {unit : υ} (h : s.Accounted []) (hlock : s.primaryMailboxLock = none)
    : (flush (.client n) unit).wp (conservation.contract (.client n))
        (conservation.Returned (.client n)) s s := by
  have hempty : s.abortedReplies = [] := h.collected (by simp [hlock])
  unfold flush
  rw [wp_bind, wp_modify, wp_bind]
  apply wp_flushIntSlots
  . constructor
    . refine ⟨?_, ?_, fun _ => rfl, h.single⟩
      . have := h.balance
        rw [hempty] at this
        exact this
      . have := h.once
        rw [hempty] at this
        exact this
    . rfl
    . rw [List.length_finRange]
      show 0 + intPendingSlots ≤ intPendingSlots + 1 + 16
      omega
  . exact guar_of_mine (.inl hlock) (.inr rfl)
  . intro s₀ s' hs' hguar
    rw [wp_bind]
    apply wp_releaseLock hs'.accounted hguar
    intro s'' hkept hs'' _
    have hlock'' := hkept.lock.mpr hs'.lock
    rw [wp_modify]
    refine ⟨?_, hs''.drain, ?_⟩
    . exact guar_of_mine (.inr hlock'') (.inl rfl)
    . simp [conservation, IntState.releasePrimary]

theorem valid : (conservation : Pool.Annotation (intPool ι υ true)).Valid where
  call t c s h hidle hcall := by
    have hstep (s' : IntState ι υ) (hs' : s'.Accounted [])
        (hlock : s'.primaryMailboxLock = s.primaryMailboxLock)
        (haborted : s'.abortedReplies = s.abortedReplies)
        : conservation.Returned t () s s' := by
      refine ⟨guar_of_eq hlock haborted, hs', ?_⟩
      show s'.primaryMailboxLock ≠ some t
      rw [hlock]
      exact hidle
    show (c.body t).wp _ _ s s
    replace hcall : c.allowed true t s = true := hcall
    cases t with
    | worker =>
      have hsteady : Steady s := ⟨h, hidle⟩
      cases c with
      | pollIntPending unit reapEvents => exact ends_pollIntPending hsteady s guar_refl
      | updatePortState unit => exact ends_updatePortState hsteady s guar_refl
      | intXfer | abortIo | flush | finishReset | setPort => simp [IntCall.allowed] at hcall
    | client n =>
      cases c with
      | intXfer ior fields =>
        have hnew : s.owns ior = false := by
          simpa [IntCall.allowed] using (Bool.and_eq_true_iff.mp hcall).2
        have hframe := beginIntXfer_lock s ior fields
        exact hstep _ (h.beginIntXfer fields hnew) hframe.1 hframe.2
      | abortIo ior =>
        have hframe := abortIo_lock s ior
        exact hstep _ (h.abortIo ior) hframe.1 hframe.2
      | flush unit =>
        apply wp_flush h
        simpa [IntCall.allowed] using hcall
      | finishReset unit => exact hstep _ (h.finishReset unit) rfl rfl
      | pollIntPending | updatePortState | setPort => simp [IntCall.allowed] at hcall
    | driver =>
      cases c with
      | setPort unit port => exact hstep _ (h.congr rfl rfl rfl rfl rfl) rfl rfl
      | intXfer | abortIo | flush | finishReset | pollIntPending | updatePortState =>
        simp [IntCall.allowed] at hcall
  stable t u w s s' htu hguar _ hpark := hpark.trans (hguar t htu)
  stable_idle t u s s' htu hguar _ hidle := by
    show s'.primaryMailboxLock ≠ some t
    rw [ne_eq]
    rw [(hguar t htu).lock]
    exact hidle

end Conservation

omit [DecidableEq υ] in
theorem accounted_init (ports : υ → IntPort) (iors : ι → IntIor υ) (results : ι → IntResult)
    : (IntState.init ports iors results).Accounted [] := by
  have hrefs (ior : ι) : (IntState.init ports iors results).slotRefs ior = 0 :=
    total_eq_zero (fun _ => rfl)
  constructor
  . intro ior
    rw [hrefs]
    rfl
  . intro ior
    rw [hrefs]
    simp [IntState.init]
  . intro _
    rfl
  . intro _
    exact .inl rfl

/--
In a run that clears no slot whose request has changed while its command was sent, every accepted
request has been replied or is in one place, where it still is to be replied.
-/
theorem intRun_conserved {ports : υ → IntPort} {iors : ι → IntIor υ} {results : ι → IntResult}
    {actions : List (Pool.Action UsbTask (IntCall ι υ) IntAnswer)}
    {marks : Trace (IntState ι υ) (IntMark ι υ)} {st : (intPool ι υ true).State}
    (hrun : (intPool ι υ true).run (.start _ (.init ports iors results)) actions
      = some (marks, st))
    (hclears : ∀ m ∈ marks, m.1.ClearsReplied m.2)
    : st.shared.Conserved := by
  have hstart := Pool.Annotation.follows_start (P := intPool ι υ true) (A := conservation)
    (accounted_init ports iors results) (by simp [conservation, IntState.init])
  exact (Pool.Annotation.follows_run Conservation.valid hstart hrun hclears).2.inv.conserved

end Tasks

section Examples

instance (m : IntMark Nat Unit) (s : IntState Nat Unit) : Decidable (m.ClearsReplied s) :=
  match m with
  | .sends _ _ _ => .isTrue trivial
  | .arms _ => .isTrue trivial
  | .clears i reply => inferInstanceAs (Decidable ((s.slots i).refs = reply.toList))

/-- A request is completed, and the endpoint is kept until the passes have used up its grace. -/
def detachRun : List (Pool.Action UsbTask (IntCall Nat Unit) IntAnswer) :=
  clientCall (.intXfer 0 (exampleIor 1))
    :: pollPass true ([exampleAnswer, exampleAnswer, exampleAnswer, { exampleAnswer with actual := 4 }]
      :: List.replicate 31 [])
    ++ (List.replicate 8 (pollPass true (List.replicate 32 []))).flatten

/-- While the worker waits to stop the endpoint, the next request for it is queued. -/
def dropRun : List (Pool.Action UsbTask (IntCall Nat Unit) IntAnswer) :=
  detachRun ++ pollPass true [[{ exampleAnswer with rtPending := true }]]
    ++ [clientCall (.intXfer 1 (exampleIor 1)), .resume .worker [exampleAnswer, exampleAnswer]]

theorem intRun_not_conserved
    : ∃ marks st, (intPool Nat Unit true).run (exampleStart true) dropRun = some (marks, st)
        ∧ ¬st.shared.Conserved := by
  have h : ((intPool Nat Unit true).run (exampleStart true) dropRun).map (fun r =>
      (r.2.shared.accepted 1, r.2.shared.replied 1, r.2.shared.owns 1)) = some (1, 0, false) := by
    decide +kernel
  rw [Option.map_eq_some_iff] at h
  obtain ⟨⟨marks, st⟩, hrun, hst⟩ := h
  simp only [Prod.mk.injEq] at hst
  refine ⟨marks, st, hrun, ?_⟩
  intro hconserved
  have hbalance := hconserved.balance 1
  have howns := IntState.not_held_of_not_owns hst.2.2
  omega

/-- A request that is aborted while its endpoint is armed is replied when the endpoint is stopped. -/
def abortRun : List (Pool.Action UsbTask (IntCall Nat Unit) IntAnswer) :=
  clientCall (.intXfer 0 (exampleIor 1))
    :: pollPass true ([exampleAnswer, exampleAnswer, exampleAnswer, exampleAnswer]
      :: List.replicate 31 [])
    ++ clientCall (.abortIo 0) :: pollPass true [[exampleAnswer, exampleAnswer]]

theorem intRun_conserved_aborted
    : ∃ marks st, (intPool Nat Unit true).run (exampleStart true) abortRun = some (marks, st)
        ∧ st.shared.replied 0 = 1 ∧ st.shared.Conserved := by
  have h : ((intPool Nat Unit true).run (exampleStart true) abortRun).map (fun r =>
      (decide (∀ m ∈ r.1, m.1.ClearsReplied m.2), r.2.shared.replied 0)) = some (true, 1) := by
    decide +kernel
  rw [Option.map_eq_some_iff] at h
  obtain ⟨⟨marks, st⟩, hrun, hst⟩ := h
  simp only [Prod.mk.injEq, decide_eq_true_eq] at hst
  exact ⟨marks, st, hrun, hst.2, intRun_conserved hrun hst.1⟩

end Examples

end ZZUsb
