import ZZ9000.Concurrency.Slots
import ZZ9000.ZZRun.RootPathLemmas

/-!
This module shows that the requests of an app stay below `ROOT`, and that every lock, handle and
block is given back or kept in a slot.
-/

namespace ZZRun

open Concurrency Coroutine Trees

section Accounts

variable {abi : PathAbi} {ν : Type} [DecidableEq ν] {opt : RootOptions ν}

def fileWeight (n : ν) (slot : Option ν) : Nat := if slot = some n then 1 else 0

def lockWeight (n : ν) (slot : Option (ListSlot ν)) : Nat :=
  if slot.bind (·.lock) = some n then 1 else 0

def blockWeight (slot : Option (ListSlot ν)) : Nat := if slot.isSome then 1 else 0

/-- Between requests there is a lock of `ROOT`, and what the slots hold. -/
structure Accounted (opt : RootOptions ν) (w : DosWorld abi ν) : Prop where
  locks : ∀ n, w.locks.count n = (if n = opt.root then 1 else 0) + total (lockWeight n) w.lists
  handles : ∀ n, w.handles.count n = total (fileWeight n) w.files
  blocks : w.blocks = total blockWeight w.lists

variable {w₀ w : DosWorld abi ν} {L H : Multiset ν} {B : Nat} {Q : Prop}
variable {index : Fin abi.fdCount}

/-- The locks of a list, or of a request at its end. -/
def consLock (lock : Option ν) (L : Multiset ν) : Multiset ν := lock.elim L (· ::ₘ L)

theorem count_consLock (lock : Option ν) (L : Multiset ν) (n : ν)
    : (consLock lock L).count n = L.count n + if lock = some n then 1 else 0 := by
  cases lock with
  | none => rfl
  | some m =>
    simp only [consLock, Option.elim_some, Multiset.count_cons, Option.some.injEq, eq_comm]

theorem Accounted.of_holding (h : Accounted opt w₀)
    (hw : Holding w₀ w₀.locks w₀.handles w₀.blocks Q w)
    : Accounted opt w where
  locks := by
    intro n
    rw [hw.locks, hw.lists]
    exact h.locks n
  handles := by
    intro n
    rw [hw.handles, hw.files]
    exact h.handles n
  blocks := by
    rw [hw.blocks, hw.lists]
    exact h.blocks

theorem Accounted.openFile (h : Accounted opt w₀) (hfree : w₀.files index = none) (fh : ν)
    : Accounted opt { w₀ with
        files := Function.update w₀.files index (some fh)
        handles := fh ::ₘ w₀.handles } where
  locks := h.locks
  handles := by
    intro n
    have htotal := total_update (fileWeight n) w₀.files index (some fh)
    have hweight : fileWeight n (some fh) = if n = fh then 1 else 0 := by
      simp only [fileWeight, Option.some.injEq, eq_comm]
    rw [hfree] at htotal
    have hnone : fileWeight n none = 0 := rfl
    dsimp only
    rw [Multiset.count_cons, h.handles n, ← hweight]
    omega
  blocks := h.blocks

theorem Accounted.mem_handles (h : Accounted opt w₀) {fh : ν} (hslot : w₀.files index = some fh)
    : fh ∈ w₀.handles := by
  have hle := le_total (fileWeight fh) w₀.files index
  rw [hslot, ← h.handles fh] at hle
  rw [← Multiset.one_le_count_iff_mem]
  simpa [fileWeight] using hle

theorem Accounted.closeFile (h : Accounted opt w₀) {fh : ν} (hslot : w₀.files index = some fh)
    {H : Multiset ν} (hH : w₀.handles = fh ::ₘ H)
    : Accounted opt { w₀ with
        files := Function.update w₀.files index none
        handles := H } where
  locks := h.locks
  handles := by
    intro n
    have htotal := total_update (fileWeight n) w₀.files index none
    have hweight : fileWeight n (some fh) = if n = fh then 1 else 0 := by
      simp only [fileWeight, Option.some.injEq, eq_comm]
    have hnone : fileWeight n none = 0 := rfl
    have hcount := h.handles n
    rw [hH, Multiset.count_cons] at hcount
    rw [hslot, hweight] at htotal
    dsimp only
    omega
  blocks := h.blocks

theorem Accounted.openList (h : Accounted opt w₀) (hfree : w₀.lists index = none)
    (slot : ListSlot ν)
    : Accounted opt { w₀ with
        lists := Function.update w₀.lists index (some slot)
        locks := consLock slot.lock w₀.locks
        blocks := w₀.blocks + 1 } where
  locks := by
    intro n
    have htotal := total_update (lockWeight n) w₀.lists index (some slot)
    rw [hfree] at htotal
    have hnone : lockWeight n none = 0 := rfl
    have hweight : lockWeight n (some slot) = if slot.lock = some n then 1 else 0 := rfl
    dsimp only
    rw [count_consLock, h.locks n, ← hweight]
    omega
  handles := h.handles
  blocks := by
    have htotal := total_update blockWeight w₀.lists index (some slot)
    rw [hfree] at htotal
    have hnone : blockWeight (none : Option (ListSlot ν)) = 0 := rfl
    have hsome : blockWeight (some slot) = 1 := rfl
    have hblocks := h.blocks
    dsimp only
    omega

/-- The next entry of a list goes into its slot. -/
theorem Accounted.nextEntry (h : Accounted opt w₀) {slot : ListSlot ν}
    (hslot : w₀.lists index = some slot) (info : FileInfo)
    : Accounted opt { w₀ with
        lists := Function.update w₀.lists index (some { slot with info }) } where
  locks := by
    intro n
    dsimp only
    rw [total_update_of_eq (by rw [hslot]; rfl)]
    exact h.locks n
  handles := h.handles
  blocks := by
    dsimp only
    rw [total_update_of_eq (by rw [hslot]; rfl)]
    exact h.blocks

theorem Accounted.mem_locks (h : Accounted opt w₀) {slot : ListSlot ν} {n : ν}
    (hslot : w₀.lists index = some slot) (hlock : slot.lock = some n)
    : n ∈ w₀.locks := by
  have hle := le_total (lockWeight n) w₀.lists index
  have hweight : lockWeight n (some slot) = 1 := if_pos hlock
  rw [hslot, hweight] at hle
  rw [← Multiset.one_le_count_iff_mem, h.locks n]
  omega

/-- A list has its lock and its block. -/
theorem Accounted.listTaken (h : Accounted opt w₀) {slot : ListSlot ν}
    (hslot : w₀.lists index = some slot)
    : ∃ L, w₀.locks = consLock slot.lock L ∧ w₀.blocks = (w₀.blocks - 1) + 1 := by
  have hle := le_total blockWeight w₀.lists index
  have hweight : blockWeight (some slot) = 1 := rfl
  have hblocks := h.blocks
  rw [hslot, hweight] at hle
  cases hlock : slot.lock with
  | none => exact ⟨w₀.locks, rfl, by omega⟩
  | some n =>
    have hmem := h.mem_locks hslot hlock
    exact ⟨w₀.locks.erase n, (Multiset.cons_erase hmem).symm, by omega⟩

theorem Accounted.closeList (h : Accounted opt w₀) {slot : ListSlot ν}
    (hslot : w₀.lists index = some slot) {L : Multiset ν} (hL : w₀.locks = consLock slot.lock L)
    : Accounted opt { w₀ with
        lists := Function.update w₀.lists index none
        locks := L
        blocks := w₀.blocks - 1 } where
  locks := by
    intro n
    have htotal := total_update (lockWeight n) w₀.lists index none
    have hnone : lockWeight n (none : Option (ListSlot ν)) = 0 := rfl
    have hweight : lockWeight n (some slot) = if slot.lock = some n then 1 else 0 := rfl
    have hcount := h.locks n
    rw [hL, count_consLock] at hcount
    rw [hslot, hweight] at htotal
    dsimp only
    omega
  handles := h.handles
  blocks := by
    have htotal := total_update blockWeight w₀.lists index none
    have hnone : blockWeight (none : Option (ListSlot ν)) = 0 := rfl
    have hsome : blockWeight (some slot) = 1 := rfl
    have hblocks := h.blocks
    rw [hslot, hsome] at htotal
    dsimp only
    omega

end Accounts

section Calls

variable {abi : PathAbi} {ν : Type} {opt : RootOptions ν} {w₀ : DosWorld abi ν}
variable {L H : Multiset ν} {B : Nat} {Q : Prop} {n dir : ν} {leaf : List UInt8}

theorem triple_requestIsCurrent
    : Triple (dosContract abi opt) (Holding w₀ L H B Q) requestIsCurrent
        (fun _ => Holding w₀ L H B Q) := by
  unfold requestIsCurrent
  apply triple_bind triple_dosAccess
  intro _
  apply triple_bind (triple_of_pre (fun w hw => hw.imp fun h => h.1) triple_read_holding)
  intro _
  exact triple_pure fun w hw => hw.1

theorem triple_dosReply (reply : FileReply)
    : Triple (dosContract abi opt) (Holding w₀ L H B Q) (dosReply reply)
        (fun _ => Holding w₀ L H B Q) := by
  unfold dosReply
  apply triple_bind triple_requestIsCurrent
  intro _
  apply triple_ite
  . intro _
    apply triple_modify_solo
    exact fun w hw => { hw with }
  . intro _
    exact triple_pure fun w hw => hw

theorem triple_handOut (fh : ν)
    : Triple (dosContract abi opt) (Holding w₀ L H B True) (handOut fh)
        (fun r w => (∀ e, r = .error e → Holding w₀ L H B True w)
          ∧ ∀ fh, r = .ok fh → Holding w₀ L (fh ::ₘ H) B True w) := by
  unfold handOut
  apply triple_bind (J := fun _ => Holding w₀ L (fh ::ₘ H) B True)
  . apply triple_modify_solo
    exact fun w hw => { hw with handles := congrArg (fh ::ₘ ·) hw.handles }
  . intro _
    apply triple_pure
    intro w hw
    refine ⟨fun e h => (nomatch h), fun n h => ?_⟩
    rw [← Except.ok.inj h]
    exact hw

theorem triple_openFound (found : Except IoErr ν) (created : ν) (mode : DosMode)
    : Triple (dosContract abi opt) (Holding w₀ L H B Q) (openFound found created mode)
        (fun r w => (∀ e, r = .error e → Holding w₀ L H B True w)
          ∧ ∀ fh, r = .ok fh → Holding w₀ L (fh ::ₘ H) B True w) := by
  unfold openFound
  apply triple_bind triple_dosAccess
  intro a
  apply triple_of_pre (fun w hw => hw.imp fun _ => trivial)
  cases a.fails with
  | some failure =>
    apply triple_pure
    exact fun w hw => ⟨fun _ _ => hw, fun n h => (nomatch h)⟩
  | none =>
    cases found with
    | ok n => exact triple_handOut n
    | error e =>
      cases mode with
      | oldFile =>
        apply triple_pure
        exact fun w hw => ⟨fun _ _ => hw, fun n h => (nomatch h)⟩
      | readWrite => exact triple_handOut created
      | newFile => exact triple_handOut created

/-- A file is opened where it has been made sure that it is below `ROOT`. -/
theorem triple_dosOpen {mode : DosMode} (hdir : w₀.Below opt dir)
    (hleaf : w₀.Openable opt dir leaf (mode = .newFile))
    : Triple (dosContract abi opt) (Holding w₀ L H B Q) (dosOpen dir leaf mode)
        (fun r w => (∀ e, r = .error e → Holding w₀ L H B True w)
          ∧ ∀ fh, r = .ok fh → Holding w₀ L (fh ::ₘ H) B True w) := by
  unfold dosOpen
  apply triple_bind (J := fun _ => Holding w₀ L H B Q)
  . apply triple_note
    intro w hw _
    refine ⟨⟨(hw.below dir).mpr hdir, ?_⟩, hw⟩
    unfold DosWorld.Openable DosWorld.Below
    rw [hw.tree]
    exact hleaf
  . intro _
    apply triple_bind triple_read_holding
    intro w'
    apply triple_of_pre (fun w hw => hw.1)
    exact triple_openFound _ _ mode

theorem triple_dosOpenAbs {path : List UInt8} {mode : DosMode} (habs : opt.absPaths = true)
    : Triple (dosContract abi opt) (Holding w₀ L H B Q) (dosOpenAbs path mode)
        (fun r w => (∀ e, r = .error e → Holding w₀ L H B True w)
          ∧ ∀ fh, r = .ok fh → Holding w₀ L (fh ::ₘ H) B True w) := by
  unfold dosOpenAbs
  apply triple_bind (J := fun _ => Holding w₀ L H B Q)
  . apply triple_note
    exact fun w hw _ => ⟨habs, hw⟩
  . intro _
    apply triple_bind triple_read_holding
    intro w'
    apply triple_of_pre (fun w hw => hw.1)
    exact triple_openFound _ _ mode

theorem triple_examine {lock : Option ν}
    (hlock : ∀ n, lock = some n → n ∈ L ∧ (opt.absPaths = false → w₀.Below opt n))
    : Triple (dosContract abi opt) (Holding w₀ L H B Q) (examine lock)
        (fun _ => Holding w₀ L H B True) := by
  unfold examine
  apply triple_bind (J := fun _ => Holding w₀ L H B Q)
  . apply triple_note
    intro w hw _
    refine ⟨fun n h => ?_, hw⟩
    rw [hw.locks]
    exact ⟨(hlock n h).1, fun habs => (hw.below n).mpr ((hlock n h).2 habs)⟩
  . intro _
    apply triple_bind triple_dosAccess
    intro a
    apply triple_of_pre (fun w hw => hw.imp fun _ => trivial)
    cases a.fails with
    | some failure => exact triple_pure fun w hw => hw
    | none => exact triple_pure fun w hw => hw

theorem triple_exNext {lock : Option ν} (hlock : ∀ n, lock = some n → n ∈ L)
    : Triple (dosContract abi opt) (Holding w₀ L H B Q) (exNext lock)
        (fun _ => Holding w₀ L H B True) := by
  unfold exNext
  apply triple_bind (J := fun _ => Holding w₀ L H B Q)
  . apply triple_note
    intro w hw _
    refine ⟨fun n h => ?_, hw⟩
    rw [hw.locks]
    exact hlock n h
  . intro _
    apply triple_bind triple_dosAccess
    intro a
    apply triple_of_pre (fun w hw => hw.imp fun _ => trivial)
    cases a.fails with
    | some failure => exact triple_pure fun w hw => hw
    | none => exact triple_pure fun w hw => hw

/-- A handle is used while it is open. -/
theorem triple_uses {fh : ν} (hfh : fh ∈ H)
    : Triple (dosContract abi opt) (Holding w₀ L H B Q)
        (Coroutine.note (.uses fh) : DosService abi ν Unit) (fun _ => Holding w₀ L H B Q) := by
  apply triple_note
  intro w hw _
  refine ⟨?_, hw⟩
  show fh ∈ w.handles
  rw [hw.handles]
  exact hfh

theorem triple_examineFh {fh : ν} (hfh : fh ∈ H)
    : Triple (dosContract abi opt) (Holding w₀ L H B Q) (examineFh fh)
        (fun _ => Holding w₀ L H B True) := by
  unfold examineFh
  apply triple_bind (triple_uses hfh)
  intro _
  apply triple_bind triple_dosAccess
  intro a
  exact triple_pure fun w hw => hw.imp fun _ => trivial

theorem triple_useHandle {fh : ν} (hfh : fh ∈ H)
    : Triple (dosContract abi opt) (Holding w₀ L H B Q) (useHandle fh)
        (fun _ => Holding w₀ L H B True) := by
  unfold useHandle
  apply triple_bind (triple_uses hfh)
  intro _
  apply triple_bind triple_dosAccess
  intro a
  apply triple_of_pre (fun w hw => hw.imp fun _ => trivial)
  cases a.fails with
  | some failure => exact triple_pure fun w hw => hw
  | none => exact triple_pure fun w hw => hw

theorem triple_allocInfo
    : Triple (dosContract abi opt) (Holding w₀ L H B Q) allocInfo
        (fun r => Holding w₀ L H (if r then B + 1 else B) True) := by
  unfold allocInfo
  apply triple_bind triple_dosAccess
  intro a
  apply triple_of_pre (fun w hw => hw.imp fun _ => trivial)
  apply triple_ite
  . intro _
    exact triple_pure fun w hw => hw
  . intro _
    apply triple_bind (J := fun _ => Holding w₀ L H (B + 1) True)
    . apply triple_modify_solo
      exact fun w hw => { hw with blocks := congrArg (· + 1) hw.blocks }
    . intro _
      exact triple_pure fun w hw => hw

theorem triple_freeTaken (block : Bool)
    : Triple (dosContract abi opt) (Holding w₀ L H (if block then B + 1 else B) Q) (freeTaken block)
        (fun _ => Holding w₀ L H B Q) := by
  unfold freeTaken
  cases block with
  | false => exact triple_pure fun w hw => hw
  | true =>
    apply triple_bind (J := fun _ => Holding w₀ L H (B + 1) Q)
    . apply triple_note
      intro w hw _
      refine ⟨?_, hw⟩
      show 0 < w.blocks
      rw [hw.blocks]
      exact Nat.succ_pos B
    . intro _
      apply triple_modify_solo
      exact fun w hw => { hw with blocks := congrArg (· - 1) hw.blocks }

variable [DecidableEq ν]

theorem triple_dosClose (fh : ν)
    : Triple (dosContract abi opt) (Holding w₀ L (fh ::ₘ H) B Q) (dosClose fh)
        (fun _ => Holding w₀ L H B Q) := by
  unfold dosClose
  apply triple_bind (J := fun _ => Holding w₀ L (fh ::ₘ H) B Q)
  . apply triple_note
    intro w hw _
    refine ⟨?_, hw⟩
    show fh ∈ w.handles
    rw [hw.handles]
    exact Multiset.mem_cons_self fh H
  . intro _
    apply triple_modify_solo
    intro w hw
    refine { hw with handles := ?_ }
    dsimp only
    rw [hw.handles]
    exact Multiset.erase_cons_head fh H

/-- What a request has taken, on top of the handles `H` and the blocks `B`. -/
def Taken.handles (t : Taken ν) (H : Multiset ν) : Multiset ν := consLock t.fh H

def Taken.blocks (t : Taken ν) (B : Nat) : Nat := if t.block then B + 1 else B

def Taken.locks (t : Taken ν) (L : Multiset ν) : Multiset ν := consLock t.lock (consLock t.dir L)

theorem triple_closeTaken (fh : Option ν)
    : Triple (dosContract abi opt) (Holding w₀ L (consLock fh H) B Q) (closeTaken fh)
        (fun _ => Holding w₀ L H B Q) := by
  cases fh with
  | none => exact triple_pure fun w hw => hw
  | some fh => exact triple_dosClose fh

theorem triple_unLockTaken (lock : Option ν)
    : Triple (dosContract abi opt) (Holding w₀ (consLock lock L) H B Q) (unLockTaken lock)
        (fun _ => Holding w₀ L H B Q) := by
  cases lock with
  | none => exact triple_pure fun w hw => hw
  | some n => exact triple_unLock n

/-- Everything is given back once. -/
theorem triple_release (t : Taken ν)
    : Triple (dosContract abi opt) (Holding w₀ (t.locks L) (t.handles H) (t.blocks B) Q) (release t)
        (fun _ => Holding w₀ L H B Q) := by
  unfold release
  apply triple_bind (triple_freeTaken t.block)
  intro _
  apply triple_bind (triple_closeTaken t.fh)
  intro _
  apply triple_bind (triple_unLockTaken t.lock)
  intro _
  exact triple_unLockTaken t.dir

theorem triple_lockTarget (hdir : w₀.Below opt dir)
    : Triple (dosContract abi opt) (Holding w₀ L H B Q) (lockTarget opt dir leaf)
        (fun r w => (∀ e, r = .error e → Holding w₀ L H B True w)
          ∧ ∀ n, r = .ok n → (opt.absPaths = false → w₀.Below opt n)
            ∧ Holding w₀ (n ::ₘ L) H B True w) := by
  unfold lockTarget
  apply triple_ite
  . intro _
    apply triple_bind (triple_dupLock dir)
    intro r
    cases r with
    | none =>
      apply triple_pure
      exact fun w hw => ⟨fun _ _ => (hw.1 rfl).failed _, fun n h => (nomatch h)⟩
    | some n =>
      apply triple_pure
      intro w hw
      refine ⟨fun e h => (nomatch h), fun m h => ?_⟩
      rw [← Except.ok.inj h, (hw.2 n rfl).1]
      exact ⟨fun _ => hdir, (hw.2 n rfl).2.imp fun _ => trivial⟩
  . intro _
    apply triple_bind (triple_lock dir leaf)
    intro r
    cases r with
    | error e =>
      apply triple_pure
      exact fun w hw => ⟨fun _ _ => (hw.1 e rfl).1.imp fun _ => trivial, fun n h => (nomatch h)⟩
    | ok n =>
      apply triple_of_pre (fun w hw => (hw.2 n rfl).2)
      apply triple_ite
      . intro habs
        apply triple_pure
        intro w hw
        refine ⟨fun e h => (nomatch h), fun m h => ?_⟩
        rw [← Except.ok.inj h]
        exact ⟨fun hno => (Bool.eq_false_iff.mp hno habs).elim, hw.imp fun _ => trivial⟩
      . intro _
        apply triple_bind (triple_underRoot n)
        intro under
        apply triple_ite
        . intro hunder
          apply triple_pure
          intro w hw
          refine ⟨fun e h => (nomatch h), fun m h => ?_⟩
          rw [← Except.ok.inj h]
          exact ⟨fun _ => hw.1 hunder, hw.2.imp fun _ => trivial⟩
        . intro _
          apply triple_bind (triple_of_pre (fun w hw => hw.2) (triple_unLock n))
          intro _
          apply triple_pure
          exact fun w hw => ⟨fun _ _ => hw.imp fun _ => trivial, fun m h => (nomatch h)⟩

theorem triple_finalPathUnderRoot (create : Bool)
    : Triple (dosContract abi opt) (Holding w₀ L H B Q) (finalPathUnderRoot opt dir leaf create)
        (fun r w => Holding w₀ L H B True w ∧ (r = .ok () → w₀.Openable opt dir leaf create)) := by
  unfold finalPathUnderRoot
  apply triple_bind (triple_lock dir leaf)
  intro r
  cases r with
  | error e =>
    apply triple_ite
    . intro hcreate
      rw [Bool.and_eq_true, decide_eq_true_eq] at hcreate
      apply triple_pure
      intro w hw
      refine ⟨(hw.1 e rfl).1.imp fun _ => trivial, fun _ => ?_⟩
      have hfind := (hw.1 e rfl).2 hcreate.2
      unfold DosWorld.Openable
      rw [hfind]
      refine ⟨fun n h => (nomatch h), fun e' h => ?_⟩
      rw [← Except.error.inj h]
      exact ⟨hcreate.2, hcreate.1⟩
    . intro _
      apply triple_pure
      exact fun w hw => ⟨(hw.1 e rfl).1.imp fun _ => trivial, fun h => (nomatch h)⟩
  | ok n =>
    apply triple_of_fact (fun w hw => (hw.2 n rfl).1)
    intro hfind
    apply triple_of_pre (fun w hw => (hw.2 n rfl).2)
    apply triple_bind (triple_underRoot n)
    intro under
    apply triple_bind (J := fun _ w => (under = true → w₀.Below opt n) ∧ Holding w₀ L H B True w)
    . apply triple_of_fact (fun w hw => hw.1)
      intro hunder
      apply triple_mono (triple_unLock n) (fun w hw => hw.2)
      exact fun _ w hw => ⟨hunder, hw.imp fun _ => trivial⟩
    . intro _
      apply triple_pure
      intro w hw
      refine ⟨hw.2, fun h => ?_⟩
      have hunder : under = true := by
        cases under with
        | false => contradiction
        | true => rfl
      unfold DosWorld.Openable
      rw [hfind]
      refine ⟨fun m hm => ?_, fun e h => (nomatch h)⟩
      rw [← Except.ok.inj hm]
      exact hw.1 hunder

end Calls

section Targets

variable {abi : PathAbi} {ν : Type} {opt : RootOptions ν} {w₀ : DosWorld abi ν}

/-- What a path has locked, which may be examined. -/
def Located (opt : RootOptions ν) (w₀ : DosWorld abi ν) (t : Target ν) : Prop :=
  ∀ n, t.lock = some n → opt.absPaths = false → w₀.Below opt n

/-- The locks of a target are those of what a request has taken. -/
def Target.locks (t : Target ν) (L : Multiset ν) : Multiset ν := consLock t.lock (consLock t.dir L)

/-- The lock of a target may be examined: it has been taken, and it is below `ROOT`. -/
theorem Located.taken {t : Target ν} (h : Located opt w₀ t) (L : Multiset ν) (n : ν)
    (hn : t.lock = some n)
    : n ∈ t.locks L ∧ (opt.absPaths = false → w₀.Below opt n) := by
  refine ⟨?_, h n hn⟩
  unfold Target.locks
  rw [hn]
  exact Multiset.mem_cons_self n _

end Targets

section Requests

variable {abi : PathAbi} {ν : Type} [DecidableEq ν] {opt : RootOptions ν} {w₀ : DosWorld abi ν}
variable {Q : Prop} {window : Nat → UInt8} {req : NameRequest} {index : Fin abi.fdCount}

/-- Nothing is taken when the reply is due. -/
theorem triple_reply (h₀ : Accounted opt w₀) (reply : FileReply)
    : Triple (dosContract abi opt) (Holding w₀ w₀.locks w₀.handles w₀.blocks Q) (dosReply reply)
        (fun _ => Accounted opt) := by
  apply triple_mono (triple_dosReply reply) (fun w hw => hw)
  exact fun _ w hw => h₀.of_holding hw

theorem triple_giveBack (t : Taken ν) {c : DosService abi ν Unit}
    (hc : Triple (dosContract abi opt) (Holding w₀ w₀.locks w₀.handles w₀.blocks Q) c
      (fun _ => Accounted opt))
    : Triple (dosContract abi opt)
        (Holding w₀ (t.locks w₀.locks) (t.handles w₀.handles) (t.blocks w₀.blocks) Q)
        (do
          release t
          c)
        (fun _ => Accounted opt) := by
  apply triple_bind (triple_release t)
  intro _
  exact hc

theorem triple_openSlot (h₀ : Accounted opt w₀) (hfree : w₀.files index = none) (fh : ν)
    (dir : Option ν)
    : Triple (dosContract abi opt)
        (Holding w₀ (consLock dir w₀.locks) (fh ::ₘ w₀.handles) w₀.blocks True)
        (openSlot req index fh dir) (fun _ => Accounted opt) := by
  have hleave (reply : FileReply) := triple_giveBack (Q := True) { fh := some fh, dir }
    (triple_reply h₀ reply)
  unfold openSlot
  apply triple_bind triple_requestIsCurrent
  intro _
  apply triple_ite
  . intro _
    apply triple_bind (triple_examineFh (Multiset.mem_cons_self fh _))
    intro info
    apply triple_bind triple_requestIsCurrent
    intro _
    apply triple_ite
    . intro _
      have h₁ := h₀.openFile hfree fh
      apply triple_bind (J := fun _ w => Holding { w₀ with
        files := Function.update w₀.files index (some fh)
        handles := fh ::ₘ w₀.handles } (consLock dir w₀.locks) (fh ::ₘ w₀.handles) w₀.blocks True w)
      . apply triple_modify_solo
        exact fun w hw => { hw with files := by rw [hw.files] }
      . intro _
        exact triple_giveBack { dir } (triple_reply h₁ _)
    . intro _
      exact hleave _
  . intro _
    exact hleave _

/-- What is opened by a relative path has been found below `ROOT`. -/
theorem triple_openRelative (h₀ : Accounted opt w₀) (hfree : w₀.files index = none)
    (path : List UInt8) (mode : DosMode)
    : Triple (dosContract abi opt) (Holding w₀ w₀.locks w₀.handles w₀.blocks True)
        (openRelative opt req index path mode) (fun _ => Accounted opt) := by
  unfold openRelative
  apply triple_bind (triple_resolveRel path)
  intro r
  cases r with
  | error err =>
    apply triple_of_pre (fun w hw => hw.1 err rfl)
    exact triple_reply h₀ _
  | ok target =>
    obtain ⟨dir, leaf⟩ := target
    apply triple_of_fact (fun w hw => (hw.2 (dir, leaf) rfl).2.2)
    intro hresult
    obtain ⟨_, hresolve, _⟩ := hresult
    have hdir : w₀.Below opt dir := under_of_resolve (w₀.tree.under_self opt.root) hresolve
    apply triple_of_pre (fun w hw => (hw.2 (dir, leaf) rfl).2.1)
    have hleave (err : Int) := triple_giveBack (Q := True) { dir := some dir }
      (triple_reply h₀ (req.reply err 0 abi.modeFile 0 0))
    apply triple_ite
    . intro _
      exact hleave _
    . intro _
      apply triple_bind (triple_finalPathUnderRoot (mode = .newFile))
      intro r
      cases r with
      | error err => exact triple_of_pre (fun w hw => hw.1) (hleave err)
      | ok _ =>
        apply triple_of_fact (fun w hw => hw.2 rfl)
        intro hleaf
        apply triple_of_pre (fun w hw => hw.1)
        apply triple_bind (triple_dosOpen hdir hleaf)
        intro r
        cases r with
        | error e => exact triple_of_pre (fun w hw => hw.1 e rfl) (hleave _)
        | ok fh =>
          apply triple_of_pre (fun w hw => hw.2 fh rfl)
          exact triple_openSlot h₀ hfree fh (some dir)

theorem triple_serveOpen (h₀ : Accounted opt w₀)
    : Triple (dosContract abi opt) (Holding w₀ w₀.locks w₀.handles w₀.blocks True)
        (serveOpen opt window req) (fun _ => Accounted opt) := by
  have hfails (err : Int) : Triple (dosContract abi opt)
      (Holding w₀ w₀.locks w₀.handles w₀.blocks True) (openFails req err)
      (fun _ => Accounted opt) :=
    triple_reply h₀ _
  unfold serveOpen
  cases (dosSlotIndex req.fd : Option (Fin abi.fdCount)) with
  | none => exact hfails _
  | some index =>
    apply triple_bind triple_read_holding
    intro w'
    apply triple_of_fact (fun w hw => hw.2.files)
    intro hfiles
    rw [hfiles]
    apply triple_of_pre (fun w hw => hw.1)
    apply triple_ite
    . intro _
      exact hfails _
    . intro hused
      have hfree : w₀.files index = none := by simpa using hused
      cases openMode abi req.flags with
      | none => exact hfails _
      | some mode =>
        cases pathFromWire abi window req.pathOff with
        | none => exact hfails _
        | some path =>
          cases path with
          | nil => exact hfails _
          | cons c cs =>
            apply triple_ite
            . intro _
              apply triple_ite
              . intro habs
                apply triple_bind (triple_dosOpenAbs habs)
                intro r
                cases r with
                | error e => exact triple_of_pre (fun w hw => hw.1 e rfl) (hfails _)
                | ok fh =>
                  apply triple_of_pre (fun w hw => hw.2 fh rfl)
                  exact triple_openSlot h₀ hfree fh none
              . intro _
                exact hfails _
            . intro _
              exact triple_openRelative h₀ hfree _ mode

/-- The state that a thread of requests has reached has a name. -/
theorem triple_accounted {c : DosService abi ν Unit} {J : DosWorld abi ν → Prop}
    (hc : ∀ w₀, Accounted opt w₀ →
      Triple (dosContract abi opt) (fun w => Holding w₀ w₀.locks w₀.handles w₀.blocks True w
        ∧ w = w₀) c (fun _ => J))
    : Triple (dosContract abi opt) (Accounted opt) c (fun _ => J) := by
  apply triple_of_pre (K := fun w => ∃ w₀, Accounted opt w₀
    ∧ Holding w₀ w₀.locks w₀.handles w₀.blocks True w ∧ w = w₀)
  . exact fun w hw => ⟨w, hw, ⟨rfl, rfl, rfl, rfl, rfl, rfl, fun _ => trivial⟩, rfl⟩
  . apply triple_exists
    intro w₀
    apply triple_of_fact (fun w hw => hw.1)
    intro h₀
    exact triple_of_pre (fun w hw => hw.2) (hc w₀ h₀)

/-- A slot is closed, and nothing else has changed. -/
theorem triple_closeFdIndex (index : Fin abi.fdCount) (files : Fin abi.fdCount → Option ν)
    (lists : Fin abi.fdCount → Option (ListSlot ν))
    : Triple (dosContract abi opt) (fun w => Accounted opt w ∧ w.files = files ∧ w.lists = lists)
        (closeFdIndex index)
        (fun _ w => Accounted opt w ∧ w.files = Function.update files index none
          ∧ w.lists = lists) := by
  unfold closeFdIndex
  apply triple_bind
    (J := fun w' w => (Accounted opt w ∧ w.files = files ∧ w.lists = lists) ∧ w' = w)
    (triple_read fun w hw => ⟨hw, rfl⟩)
  intro w'
  cases hslot : w'.files index with
  | none =>
    apply triple_pure
    intro w hw
    rw [hw.2, hw.1.2.1] at hslot
    refine ⟨hw.1.1, ?_, hw.1.2.2⟩
    rw [hw.1.2.1, ← hslot, Function.update_eq_self]
  | some fh =>
    apply triple_of_fact (p := Accounted opt w' ∧ w'.files = files ∧ w'.lists = lists)
      (fun w hw => by rw [hw.2]; exact hw.1)
    intro h
    have hH := (Multiset.cons_erase (h.1.mem_handles hslot)).symm
    have hclosed := h.1.closeFile hslot hH
    rw [h.2.1] at hclosed
    apply triple_of_pre (K := Holding w' w'.locks (fh ::ₘ w'.handles.erase fh) w'.blocks True)
    . intro w hw
      rw [hw.2] at hH ⊢
      exact ⟨rfl, rfl, rfl, rfl, hH, rfl, fun _ => trivial⟩
    . apply triple_bind (triple_dosClose fh)
      intro _
      apply triple_modify_solo
      intro w hw
      have hfiles : w.files = files := hw.files.trans h.2.1
      refine ⟨hclosed.of_holding (Q := True) { hw with files := ?_ }, ?_, hw.lists.trans h.2.2⟩
      . dsimp only
        rw [hfiles]
      . dsimp only
        rw [hfiles]

theorem triple_closeListIndex (index : Fin abi.fdCount) (files : Fin abi.fdCount → Option ν)
    (lists : Fin abi.fdCount → Option (ListSlot ν))
    : Triple (dosContract abi opt) (fun w => Accounted opt w ∧ w.files = files ∧ w.lists = lists)
        (closeListIndex index)
        (fun _ w => Accounted opt w ∧ w.files = files
          ∧ w.lists = Function.update lists index none) := by
  unfold closeListIndex
  apply triple_bind
    (J := fun w' w => (Accounted opt w ∧ w.files = files ∧ w.lists = lists) ∧ w' = w)
    (triple_read fun w hw => ⟨hw, rfl⟩)
  intro w'
  cases hslot : w'.lists index with
  | none =>
    apply triple_pure
    intro w hw
    rw [hw.2, hw.1.2.2] at hslot
    refine ⟨hw.1.1, hw.1.2.1, ?_⟩
    rw [hw.1.2.2, ← hslot, Function.update_eq_self]
  | some slot =>
    apply triple_of_fact (p := Accounted opt w' ∧ w'.files = files ∧ w'.lists = lists)
      (fun w hw => by rw [hw.2]; exact hw.1)
    intro h
    obtain ⟨L, hL, hB⟩ := h.1.listTaken hslot
    have hclosed := h.1.closeList hslot hL
    rw [h.2.2] at hclosed
    apply triple_of_pre (K := Holding w' (consLock slot.lock L) w'.handles (w'.blocks - 1 + 1) True)
    . intro w hw
      rw [hw.2] at hL hB ⊢
      exact ⟨rfl, rfl, rfl, hL, rfl, hB, fun _ => trivial⟩
    . apply triple_bind (triple_release { block := true, lock := slot.lock })
      intro _
      apply triple_modify_solo
      intro w hw
      have hlists : w.lists = lists := hw.lists.trans h.2.2
      refine ⟨hclosed.of_holding (Q := True) { hw with lists := ?_ }, hw.files.trans h.2.1, ?_⟩
      . dsimp only
        rw [hlists]
      . dsimp only
        rw [hlists]

theorem triple_replyAccounted (reply : FileReply)
    : Triple (dosContract abi opt) (Accounted opt) (dosReply reply) (fun _ => Accounted opt) := by
  apply triple_accounted
  intro w₀ h₀
  exact triple_of_pre (fun w hw => hw.1) (triple_reply h₀ reply)

theorem triple_serveClose
    : Triple (dosContract abi opt) (Accounted opt) (serveClose req) (fun _ => Accounted opt) := by
  unfold serveClose
  cases (dosSlotIndex req.fd : Option (Fin abi.fdCount)) with
  | none => exact triple_replyAccounted _
  | some index =>
    apply triple_bind (J := fun w' w => Accounted opt w ∧ w' = w)
      (triple_read fun w hw => ⟨hw, rfl⟩)
    intro w'
    apply triple_ite
    . intro _
      apply triple_bind (J := fun _ => Accounted opt)
      . apply triple_mono (triple_closeFdIndex index w'.files w'.lists)
        . intro w hw
          rw [hw.2]
          exact ⟨hw.1, rfl, rfl⟩
        . exact fun _ w hw => hw.1
      . intro _
        exact triple_replyAccounted _
    . intro _
      exact triple_of_pre (fun w hw => hw.1) (triple_replyAccounted _)

theorem triple_serveListClose
    : Triple (dosContract abi opt) (Accounted opt) (serveListClose req)
        (fun _ => Accounted opt) := by
  unfold serveListClose
  cases (dosSlotIndex req.fd : Option (Fin abi.fdCount)) with
  | none => exact triple_replyAccounted _
  | some index =>
    apply triple_bind (J := fun w' w => Accounted opt w ∧ w' = w)
      (triple_read fun w hw => ⟨hw, rfl⟩)
    intro w'
    apply triple_ite
    . intro _
      apply triple_bind (J := fun _ => Accounted opt)
      . apply triple_mono (triple_closeListIndex index w'.files w'.lists)
        . intro w hw
          rw [hw.2]
          exact ⟨hw.1, rfl, rfl⟩
        . exact fun _ w hw => hw.1
      . intro _
        exact triple_replyAccounted _
    . intro _
      exact triple_of_pre (fun w hw => hw.1) (triple_replyAccounted _)

theorem triple_serveTransfer (h₀ : Accounted opt w₀)
    : Triple (dosContract abi opt) (Holding w₀ w₀.locks w₀.handles w₀.blocks True)
        (serveTransfer req) (fun _ => Accounted opt) := by
  unfold serveTransfer
  cases (dosSlotIndex req.fd : Option (Fin abi.fdCount)) with
  | none => exact triple_reply h₀ _
  | some index =>
    apply triple_bind triple_read_holding
    intro w'
    apply triple_of_fact (fun w hw => hw.2.files)
    intro hfiles
    rw [hfiles]
    apply triple_of_pre (fun w hw => hw.1)
    cases hslot : w₀.files index with
    | none => exact triple_reply h₀ _
    | some fh =>
      apply triple_ite
      . intro _
        exact triple_reply h₀ _
      . intro _
        apply triple_bind (triple_useHandle (h₀.mem_handles hslot))
        intro r
        cases r with
        | error e => exact triple_reply h₀ _
        | ok n => exact triple_reply h₀ _

theorem triple_serveSeek (h₀ : Accounted opt w₀)
    : Triple (dosContract abi opt) (Holding w₀ w₀.locks w₀.handles w₀.blocks True)
        (serveSeek req) (fun _ => Accounted opt) := by
  unfold serveSeek
  cases (dosSlotIndex req.fd : Option (Fin abi.fdCount)) with
  | none => exact triple_reply h₀ _
  | some index =>
    apply triple_bind triple_read_holding
    intro w'
    apply triple_of_fact (fun w hw => hw.2.files)
    intro hfiles
    rw [hfiles]
    apply triple_of_pre (fun w hw => hw.1)
    cases hslot : w₀.files index with
    | none => exact triple_reply h₀ _
    | some fh =>
      have hfh := h₀.mem_handles hslot
      apply triple_ite
      . intro _
        exact triple_reply h₀ _
      . intro _
        apply triple_ite
        . intro _
          exact triple_reply h₀ _
        . intro _
          apply triple_ite
          . intro _
            exact triple_reply h₀ _
          . intro _
            apply triple_bind (triple_useHandle hfh)
            intro r
            cases r with
            | error e => exact triple_reply h₀ _
            | ok position =>
              apply triple_bind (triple_useHandle hfh)
              intro r
              cases r with
              | error e => exact triple_reply h₀ _
              | ok current => exact triple_reply h₀ _

theorem triple_lockPath (path : List UInt8)
    : Triple (dosContract abi opt) (Holding w₀ w₀.locks w₀.handles w₀.blocks True)
        (lockPath opt path)
        (fun r w => (∀ e, r = .error e → Holding w₀ w₀.locks w₀.handles w₀.blocks True w)
          ∧ ∀ t, r = .ok t → Located opt w₀ t
            ∧ Holding w₀ (t.locks w₀.locks) w₀.handles w₀.blocks True w) := by
  unfold lockPath
  apply triple_ite
  . intro _
    apply triple_ite
    . intro habs
      apply triple_bind triple_read_holding
      intro w'
      apply triple_of_pre (fun w hw => hw.1)
      apply triple_bind (triple_lockFound _)
      intro r
      cases r with
      | error e =>
        apply triple_pure
        exact fun w hw => ⟨fun _ _ => (hw.1 e rfl).1.imp fun _ => trivial, fun t h => (nomatch h)⟩
      | ok n =>
        apply triple_pure
        intro w hw
        refine ⟨fun e h => (nomatch h), fun t h => ?_⟩
        rw [← Except.ok.inj h]
        refine ⟨fun m _ hno => ?_, (hw.2 n rfl).2⟩
        rw [habs] at hno
        contradiction
    . intro _
      apply triple_pure
      exact fun w hw => ⟨fun _ _ => hw, fun t h => (nomatch h)⟩
  . intro _
    apply triple_bind (triple_resolveRel path)
    intro r
    cases r with
    | error err =>
      apply triple_pure
      exact fun w hw => ⟨fun _ _ => (hw.1 err rfl).imp fun _ => trivial, fun t h => (nomatch h)⟩
    | ok target =>
      obtain ⟨dir, leaf⟩ := target
      apply triple_of_fact (fun w hw => (hw.2 (dir, leaf) rfl).2.2)
      intro hresult
      obtain ⟨_, hresolve, _⟩ := hresult
      have hdir : w₀.Below opt dir := under_of_resolve (w₀.tree.under_self opt.root) hresolve
      apply triple_of_pre (fun w hw => (hw.2 (dir, leaf) rfl).2.1)
      apply triple_bind (triple_lockTarget hdir)
      intro r
      cases r with
      | error err =>
        apply triple_of_pre (fun w hw => hw.1 err rfl)
        apply triple_bind (triple_release { dir := some dir })
        intro _
        apply triple_pure
        exact fun w hw => ⟨fun _ _ => hw, fun t h => (nomatch h)⟩
      | ok n =>
        apply triple_pure
        intro w hw
        refine ⟨fun e h => (nomatch h), fun t h => ?_⟩
        rw [← Except.ok.inj h]
        refine ⟨fun m hm => ?_, (hw.2 n rfl).2⟩
        rw [← Option.some.inj hm]
        exact (hw.2 n rfl).1

theorem triple_statTarget (h₀ : Accounted opt w₀) {t : Target ν} (ht : Located opt w₀ t)
    : Triple (dosContract abi opt) (Holding w₀ (t.locks w₀.locks) w₀.handles w₀.blocks True)
        (statTarget req t) (fun _ => Accounted opt) := by
  unfold statTarget
  apply triple_bind (triple_examine (ht.taken w₀.locks))
  intro info
  apply triple_giveBack { lock := t.lock, dir := t.dir }
  cases info with
  | error e => exact triple_reply h₀ _
  | ok info => exact triple_reply h₀ _

theorem triple_serveStat (h₀ : Accounted opt w₀)
    : Triple (dosContract abi opt) (Holding w₀ w₀.locks w₀.handles w₀.blocks True)
        (serveStat opt window req) (fun _ => Accounted opt) := by
  unfold serveStat
  cases pathFromWire abi window req.pathOff with
  | none => exact triple_reply h₀ _
  | some path =>
    cases path with
    | nil => exact triple_reply h₀ _
    | cons c cs =>
      apply triple_bind (triple_lockPath (c :: cs))
      intro r
      cases r with
      | error err =>
        apply triple_of_pre (fun w hw => hw.1 err rfl)
        exact triple_reply h₀ _
      | ok t =>
        apply triple_of_fact (fun w hw => (hw.2 t rfl).1)
        intro ht
        apply triple_of_pre (fun w hw => (hw.2 t rfl).2)
        exact triple_statTarget h₀ ht

theorem triple_leaveList (h₀ : Accounted opt w₀) (t : Target ν) (block : Bool) (err : Int)
    : Triple (dosContract abi opt)
        (Holding w₀ (t.locks w₀.locks) w₀.handles (if block then w₀.blocks + 1 else w₀.blocks) True)
        (leaveList req t block err) (fun _ => Accounted opt) :=
  triple_giveBack { block, lock := t.lock, dir := t.dir } (triple_reply h₀ _)

theorem triple_listTarget (h₀ : Accounted opt w₀) (hfree : w₀.lists index = none) {t : Target ν}
    (ht : Located opt w₀ t)
    : Triple (dosContract abi opt) (Holding w₀ (t.locks w₀.locks) w₀.handles w₀.blocks True)
        (listTarget req index t) (fun _ => Accounted opt) := by
  have hleave (err : Int) : Triple (dosContract abi opt)
      (Holding w₀ (t.locks w₀.locks) w₀.handles (w₀.blocks + 1) True) (leaveList req t true err)
      (fun _ => Accounted opt) :=
    triple_leaveList h₀ t true err
  unfold listTarget
  apply triple_bind triple_requestIsCurrent
  intro _
  apply triple_ite
  . intro _
    apply triple_bind triple_allocInfo
    intro block
    apply triple_ite
    . intro hblock
      rw [if_pos hblock]
      apply triple_bind (triple_examine (ht.taken w₀.locks))
      intro r
      cases r with
      | error e => exact hleave _
      | ok info =>
        apply triple_ite
        . intro _
          exact hleave _
        . intro _
          apply triple_bind triple_requestIsCurrent
          intro _
          apply triple_ite
          . intro _
            have h₁ := h₀.openList hfree ⟨t.lock, info⟩
            have hswap : t.locks w₀.locks = consLock t.dir (consLock t.lock w₀.locks) := by
              ext n
              unfold Target.locks
              simp only [count_consLock]
              omega
            rw [hswap]
            apply triple_bind (J := fun _ w => Holding { w₀ with
              lists := Function.update w₀.lists index (some ⟨t.lock, info⟩)
              locks := consLock t.lock w₀.locks
              blocks := w₀.blocks + 1 } (consLock t.dir (consLock t.lock w₀.locks)) w₀.handles
              (w₀.blocks + 1) True w)
            . apply triple_modify_solo
              exact fun w hw => { hw with lists := by rw [hw.lists] }
            . intro _
              exact triple_giveBack { dir := t.dir } (triple_reply h₁ _)
          . intro _
            exact hleave _
    . intro hblock
      rw [if_neg hblock]
      exact triple_leaveList h₀ t false _
  . intro _
    exact triple_leaveList h₀ t false _

theorem triple_serveListOpen (h₀ : Accounted opt w₀)
    : Triple (dosContract abi opt) (Holding w₀ w₀.locks w₀.handles w₀.blocks True)
        (serveListOpen opt window req) (fun _ => Accounted opt) := by
  unfold serveListOpen
  cases (dosSlotIndex req.fd : Option (Fin abi.fdCount)) with
  | none => exact triple_reply h₀ _
  | some index =>
    apply triple_bind triple_read_holding
    intro w'
    apply triple_of_fact (fun w hw => hw.2.lists)
    intro hlists
    rw [hlists]
    apply triple_of_pre (fun w hw => hw.1)
    apply triple_ite
    . intro _
      exact triple_reply h₀ _
    . intro hused
      have hfree : w₀.lists index = none := by simpa using hused
      cases pathFromWire abi window req.pathOff with
      | none => exact triple_reply h₀ _
      | some path =>
        cases path with
        | nil =>
          apply triple_bind (triple_dupLock opt.root)
          intro r
          have ht : Located opt w₀ { lock := some opt.root, dir := none } := by
            intro n hn _
            rw [← Option.some.inj hn]
            exact w₀.tree.under_self opt.root
          cases r with
          | none =>
            apply triple_of_pre (fun w hw => (hw.1 rfl).failed True)
            exact triple_listTarget h₀ hfree (t := { lock := none, dir := none })
              (fun n hn => (nomatch hn))
          | some n =>
            apply triple_of_fact (fun w hw => (hw.2 n rfl).1)
            intro hn
            rw [← hn] at ht
            apply triple_of_pre (fun w hw => (hw.2 n rfl).2)
            rw [← hn]
            exact triple_listTarget h₀ hfree ht
        | cons c cs =>
          apply triple_bind (triple_lockPath (c :: cs))
          intro r
          cases r with
          | error err =>
            apply triple_of_pre (fun w hw => hw.1 err rfl)
            exact triple_reply h₀ _
          | ok t =>
            apply triple_of_fact (fun w hw => (hw.2 t rfl).1)
            intro ht
            apply triple_of_pre (fun w hw => (hw.2 t rfl).2)
            exact triple_listTarget h₀ hfree ht

theorem triple_serveListNext (h₀ : Accounted opt w₀)
    : Triple (dosContract abi opt) (Holding w₀ w₀.locks w₀.handles w₀.blocks True)
        (serveListNext req) (fun _ => Accounted opt) := by
  unfold serveListNext
  cases (dosSlotIndex req.fd : Option (Fin abi.fdCount)) with
  | none => exact triple_reply h₀ _
  | some index =>
    apply triple_bind triple_read_holding
    intro w'
    apply triple_of_fact (fun w hw => hw.2.lists)
    intro hlists
    rw [hlists]
    apply triple_of_pre (fun w hw => hw.1)
    cases hslot : w₀.lists index with
    | none => exact triple_reply h₀ _
    | some slot =>
      apply triple_bind triple_requestIsCurrent
      intro _
      apply triple_ite
      . intro _
        apply triple_bind (triple_exNext fun n hn => h₀.mem_locks hslot hn)
        intro r
        cases r with
        | error e => exact triple_reply h₀ _
        | ok info =>
          have h₁ := h₀.nextEntry hslot info
          apply triple_bind (J := fun _ w => Holding { w₀ with
            lists := Function.update w₀.lists index (some { slot with info }) } w₀.locks w₀.handles
            w₀.blocks True w)
          . apply triple_modify_solo
            exact fun w hw => { hw with lists := by rw [hw.lists] }
          . intro _
            apply triple_bind triple_requestIsCurrent
            intro _
            apply triple_ite
            . intro _
              apply triple_bind (J := fun _ => Holding _ w₀.locks w₀.handles w₀.blocks True)
              . apply triple_modify_solo
                exact fun w hw => { hw with }
              . intro _
                exact triple_reply h₁ _
            . intro _
              apply triple_pure
              exact fun w hw => h₁.of_holding hw
      . intro _
        apply triple_pure
        exact fun w hw => h₀.of_holding hw

theorem triple_serveRequest
    : Triple (dosContract abi opt) (Accounted opt) (serveRequest opt window req)
        (fun _ => Accounted opt) := by
  have hstart {c : DosService abi ν Unit} (hc : ∀ w₀, Accounted opt w₀ →
      Triple (dosContract abi opt) (Holding w₀ w₀.locks w₀.handles w₀.blocks True) c
        (fun _ => Accounted opt))
      : Triple (dosContract abi opt) (Accounted opt) c (fun _ => Accounted opt) := by
    apply triple_accounted
    intro w₀ h₀
    exact triple_of_pre (fun w hw => hw.1) (hc w₀ h₀)
  unfold serveRequest
  cases req.op with
  | «open» => exact hstart fun _ h₀ => triple_serveOpen h₀
  | close => exact triple_serveClose
  | read => exact hstart fun _ h₀ => triple_serveTransfer h₀
  | write => exact hstart fun _ h₀ => triple_serveTransfer h₀
  | seek => exact hstart fun _ h₀ => triple_serveSeek h₀
  | stat => exact hstart fun _ h₀ => triple_serveStat h₀
  | listOpen => exact hstart fun _ h₀ => triple_serveListOpen h₀
  | listNext => exact hstart fun _ h₀ => triple_serveListNext h₀
  | listClose => exact triple_serveListClose
  | other => exact triple_replyAccounted _

/-- A pass over the file slot keeps the accounts, however the volumes have changed before it. -/
theorem triple_serveFiles (turn : FileTurn ν)
    : Triple (dosContract abi opt) (Accounted opt) (serveFiles opt turn)
        (fun _ => Accounted opt) := by
  unfold serveFiles
  apply triple_bind (J := fun _ => Accounted opt)
  . apply triple_modify_solo
    exact fun w hw => ⟨hw.locks, hw.handles, hw.blocks⟩
  . intro _
    apply triple_bind (J := fun _ => Accounted opt) (triple_read fun w hw => hw)
    intro w'
    apply triple_ite
    . intro _
      exact triple_pure fun w hw => hw
    . intro _
      exact triple_serveRequest

theorem accounted_opened (tree : DosTree ν) (data : Nat → UInt8)
    : Accounted opt (.opened tree opt.root data : DosWorld abi ν) where
  locks := by
    intro n
    have hzero : total (lockWeight n) (fun _ : Fin abi.fdCount => none) = 0 :=
      total_eq_zero fun _ => rfl
    simp only [DosWorld.opened, Multiset.count_singleton, hzero, Nat.add_zero]
  handles := by
    intro n
    have hzero : total (fileWeight n) (fun _ : Fin abi.fdCount => none) = 0 :=
      total_eq_zero fun _ => rfl
    simp only [DosWorld.opened, Multiset.count_zero, hzero]
  blocks := by
    have hzero : total (blockWeight (ν := ν)) (fun _ : Fin abi.fdCount => none) = 0 :=
      total_eq_zero fun _ => rfl
    simp only [DosWorld.opened, hzero]

end Requests

section Sample

def sampleAbi : PathAbi where
  fdBase := 3
  fdCount := 2
  dataBytes := 65536
  pathOff := 256
  pathBytes := 256
  pathMax := 256
  pathFits := Nat.le_refl 256
  flagRead := 1
  flagWrite := 2
  flagCreate := 4
  modeFile := 1
  modeDir := 2
  seekSet := 0
  seekCur := 1
  seekEnd := 2

/-- A volume 0 with the drawer 1 as `ROOT`, in which there is `a/b`. -/
def sampleTree : DosTree Nat where
  parent := fun n => if n = 0 then none else some (n - 1)
  depth := id
  parent_depth := by
    intro n p h
    split at h
    . contradiction
    . rw [← Option.some.inj h, id, id]
      omega
  find := fun dir name =>
    if dir = 1 ∧ name = [97] then .ok 2
    else if dir = 2 ∧ name = [98] then .ok 3
    else .error .objectNotFound
  findAbs := fun _ => .error .deviceNotMounted
  create := fun _ _ => 4
  createAbs := fun _ => 4

def sampleRoot : RootOptions Nat where
  root := 1
  absPaths := false

/-- `a/../a/b` -/
def samplePath : List UInt8 := [97, 47, 46, 46, 47, 97, 47, 98]

def sampleTurn (seq : UInt32) (op : FileOp) (path : List UInt8) : FileTurn Nat where
  tree := sampleTree
  window := fun i => path.getD (i - 256) 0
  request := { seq, op, fd := 3, flags := 1, whence := 0, pathOff := 256, length := 0, offset := 0 }

/-- A file and the list of `ROOT` are opened, and a path that leads out of it is refused. -/
def sampleTurns : List (FileTurn Nat) := [
  sampleTurn 2 .open samplePath,
  sampleTurn 6 .listOpen [],
  sampleTurn 10 .stat [47, 97]
]

def sampleAnswers : List DosAnswer :=
  List.replicate 64 ⟨none, none, ⟨1, 0, ⟨0, 0, 0⟩, []⟩, 0⟩

abbrev sampleWorld : DosWorld sampleAbi Nat := .opened sampleTree sampleRoot.root fun _ => 0

end Sample

section Results

variable {abi : PathAbi} {ν : Type} [DecidableEq ν] {opt : RootOptions ν}
variable {answers : List DosAnswer} {w w' : DosWorld abi ν}
variable {marks : Trace (DosWorld abi ν) (DosMark ν)}

/--
The directory of a path and its last name are where the steps of the path lead, and the directory
is below `ROOT`. Unless a call fails, a path is refused only if its steps lead nowhere or out of
`ROOT`.
-/
theorem resolveRel_resolves {path : List UInt8}
    {stop : Stop (DosWorld abi ν) (DosMark ν) Empty DosAnswer (Except Int (ν × List UInt8))}
    (hexec : (resolveRel opt path).exec w answers = some (marks, w', stop))
    : ∃ r, stop = .done r
        ∧ (∀ dir leaf, r = .ok (dir, leaf) → w.Below opt dir ∧ w'.locks = dir ::ₘ w.locks
          ∧ ShortNames path
          ∧ ∃ last, w.resolve opt opt.root (pathSteps path) = .ok (dir, last)
            ∧ leaf = last.getD [])
        ∧ ∀ e, r = .error e → w'.locks = w.locks
          ∧ (w'.failed = false → ShortNames path →
            w.resolve opt opt.root (pathSteps path) = .error e) := by
  have hstart : Holding w w.locks w.handles w.blocks True w :=
    ⟨rfl, rfl, rfl, rfl, rfl, rfl, fun _ => trivial⟩
  obtain ⟨_, r, hstop, herror, hok⟩ := exec_of_triple (triple_resolveRel path) hstart hexec
    (fun _ _ => trivial)
  refine ⟨r, hstop, ?_, ?_⟩
  . intro dir leaf hr
    obtain ⟨hshort, hw, last, hresolve, hleaf⟩ := hok (dir, leaf) hr
    have hbelow := under_of_resolve (w.tree.under_self opt.root) hresolve
    exact ⟨hbelow, hw.locks, hshort, last, hresolve, hleaf⟩
  . intro e hr
    have hw := herror e hr
    exact ⟨hw.locks, fun hfailed hshort => (hw.holds hfailed).2 hshort⟩

theorem resolveRel_resolves_sample
    : ∃ marks w' stop, (resolveRel sampleRoot samplePath).exec sampleWorld sampleAnswers
          = some (marks, w', stop)
        ∧ ∃ r, stop = .done r
          ∧ (∀ dir leaf, r = .ok (dir, leaf) → sampleWorld.Below sampleRoot dir
            ∧ w'.locks = dir ::ₘ sampleWorld.locks ∧ ShortNames samplePath
            ∧ ∃ last, sampleWorld.resolve sampleRoot sampleRoot.root (pathSteps samplePath)
                = .ok (dir, last)
              ∧ leaf = last.getD [])
          ∧ ∀ e, r = .error e → w'.locks = sampleWorld.locks
            ∧ (w'.failed = false → ShortNames samplePath →
              sampleWorld.resolve sampleRoot sampleRoot.root (pathSteps samplePath)
                = .error e) := by
  have hsome : ((resolveRel sampleRoot samplePath).exec sampleWorld sampleAnswers).isSome := by
    decide +kernel
  obtain ⟨⟨marks, w', stop⟩, hexec⟩ := Option.isSome_iff_exists.mp hsome
  exact ⟨marks, w', stop, hexec, resolveRel_resolves hexec⟩

/-- Only objects below `ROOT` are touched, and names there that lead nowhere are created. -/
def DosMark.Confined (opt : RootOptions ν) (m : DosMark ν) (w : DosWorld abi ν) : Prop :=
  match m with
  | .opens dir leaf mode => w.Below opt dir ∧ w.Openable opt dir leaf (mode = .newFile)
  | .opensAbs => False
  | .examines n => ∀ m, n = some m → w.Below opt m
  | _ => True

/-- Without `ABS` no request of an app leaves `ROOT`. -/
theorem files_confined (habs : opt.absPaths = false) {tree : DosTree ν} {data : Nat → UInt8}
    {turns : List (FileTurn ν)} {stop : Stop (DosWorld abi ν) (DosMark ν) Empty DosAnswer Unit}
    (hexec : (steps (serveFiles opt) turns).exec (.opened tree opt.root data) answers
      = some (marks, w', stop))
    : ∀ m ∈ marks, m.1.Confined opt m.2 := by
  have hrun := exec_of_triple (triple_steps triple_serveFiles turns)
    (accounted_opened tree data) hexec (fun _ _ => trivial)
  intro m hm
  have hproper := hrun.1 m hm
  obtain ⟨mark, v⟩ := m
  cases mark with
  | opens dir leaf mode => exact hproper
  | opensAbs =>
    have hno : opt.absPaths = true := hproper
    rw [habs] at hno
    contradiction
  | examines n => exact fun m hm => (hproper m hm).2 habs
  | _ => trivial

theorem files_confined_sample
    : ∃ marks w' stop, (steps (serveFiles sampleRoot) sampleTurns).exec sampleWorld sampleAnswers
          = some (marks, w', stop)
        ∧ ∀ m ∈ marks, m.1.Confined sampleRoot m.2 := by
  have hsome : ((steps (serveFiles sampleRoot) sampleTurns).exec sampleWorld
      sampleAnswers).isSome := by
    decide +kernel
  obtain ⟨⟨marks, w', stop⟩, hexec⟩ := Option.isSome_iff_exists.mp hsome
  exact ⟨marks, w', stop, hexec, files_confined rfl hexec⟩

end Results

end ZZRun
