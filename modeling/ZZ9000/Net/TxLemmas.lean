import Mathlib.Data.List.Range
import Mathlib.Logic.Relation
import ZZ9000.Net.Tx

/-!
This module proves that the TX slot accounting follows a firmware that retires frames in the order
of their submission, and shows its count in `ETH_TX_STATUS` modulo `2 ^ 15`.
-/

namespace ZZNet

/-- The slot in a word written to `ETH_TX`. -/
def txWordSlot (word : UInt16) : UInt8 := ((word >>> txSlotShift) &&& 3).toUInt8

/-- A value of `ETH_TX_STATUS` read when `count` frames had been retired. -/
def TxCounts (status : UInt16) (count : Nat) : Prop :=
  (status &&& txStatusCount).toNat = count % 2 ^ 15

/--
The driver and the firmware. `owned` are the submitted words not retired yet, the oldest first, and
`seen` is the count in the status that was last reclaimed.
-/
structure TxWorld where
  state : TxState
  owned : List UInt16
  retired : Nat
  seen : Nat
  submissions : Nat

/-- What `write_frame` leaves. A word it writes is a submission. -/
def TxWorld.send (world : TxWorld) (sent : UInt32 × Option UInt16 × TxState) : TxWorld :=
  match sent with
  | (_, some word, state) =>
    { world with state, owned := world.owned ++ [word], submissions := world.submissions + 1 }
  | (_, none, state) => { world with state }

inductive TxStep : TxWorld → TxWorld → Prop where
  | send (world : TxWorld) (slot : UInt8) (shift : Bool) (req : TxRequest) :
    txSlot world.state = some slot → TxStep world (world.send (writeFrame world.state shift req slot))
  | reclaim (world : TxWorld) (status : UInt16) (count : Nat) :
    world.seen ≤ count → count ≤ world.retired → TxCounts status count →
      TxStep world { world with state := (txReclaim world.state status).2, seen := count }
  | retire (world : TxWorld) (word : UInt16) (owned : List UInt16) :
    world.owned = word :: owned → TxStep world { world with owned, retired := world.retired + 1 }

def TxWorld.init (status : UInt16) (count : Nat) : TxWorld where
  state := (txReset status).2
  owned := []
  retired := count
  seen := count
  submissions := 0

theorem txStatusCount_and (status : UInt16)
    : (status &&& txStatusCount).toNat = status.toNat % 2 ^ 15 := by
  rw [UInt16.toNat_and]
  exact Nat.and_two_pow_sub_one_eq_mod status.toNat 15

theorem txLenMask_shift (len : UInt16) : (len &&& txLenMask) >>> txSlotShift = 0 := by
  apply UInt16.toNat_inj.mp
  rw [UInt16.toNat_shiftRight]
  rw [UInt16.toNat_and]
  have hmask : len.toNat &&& txLenMask.toNat = len.toNat % 2 ^ 11 := by
    exact Nat.and_two_pow_sub_one_eq_mod len.toNat 11
  rw [hmask]
  rw [Nat.shiftRight_eq_div_pow]
  apply Nat.div_eq_of_lt
  apply Nat.mod_lt
  decide

theorem txWordSlot_word {slot : UInt8} (h : slot.toNat < 4) (len : UInt16)
    : txWordSlot (txWord slot len) = slot ∧ txWordSlot (txWord slot len ||| txOffset2) = slot := by
  have hslot : slot = 0 ∨ slot = 1 ∨ slot = 2 ∨ slot = 3 := by
    simp only [← UInt8.toNat_inj, UInt8.reduceToNat]
    omega
  unfold txWordSlot txWord
  simp only [UInt16.shiftRight_or]
  rw [txLenMask_shift]
  rcases hslot with rfl | rfl | rfl | rfl <;> decide

theorem txSlot_eq_some {state : TxState} {slot : UInt8} (h : txSlot state = some slot)
    : state.inuse.toNat < 4 ∧ slot.toNat = state.next.toNat % 4 := by
  unfold txSlot at h
  split at h
  next => simp at h
  next hfree =>
    simp only [Option.some.injEq] at h
    constructor
    . simpa [txSlots, UInt8.lt_iff_toNat_lt] using hfree
    . rw [← h]
      rw [UInt8.toNat_and]
      exact Nat.and_two_pow_sub_one_eq_mod state.next.toNat 2

theorem writeFrame_of_not_copies {state : TxState} {shift : Bool} {req : TxRequest} {slot : UInt8}
    (h : req.copies = false)
    : (writeFrame state shift req slot).2 = (none, state) := by
  unfold writeFrame
  split
  next => rfl
  next => rfl

theorem writeFrame_cases (state : TxState) (shift : Bool) (req : TxRequest) {slot : UInt8}
    (h : slot.toNat < 4)
    : (writeFrame state shift req slot).2 = (none, state) ∨
      ∃ word, txWordSlot word = slot ∧
        (writeFrame state shift req slot).2 = (some word, txSubmitted state) := by
  unfold writeFrame
  split
  next => exact Or.inl rfl
  next =>
    split
    next => exact Or.inl rfl
    next =>
      refine Or.inr ⟨_, ?_, rfl⟩
      split
      next => exact (txWordSlot_word h req.size).2
      next => exact (txWordSlot_word h req.size).1

/-- The status word counts on from the one before it, so the slots in use become free one by one. -/
theorem txReclaim_of_counts {state : TxState} {status : UInt16} {seen count : Nat}
    (hdone : state.done.toNat = seen % 2 ^ 15) (hseen : seen ≤ count)
    (hinuse : count - seen ≤ state.inuse.toNat) (hle : state.inuse.toNat ≤ 4)
    (hstatus : TxCounts status count)
    : (txReclaim state status).1.toNat = count - seen ∧
      (txReclaim state status).2.done.toNat = count % 2 ^ 15 ∧
      (txReclaim state status).2.inuse.toNat = state.inuse.toNat - (count - seen) ∧
      (txReclaim state status).2.next = state.next := by
  unfold TxCounts at hstatus
  have hn : (((status &&& txStatusCount) - state.done) &&& txStatusCount).toNat = count - seen := by
    rw [txStatusCount_and]
    rw [UInt16.toNat_sub]
    omega
  have hwide : state.inuse.toUInt16.toNat = state.inuse.toNat := by simp
  unfold txReclaim
  dsimp only
  split
  next hzero =>
    have hzero : state.inuse.toNat = 0 := by simp [hzero]
    dsimp only
    rw [hstatus, hzero]
    refine ⟨?_, rfl, by omega, rfl⟩
    rw [UInt16.toNat_zero]
    omega
  next =>
    rw [if_neg]
    . dsimp only
      rw [hn, hstatus]
      refine ⟨rfl, rfl, ?_, rfl⟩
      rw [UInt16.toNat_toUInt8, UInt16.toNat_sub, hwide, hn]
      omega
    . rw [gt_iff_lt, UInt16.lt_iff_toNat_lt, hn, hwide]
      omega

/--
The frames the firmware has not retired are the last ones submitted, in the slots of the ring in
turn. The slots in use are those frames and the ones retired since the last status.
-/
structure TxInv (start : Nat) (world : TxWorld) : Prop where
  start_le : start ≤ world.seen
  seen_le : world.seen ≤ world.retired
  owned : world.retired + world.owned.length = start + world.submissions
  done : world.state.done.toNat = world.seen % 2 ^ 15
  inuse : world.state.inuse.toNat + world.seen = start + world.submissions
  inuse_le : world.state.inuse.toNat ≤ 4
  next : world.state.next.toNat = world.submissions % 2 ^ 8
  slots : world.owned.map (fun word => (txWordSlot word).toNat)
    = (List.range' (world.retired - start) world.owned.length).map (· % 4)

theorem TxInv.init {status : UInt16} {start : Nat} (h : TxCounts status start)
    : TxInv start (TxWorld.init status start) where
  start_le := by simp [TxWorld.init]
  seen_le := by simp [TxWorld.init]
  owned := by simp [TxWorld.init]
  done := h
  inuse := by simp [TxWorld.init, txReset]
  inuse_le := by simp [TxWorld.init, txReset]
  next := by simp [TxWorld.init, txReset]
  slots := by simp [TxWorld.init]

theorem TxInv.submit {start : Nat} {world : TxWorld} (h : TxInv start world) {slot : UInt8}
    (hslot : txSlot world.state = some slot) {word : UInt16} (hword : txWordSlot word = slot)
    : TxInv start
        { world with
          state := txSubmitted world.state
          owned := world.owned ++ [word]
          submissions := world.submissions + 1 } := by
  obtain ⟨hfree, hnext⟩ := txSlot_eq_some hslot
  have hinuse : (txSubmitted world.state).inuse.toNat = world.state.inuse.toNat + 1 := by
    unfold txSubmitted
    rw [UInt8.toNat_add]
    simp
    omega
  constructor
  case start_le => exact h.start_le
  case seen_le => exact h.seen_le
  case owned =>
    have := h.owned
    simp
    omega
  case done => exact h.done
  case inuse =>
    have := h.inuse
    dsimp only
    omega
  case inuse_le =>
    dsimp only
    omega
  case next =>
    have := h.next
    unfold txSubmitted
    dsimp only
    rw [UInt8.toNat_add]
    simp
    omega
  case slots =>
    have hstart := h.start_le
    have hseen := h.seen_le
    have howned := h.owned
    have hcount := h.next
    dsimp only
    rw [List.map_append, h.slots]
    rw [List.length_append, List.length_singleton, List.range'_1_concat, List.map_append]
    congr 1
    simp only [List.map_cons, List.map_nil, List.cons.injEq, and_true]
    rw [hword, hnext, hcount]
    omega

theorem TxInv.reclaim {start : Nat} {world : TxWorld} (h : TxInv start world) {status : UInt16}
    {count : Nat} (hseen : world.seen ≤ count) (hretired : count ≤ world.retired)
    (hstatus : TxCounts status count)
    : TxInv start { world with state := (txReclaim world.state status).2, seen := count } := by
  have hstart := h.start_le
  have howned := h.owned
  have hinuse := h.inuse
  have hreclaim := txReclaim_of_counts h.done hseen (by omega) h.inuse_le hstatus
  constructor
  case start_le =>
    dsimp only
    omega
  case seen_le => exact hretired
  case owned => exact howned
  case done => exact hreclaim.2.1
  case inuse =>
    dsimp only
    omega
  case inuse_le =>
    have := h.inuse_le
    dsimp only
    omega
  case next =>
    dsimp only
    rw [hreclaim.2.2.2]
    exact h.next
  case slots => exact h.slots

theorem TxInv.retire {start : Nat} {world : TxWorld} (h : TxInv start world) {word : UInt16}
    {owned : List UInt16} (howned : world.owned = word :: owned)
    : TxInv start { world with owned, retired := world.retired + 1 } := by
  have hstart := h.start_le
  have hseen := h.seen_le
  have hlength := h.owned
  have hslots := h.slots
  rw [howned, List.length_cons] at hlength hslots
  constructor
  case start_le => exact hstart
  case seen_le =>
    dsimp only
    omega
  case owned =>
    dsimp only
    omega
  case done => exact h.done
  case inuse => exact h.inuse
  case inuse_le => exact h.inuse_le
  case next => exact h.next
  case slots =>
    rw [List.range'_succ, List.map_cons, List.map_cons, List.cons.injEq] at hslots
    dsimp only
    rw [hslots.2]
    congr 2
    omega

theorem TxInv.step {start : Nat} {world world' : TxWorld} (h : TxInv start world)
    (hstep : TxStep world world')
    : TxInv start world' := by
  cases hstep with
  | send slot shift req hslot =>
    have hlt : slot.toNat < 4 := by
      have := (txSlot_eq_some hslot).2
      omega
    unfold TxWorld.send
    generalize hsent : writeFrame world.state shift req slot = sent
    cases writeFrame_cases world.state shift req hlt with
    | inl hnone =>
      rw [hsent] at hnone
      obtain ⟨rc, word, state⟩ := sent
      simp only [Prod.mk.injEq] at hnone
      rw [hnone.1, hnone.2]
      exact h
    | inr hsome =>
      obtain ⟨word, hword, hsome⟩ := hsome
      rw [hsent] at hsome
      obtain ⟨rc, word', state⟩ := sent
      simp only [Prod.mk.injEq] at hsome
      rw [hsome.1, hsome.2]
      exact h.submit hslot hword
  | reclaim status count hseen hretired hstatus => exact h.reclaim hseen hretired hstatus
  | retire word owned howned => exact h.retire howned

theorem TxInv.run {start : Nat} {world world' : TxWorld} (h : TxInv start world)
    (hrun : Relation.ReflTransGen TxStep world world')
    : TxInv start world' := by
  induction hrun with
  | refl => exact h
  | tail _ hstep ih => exact ih.step hstep

/-- The slot of the next submission is not among the slots of fewer than four frames before it. -/
theorem TxInv.slot_free {start : Nat} {world : TxWorld} (h : TxInv start world) {slot : UInt8}
    (hslot : txSlot world.state = some slot) {word : UInt16} (hword : word ∈ world.owned)
    : txWordSlot word ≠ slot := by
  intro heq
  obtain ⟨hfree, hnext⟩ := txSlot_eq_some hslot
  have hmem := List.mem_map_of_mem (f := fun word => (txWordSlot word).toNat) hword
  rw [h.slots] at hmem
  obtain ⟨number, hnumber, hmod⟩ := List.mem_map.mp hmem
  rw [List.mem_range'_1] at hnumber
  have hstart := h.start_le
  have hseen := h.seen_le
  have howned := h.owned
  have hinuse := h.inuse
  have hcount := h.next
  rw [heq] at hmod
  omega

/-- What the driver may rely on whatever the firmware has done. -/
structure TxSafe (start : Nat) (world : TxWorld) : Prop where
  slot_free : ∀ slot, txSlot world.state = some slot →
    ∀ word ∈ world.owned, txWordSlot word ≠ slot
  inuse_eq : world.state.inuse.toNat = world.submissions - (world.seen - start)
  inuse_le : world.state.inuse.toNat ≤ 4
  reclaim_eq : ∀ status count, world.seen ≤ count → count ≤ world.retired → TxCounts status count →
    (txReclaim world.state status).1.toNat = count - world.seen
  unsent : ∀ slot shift req, req.copies = false →
    (writeFrame world.state shift req slot).2 = (none, world.state)

theorem txRun_safe (status : UInt16) (start : Nat) (world : TxWorld) (hstatus : TxCounts status start)
    (hrun : Relation.ReflTransGen TxStep (TxWorld.init status start) world)
    : TxSafe start world := by
  have hinv := (TxInv.init hstatus).run hrun
  constructor
  case slot_free =>
    intro slot hslot word hword
    exact hinv.slot_free hslot hword
  case inuse_eq =>
    have := hinv.inuse
    have := hinv.start_le
    omega
  case inuse_le => exact hinv.inuse_le
  case reclaim_eq =>
    intro status count hseen hretired hcounts
    have hinuse := hinv.inuse
    have howned := hinv.owned
    exact (txReclaim_of_counts hinv.done hseen (by omega) hinv.inuse_le hcounts).1
  case unsent =>
    intro slot shift req hcopies
    exact writeFrame_of_not_copies hcopies

theorem txRun_safe_sent
    : TxSafe 0x7fff
        ((TxWorld.init 0xffff 0x7fff).send (writeFrame ⟨0x7fff, 0, 0⟩ true ⟨false, 60, true⟩ 0)) :=
  txRun_safe 0xffff 0x7fff _ (by unfold TxCounts; decide)
    (Relation.ReflTransGen.single (TxStep.send _ 0 true ⟨false, 60, true⟩ (by decide)))

/-! The loops of the source are runs of such steps. -/

/-- The firmware that retires `delays.head` frames, or all it has, before the next status read. -/
structure TxFirmware where
  owned : List UInt16
  retired : Nat
  delays : List Nat

def TxFirmware.delay (firmware : TxFirmware) : Nat :=
  min (firmware.delays.headD 0) firmware.owned.length

def TxFirmware.readStatus (firmware : TxFirmware) : UInt16 × TxFirmware :=
  let retired := firmware.retired + firmware.delay
  ( txStatusPresent ||| UInt16.ofNat (retired % 2 ^ 15),
    { owned := firmware.owned.drop firmware.delay, retired, delays := firmware.delays.tail } )

def TxWorld.Follows (world : TxWorld) (state : TxState) (firmware : TxFirmware) : Prop :=
  world.state = state ∧ world.owned = firmware.owned ∧ world.retired = firmware.retired

theorem TxFirmware.readStatus_counts (firmware : TxFirmware)
    : TxCounts firmware.readStatus.1 firmware.readStatus.2.retired := by
  unfold TxCounts TxFirmware.readStatus
  dsimp only
  generalize firmware.retired + firmware.delay = retired
  have hlt : retired % 2 ^ 15 < 2 ^ 15 := Nat.mod_lt _ (by decide)
  rw [txStatusCount_and, UInt16.toNat_or]
  rw [UInt16.toNat_ofNat_of_lt' (hlt.trans (by decide))]
  have hpresent : txStatusPresent.toNat = 2 ^ 15 * 1 := rfl
  rw [hpresent]
  rw [← Nat.two_pow_add_eq_or_of_lt hlt]
  omega

theorem TxWorld.retire_steps (world : TxWorld) (n : Nat) (h : n ≤ world.owned.length)
    : Relation.ReflTransGen TxStep world
        { world with owned := world.owned.drop n, retired := world.retired + n } := by
  induction n with
  | zero => exact Relation.ReflTransGen.refl
  | succ n ih =>
    apply Relation.ReflTransGen.tail (ih (by omega))
    have hcons := List.drop_eq_getElem_cons (l := world.owned) (i := n) (by omega)
    exact TxStep.retire _ _ _ hcons

theorem TxWorld.reclaim_steps {start : Nat} {world : TxWorld} (h : TxInv start world)
    {state : TxState} {firmware : TxFirmware} (hfollows : world.Follows state firmware)
    : ∃ world', Relation.ReflTransGen TxStep world world' ∧
        world'.Follows (txReclaim state firmware.readStatus.1).2 firmware.readStatus.2 := by
  obtain ⟨hstate, howned, hretired⟩ := hfollows
  have hdelay : firmware.delay ≤ world.owned.length := by
    rw [howned]
    exact Nat.min_le_right _ _
  have hseen := h.seen_le
  refine ⟨_, Relation.ReflTransGen.tail (world.retire_steps _ hdelay)
    (TxStep.reclaim _ firmware.readStatus.1 firmware.readStatus.2.retired ?_ ?_
      firmware.readStatus_counts), ?_⟩
  . dsimp only [TxFirmware.readStatus]
    omega
  . dsimp only [TxFirmware.readStatus]
    omega
  . rw [← hstate]
    refine ⟨rfl, ?_, ?_⟩
    . dsimp only [TxFirmware.readStatus]
      rw [howned]
    . dsimp only [TxFirmware.readStatus]
      rw [hretired]

theorem txWaitSlot_steps {start : Nat} (reads : Nat) {world : TxWorld} (h : TxInv start world)
    {state : TxState} {firmware : TxFirmware} (hfollows : world.Follows state firmware)
    : ∃ world', Relation.ReflTransGen TxStep world world' ∧
        world'.Follows (txWaitSlot TxFirmware.readStatus reads state firmware).1
          (txWaitSlot TxFirmware.readStatus reads state firmware).2 := by
  induction reads generalizing world state firmware with
  | zero => exact ⟨world, .refl, hfollows⟩
  | succ reads ih =>
    unfold txWaitSlot
    split
    next => exact ⟨world, .refl, hfollows⟩
    next =>
      obtain ⟨middle, hmiddle, hfollows⟩ := TxWorld.reclaim_steps h hfollows
      obtain ⟨world', hrun, hfollows⟩ := ih (h.run hmiddle) hfollows
      exact ⟨world', hmiddle.trans hrun, hfollows⟩

theorem txDrain_steps {start : Nat} (reads : Nat) {world : TxWorld} (h : TxInv start world)
    {state : TxState} {firmware : TxFirmware} (hfollows : world.Follows state firmware)
    : ∃ world', Relation.ReflTransGen TxStep world world' ∧
        world'.Follows (txDrain TxFirmware.readStatus reads state firmware).2.1
          (txDrain TxFirmware.readStatus reads state firmware).2.2 := by
  induction reads generalizing world state firmware with
  | zero => exact ⟨world, .refl, hfollows⟩
  | succ reads ih =>
    unfold txDrain
    split
    next =>
      obtain ⟨middle, hmiddle, hfollows⟩ := TxWorld.reclaim_steps h hfollows
      obtain ⟨world', hrun, hfollows⟩ := ih (h.run hmiddle) hfollows
      exact ⟨world', hmiddle.trans hrun, hfollows⟩
    next => exact ⟨world, .refl, hfollows⟩

theorem writeFrameAsync_steps {start : Nat} {world : TxWorld} (h : TxInv start world)
    {firmware : TxFirmware} (hfollows : world.Follows world.state firmware) (shift : Bool)
    (req : TxRequest)
    : ∃ world', Relation.ReflTransGen TxStep world world' ∧
        world'.state = (writeFrameAsync TxFirmware.readStatus world.state shift req firmware).2.2.1 ∧
        world'.owned
          =
        (writeFrameAsync TxFirmware.readStatus world.state shift req firmware).2.2.2.owned ++
          (writeFrameAsync TxFirmware.readStatus world.state shift req firmware).2.1.toList := by
  unfold writeFrameAsync
  split
  next => exact ⟨world, .refl, rfl, by simp [hfollows.2.1]⟩
  next =>
    obtain ⟨middle, hmiddle, hstate, howned, _⟩ := txWaitSlot_steps txWaitReads h hfollows
    dsimp only
    generalize txWaitSlot TxFirmware.readStatus txWaitReads world.state firmware = waited at *
    rw [← hstate]
    split
    next slot hslot =>
      refine ⟨_, hmiddle.tail (TxStep.send middle slot shift req hslot), ?_⟩
      generalize writeFrame middle.state shift req slot = sent
      obtain ⟨rc, word, state⟩ := sent
      cases word with
      | none => simp [TxWorld.send, howned]
      | some word => simp [TxWorld.send, howned]
    next => exact ⟨middle, hmiddle, rfl, by simp [howned]⟩

end ZZNet
