import Mathlib.Data.List.ReduceOption
import Mathlib.Data.Nat.Bitwise
import ZZ9000.Net.RxBacklog

/-!
This module contains the proof that `rx.c` delivers the backlog of the firmware in order.
-/

namespace ZZNet

open Concurrency.Interrupted

theorem rxHeader_toNat (size serial : UInt16)
    : (rxHeader size serial).toNat = size.toNat * 65536 + serial.toNat := by
  have hsize := size.toNat_lt
  have hserial := serial.toNat_lt
  unfold rxHeader
  rw [UInt32.toNat_or, UInt32.toNat_shiftLeft]
  simp only [UInt16.toNat_toUInt32, UInt32.reduceToNat, Nat.reduceMod, Nat.shiftLeft_eq,
    Nat.reducePow]
  rw [Nat.mod_eq_of_lt (by omega), show (65536 : Nat) = 2 ^ 16 from rfl,
    Nat.mul_comm size.toNat, ← Nat.two_pow_add_eq_or_of_lt hserial]

theorem rxHeader_serial (size serial : UInt16)
    : (rxHeader size serial).toUInt16 = serial := by
  have hserial := serial.toNat_lt
  rw [← UInt16.toNat_inj, UInt32.toNat_toUInt16, rxHeader_toNat]
  omega

theorem rxHeader_size (size serial : UInt16)
    : (rxHeader size serial >>> 16).toUInt16 = size := by
  have hsize := size.toNat_lt
  have hserial := serial.toNat_lt
  rw [← UInt16.toNat_inj, UInt32.toNat_toUInt16, UInt32.toNat_shiftRight, rxHeader_toNat]
  simp only [UInt32.reduceToNat, Nat.reduceMod, Nat.shiftRight_eq_div_pow, Nat.reducePow]
  omega

theorem rxFrameSize_lt (size : RxFrameSize)
    : size.val.toNat < 2 ^ 15 := by
  have hmax := size.property.2
  rw [UInt16.le_iff_toNat_le] at hmax
  simp [rxMaxFrame] at hmax
  omega

theorem RxFrame.lengthWord_size (f : RxFrame)
    : f.lengthWord &&& ~~~rxLenOffset2 = f.size.val := by
  have hlt := rxFrameSize_lt f.size
  have hmask : ~~~rxLenOffset2 = 0x7fff := by decide
  rw [hmask, ← UInt16.toNat_inj, UInt16.toNat_and]
  have hmod (n : Nat) : n &&& (0x7fff : UInt16).toNat = n % 2 ^ 15 := Nat.and_two_pow_sub_one_eq_mod n 15
  rw [hmod]
  unfold lengthWord
  split
  . rw [UInt16.toNat_or, Nat.or_mod_two_pow]
    simp [rxLenOffset2]
    omega
  . apply Nat.mod_eq_of_lt
    omega

theorem RxFrame.lengthWord_offset2 (f : RxFrame)
    : (f.lengthWord &&& rxLenOffset2 != 0) = f.offset2 := by
  have hlt := rxFrameSize_lt f.size
  have hsize : f.size.val &&& rxLenOffset2 = 0 := by
    have hbit := Nat.and_two_pow f.size.val.toNat 15
    rw [Nat.testBit_lt_two_pow hlt] at hbit
    rw [← UInt16.toNat_inj, UInt16.toNat_and]
    simpa [rxLenOffset2] using hbit
  unfold lengthWord
  split
  . next hoffset =>
    have hor : (f.size.val ||| rxLenOffset2) &&& rxLenOffset2
        = (f.size.val &&& rxLenOffset2) ||| (rxLenOffset2 &&& rxLenOffset2) := by
      rw [← UInt16.toBitVec_inj]
      apply BitVec.and_or_distrib_right
    rw [hor, hsize, hoffset]
    decide
  . next hoffset =>
    rw [hsize]
    simpa using hoffset

theorem RxDecision.ofHeader_frame (f : RxFrame)
    : RxDecision.ofHeader (rxHeader f.lengthWord f.serial)
        = ⟨.wait, false, false, 0, f.size.val, f.serial, f.offset2⟩ := by
  unfold ofHeader
  rw [rxHeader_size, rxHeader_serial, f.lengthWord_size, f.lengthWord_offset2]

theorem rxFrame_serial (state : RxState) (d : RxDecision)
    : (rxFrame state d).1.serial = d.serial := by
  unfold rxFrame
  dsimp only
  split <;> rfl

theorem rxFrame_action (state : RxState) (d : RxDecision)
    : (rxFrame state d).1.action
        = if d.size < rxMinFrame ∨ d.size > rxMaxFrame then .drop else .deliver := by
  unfold rxFrame
  dsimp only
  split <;> rfl

theorem rxNext_readyValid {σ : Type} (state : RxState) (io : RxIo σ) (ctx : σ)
    : (rxNext state io ctx).2.1.readyValid = state.readyValid := by
  have hframe (d : RxDecision) : (rxFrame state d).2.readyValid = state.readyValid := by
    unfold rxFrame
    dsimp only
    split <;> rfl
  unfold rxNext
  dsimp only
  split
  . rfl
  . split
    . rfl
    . apply hframe

theorem rxSerialAfter_ge (serial : UInt16)
    : 2 ≤ rxSerialAfter serial := by
  unfold rxSerialAfter
  split
  . decide
  . next h => exact UInt16.not_lt.mp h

namespace RxWorld

/-- Frame `id` arrived and left the backlog, but was not delivered. -/
def Missed (w : RxWorld) (id : Nat) : Prop :=
  id < w.arrived ∧ (∀ f ∈ w.backlog, f.id ≠ id) ∧ ∀ f, some f ∈ w.delivered → f.id ≠ id

/--
The ack of a round took frame `id` although the round read the header of a frame before it: a restart
happened after that read, and both frames have the first serial after a restart.
-/
def TakenLate (w : RxWorld) (id : Nat) : Prop :=
  ∃ t ∈ w.taken, t.frame.id = id ∧ t.restarted = true ∧ t.frame.serial = 2
    ∧ ∃ f, t.presented = some f ∧ f.id < id ∧ f.serial = 2

structure Inv (w : RxWorld) : Prop where
  delivered_some : ∀ o ∈ w.delivered, o ≠ none
  delivered_sorted : w.delivered.reduceOption.Pairwise fun f g => f.id < g.id
  delivered_lt : ∀ f, some f ∈ w.delivered → f.id < w.arrived
  backlog_sorted : w.backlog.Pairwise fun f g => f.id < g.id
  backlog_lt : ∀ f ∈ w.backlog, f.id < w.arrived
  backlog_serial : ∀ f ∈ w.backlog, 2 ≤ f.serial
  missed : ∀ id, w.Missed id → (∃ f ∈ w.flushed, f.id = id) ∨ w.TakenLate id

/-- What is in the backlog arrived after what is delivered. -/
def Follows (w : RxWorld) : Prop :=
  ∀ d, some d ∈ w.delivered → ∀ f ∈ w.backlog, d.id < f.id

/-- The head of the backlog is the first frame after a restart. -/
def Restarted (w : RxWorld) : Prop :=
  w.backlog = [] ∧ w.frameSerial = 0 ∨ ∃ f backlog, w.backlog = f :: backlog ∧ f.serial = 2

/-- `f` is the frame that the last header read showed. -/
structure Shown (w : RxWorld) (f : RxFrame) : Prop where
  serial : 2 ≤ f.serial
  lt_arrived : f.id < w.arrived
  current : w.restarted = false → ∃ backlog, w.backlog = f :: backlog
  stale : w.restarted = true → f ∈ w.flushed ∧ (∀ g ∈ w.backlog, f.id < g.id) ∧ w.Restarted

variable {w : RxWorld} {f : RxFrame}

theorem Inv.event (h : w.Inv) (e : RxEvent)
    : (w.event e).Inv := by
  cases e with
  | arrive size offset2 =>
    have hlt := h.backlog_lt
    refine ⟨h.delivered_some, h.delivered_sorted, ?_, ?_, ?_, ?_, ?_⟩
    . intro f hf
      have := h.delivered_lt f hf
      show f.id < w.arrived + 1
      omega
    . simp only [RxWorld.event, List.pairwise_append, List.pairwise_singleton, List.mem_singleton]
      refine ⟨h.backlog_sorted, trivial, ?_⟩
      intro f hf g hg
      rw [hg]
      exact hlt f hf
    . simp only [RxWorld.event, List.mem_append, List.mem_singleton]
      intro f hf
      cases hf with
      | inl hf =>
        have := hlt f hf
        omega
      | inr hf =>
        rw [hf]
        exact Nat.lt_succ_self _
    . simp only [RxWorld.event, List.mem_append, List.mem_singleton]
      intro f hf
      cases hf with
      | inl hf => exact h.backlog_serial f hf
      | inr hf =>
        rw [hf]
        apply rxSerialAfter_ge
    . intro id hid
      apply h.missed
      simp only [Missed, RxWorld.event, List.mem_append, List.mem_singleton] at hid
      have hne : w.arrived ≠ id := hid.2.1 _ (.inr rfl)
      refine ⟨?_, ?_, hid.2.2⟩
      . have := hid.1
        omega
      . intro f hf
        exact hid.2.1 f (.inl hf)
  | restart =>
    refine ⟨h.delivered_some, h.delivered_sorted, h.delivered_lt, List.Pairwise.nil, ?_, ?_, ?_⟩
    . simp [RxWorld.event]
    . simp [RxWorld.event]
    . intro id hid
      simp only [RxWorld.event, List.mem_append]
      by_cases hbacklog : ∃ f ∈ w.backlog, f.id = id
      . obtain ⟨f, hf, hid⟩ := hbacklog
        exact .inl ⟨f, .inr hf, hid⟩
      . simp only [not_exists, not_and] at hbacklog
        cases h.missed id ⟨hid.1, hbacklog, hid.2.2⟩ with
        | inl hflushed =>
          obtain ⟨f, hf, hid⟩ := hflushed
          exact .inl ⟨f, .inl hf, hid⟩
        | inr htaken => exact .inr htaken

theorem Follows.event (h : w.Follows) (hinv : w.Inv) (e : RxEvent)
    : (w.event e).Follows := by
  cases e with
  | arrive size offset2 =>
    intro d hd f hf
    simp only [RxWorld.event, List.mem_append, List.mem_singleton] at hd hf
    cases hf with
    | inl hf => exact h d hd f hf
    | inr hf =>
      rw [hf]
      exact hinv.delivered_lt d hd
  | restart =>
    intro d hd f hf
    simp [RxWorld.event] at hf

theorem Restarted.event (h : w.Restarted) (e : RxEvent)
    : (w.event e).Restarted := by
  cases e with
  | arrive size offset2 =>
    right
    cases h with
    | inl h =>
      simp only [RxWorld.event, h.1, h.2, List.nil_append]
      refine ⟨_, [], rfl, ?_⟩
      show rxSerialAfter 0 = 2
      decide
    | inr h =>
      obtain ⟨f, backlog, hbacklog, hserial⟩ := h
      simp only [RxWorld.event, hbacklog, List.cons_append]
      exact ⟨f, _, rfl, hserial⟩
  | restart => exact .inl ⟨rfl, rfl⟩

theorem Shown.event (h : w.Shown f) (e : RxEvent)
    : (w.event e).Shown f := by
  cases e with
  | arrive size offset2 =>
    have hlt := h.lt_arrived
    refine ⟨h.serial, Nat.lt_succ_of_lt hlt, ?_, ?_⟩
    . intro hrestarted
      obtain ⟨backlog, hbacklog⟩ := h.current hrestarted
      simp only [RxWorld.event, hbacklog, List.cons_append]
      exact ⟨_, rfl⟩
    . intro hrestarted
      obtain ⟨hflushed, hbacklog, hfresh⟩ := h.stale hrestarted
      refine ⟨hflushed, ?_, hfresh.event _⟩
      simp only [RxWorld.event, List.mem_append, List.mem_singleton]
      intro g hg
      cases hg with
      | inl hg => exact hbacklog g hg
      | inr hg =>
        rw [hg]
        exact hlt
  | restart =>
    refine ⟨h.serial, h.lt_arrived, ?_, ?_⟩
    . intro hrestarted
      contradiction
    . intro _
      refine ⟨?_, ?_, .inl ⟨rfl, rfl⟩⟩
      . simp only [RxWorld.event, List.mem_append]
        cases hrestarted : w.restarted with
        | false =>
          obtain ⟨backlog, hbacklog⟩ := h.current hrestarted
          right
          simp [hbacklog]
        | true => exact .inl (h.stale hrestarted).1
      . simp [RxWorld.event]

/-- Between two rounds of `frame_proc`, and in a round until its decision. -/
def Steady (w : RxWorld) : Prop := w.Inv ∧ w.Follows

theorem Steady.event (h : w.Steady) (e : RxEvent)
    : (w.event e).Steady := by
  constructor
  . apply h.1.event
  . apply h.2.event h.1

theorem Steady.elapsed (h : w.Steady)
    : (elapse w).Steady := by
  apply elapse_induction (p := Steady)
  . intro w e h
    apply h.event
  . intro w gaps h
    exact ⟨⟨h.1.1, h.1.2, h.1.3, h.1.4, h.1.5, h.1.6, h.1.7⟩, h.2⟩
  . exact h

/-- `f` is the frame that the last header read showed, and no round delivered it yet. -/
structure Fresh (w : RxWorld) (f : RxFrame) : Prop where
  presented : w.presented = some f
  shown : w.Shown f
  newer : ∀ d, some d ∈ w.delivered → d.id < f.id

theorem Fresh.elapsed (h : w.Fresh f)
    : (elapse w).Fresh f := by
  apply elapse_induction (p := (Fresh · f))
  . intro w e h
    cases e with
    | arrive size offset2 => exact ⟨h.presented, h.shown.event _, h.newer⟩
    | restart => exact ⟨h.presented, h.shown.event _, h.newer⟩
  . intro w gaps h
    exact ⟨h.presented, ⟨h.shown.1, h.shown.2, h.shown.3, h.shown.4⟩, h.newer⟩
  . exact h

theorem Steady.present (h : w.Steady)
    : w.present.Steady :=
  ⟨⟨h.1.1, h.1.2, h.1.3, h.1.4, h.1.5, h.1.6, h.1.7⟩, h.2⟩

theorem Steady.fresh {backlog : List RxFrame} (h : w.Steady) (hbacklog : w.backlog = f :: backlog)
    : w.present.Fresh f := by
  have hmem : f ∈ w.backlog := by simp [hbacklog]
  refine ⟨?_, ⟨h.1.backlog_serial f hmem, h.1.backlog_lt f hmem, ?_, ?_⟩, ?_⟩
  . simp [RxWorld.present, hbacklog]
  . intro _
    exact ⟨backlog, hbacklog⟩
  . intro hrestarted
    contradiction
  . intro d hd
    exact h.2 d hd f hmem

/-- What a header read leaves: an empty slot, or the header of a frame nobody delivered yet. -/
def Reads (w : RxWorld) (header : UInt32) : Prop :=
  header = 0
    ∨ ∃ f, w.Fresh f ∧ header.toUInt16 = f.serial
        ∧ (w.restarted = false → header = rxHeader f.lengthWord f.serial)

theorem read32_reads (h : w.Steady)
    : (window.read32 w).2.Steady ∧ (window.read32 w).2.Reads (window.read32 w).1 := by
  have h := h.elapsed
  unfold window
  dsimp only
  refine ⟨h.present, ?_⟩
  unfold Reads sizeWord serialWord
  cases hbacklog : (elapse w).backlog with
  | nil => exact .inl (by decide)
  | cons f backlog =>
    dsimp only
    refine .inr ⟨f, h.fresh hbacklog, ?_, ?_⟩
    . apply rxHeader_serial
    . intro _
      rfl

theorem headerSplit_reads (h : w.Steady)
    : (rxHeaderSplit window.read16 w).2.Steady
        ∧ (rxHeaderSplit window.read16 w).2.Reads (rxHeaderSplit window.read16 w).1 := by
  have h := h.elapsed
  unfold rxHeaderSplit window
  simp only [OfNat.ofNat_ne_zero, if_false, if_true]
  split
  . next hserial => exact ⟨h.present, .inl rfl⟩
  . next hserial =>
    refine ⟨h.present.elapsed, ?_⟩
    unfold serialWord at hserial ⊢
    cases hbacklog : (elapse w).backlog with
    | nil =>
      simp [hbacklog] at hserial
    | cons f backlog =>
      have hfresh := (h.fresh hbacklog).elapsed
      dsimp only
      refine .inr ⟨f, hfresh, ?_, ?_⟩
      . apply rxHeader_serial
      . intro hrestarted
        obtain ⟨late, hlate⟩ := hfresh.shown.current hrestarted
        simp only [sizeWord, hlate]

variable (z2 : Bool) (fwVersion : UInt16)

theorem readHeader_reads (h : w.Steady)
    : (((window.hw z2 fwVersion).readHeader w).2.Steady)
        ∧ ((window.hw z2 fwVersion).readHeader w).2.Reads ((window.hw z2 fwVersion).readHeader w).1 := by
  unfold RxWindow.hw
  dsimp only
  split
  . apply headerSplit_reads h
  . apply read32_reads h

theorem rxRepeated_reads (h : w.Steady) (state : RxState) {header : UInt32} (hreads : w.Reads header)
    (serial : UInt16)
    : (rxRepeated state (window.hw z2 fwVersion) header serial w).2.Steady
        ∧ ((rxRepeated state (window.hw z2 fwVersion) header serial w).1 = false →
            (rxRepeated state (window.hw z2 fwVersion) header serial w).2.Reads header) := by
  unfold rxRepeated
  split
  . next hserial => exact ⟨h, fun _ => hreads⟩
  . next hserial =>
    split
    . exact ⟨h, by simp⟩
    . have hstatus : ((window.hw z2 fwVersion).rxStatus w).2.Steady := h.elapsed
      have hreads := readHeader_reads z2 fwVersion hstatus
      dsimp only
      split
      . exact ⟨hstatus, by simp⟩
      . refine ⟨hreads.1, ?_⟩
        intro hsame
        rw [bne_eq_false_iff_eq] at hsame
        rw [← hsame]
        exact hreads.2

/-- The frame that a decision is about, when the decision is taken. -/
theorem rxNext_decides (h : w.Steady) (state : RxState)
    : let d := rxNext state (window.hw z2 fwVersion) w
      d.2.2.Steady
        ∧ (d.1.action ≠ .wait →
            ∃ f, d.2.2.Fresh f ∧ d.1.serial = f.serial
              ∧ (d.1.action = .drop → d.2.2.restarted = true)) := by
  have hreads := readHeader_reads z2 fwVersion h
  unfold rxNext
  generalize (window.hw z2 fwVersion).readHeader w = read at hreads
  obtain ⟨header, w⟩ := read
  obtain ⟨hsteady, hreads⟩ := hreads
  dsimp only at hsteady hreads ⊢
  split
  . exact ⟨hsteady, by simp [RxDecision.ofHeader]⟩
  . next hempty =>
    have hrepeated := rxRepeated_reads z2 fwVersion hsteady state hreads (RxDecision.ofHeader header).serial
    split
    . exact ⟨hrepeated.1, by simp [RxDecision.ofHeader]⟩
    . next hnew =>
      rw [Bool.not_eq_true] at hnew
      refine ⟨hrepeated.1, ?_⟩
      intro _
      cases hrepeated.2 hnew with
      | inl hzero =>
        rw [hzero] at hempty
        exact absurd (by decide) hempty
      | inr hframe =>
        obtain ⟨f, hfresh, hserial, hheader⟩ := hframe
        refine ⟨f, hfresh, ?_, ?_⟩
        . rw [rxFrame_serial]
          exact hserial
        . intro hdrop
          rw [← Bool.not_eq_false]
          intro hrestarted
          rw [rxFrame_action, hheader hrestarted, RxDecision.ofHeader_frame] at hdrop
          obtain ⟨hmin, hmax⟩ := f.size.property
          simp [UInt16.not_lt.mpr hmin, UInt16.not_lt.mpr hmax] at hdrop

/-- A round has decided about `f` and is about to ack its serial. -/
structure Pending (w : RxWorld) (f : RxFrame) : Prop where
  presented : w.presented = some f
  inv : w.Inv
  shown : w.Shown f
  notOlder : ∀ d, some d ∈ w.delivered → d.id ≤ f.id
  settled : w.restarted = true ∨ some f ∈ w.delivered

theorem Pending.elapsed (h : w.Pending f)
    : (elapse w).Pending f := by
  apply elapse_induction (p := (Pending · f))
  . intro w e h
    refine ⟨?_, h.inv.event e, h.shown.event e, ?_, ?_⟩
    . cases e with
      | arrive size offset2 => exact h.presented
      | restart => exact h.presented
    . cases e with
      | arrive size offset2 => exact h.notOlder
      | restart => exact h.notOlder
    . cases e with
      | arrive size offset2 => exact h.settled
      | restart => exact .inl rfl
  . intro w gaps h
    have hinv := h.inv
    have hshown := h.shown
    exact ⟨h.presented, ⟨hinv.1, hinv.2, hinv.3, hinv.4, hinv.5, hinv.6, hinv.7⟩,
      ⟨hshown.1, hshown.2, hshown.3, hshown.4⟩, h.notOlder, h.settled⟩
  . exact h

theorem Fresh.drop (hfresh : w.Fresh f) (h : w.Steady) (hrestarted : w.restarted = true)
    : w.Pending f := by
  refine ⟨hfresh.presented, h.1, hfresh.shown, ?_, .inl hrestarted⟩
  intro d hd
  have := hfresh.newer d hd
  omega

theorem mem_delivered_deliver (hfresh : w.Fresh f) (d : RxDecision) (g : RxFrame)
    : some g ∈ (deliver d w).delivered ↔ some g ∈ w.delivered ∨ g = f := by
  unfold deliver
  rw [hfresh.presented]
  simp

theorem Fresh.deliver (hfresh : w.Fresh f) (h : w.Steady) (d : RxDecision)
    : (deliver d w).Pending f := by
  have hshown := hfresh.shown
  have hmem := mem_delivered_deliver hfresh d
  refine ⟨hfresh.presented, ⟨?_, ?_, ?_, h.1.backlog_sorted, h.1.backlog_lt, h.1.backlog_serial, ?_⟩,
    ⟨hshown.1, hshown.2, hshown.3, hshown.4⟩, ?_, .inr ((hmem f).mpr (.inr rfl))⟩
  . unfold RxWorld.deliver
    simp only [List.mem_append, List.mem_singleton]
    intro o ho
    cases ho with
    | inl ho => exact h.1.delivered_some o ho
    | inr ho =>
      rw [ho, hfresh.presented]
      simp
  . unfold RxWorld.deliver
    rw [hfresh.presented, List.reduceOption_append, List.pairwise_append]
    refine ⟨h.1.delivered_sorted, by simp, ?_⟩
    intro g hg f' hf'
    rw [List.reduceOption_mem_iff] at hg
    simp only [List.reduceOption_singleton, Option.toList_some, List.mem_singleton] at hf'
    rw [hf']
    exact hfresh.newer g hg
  . intro g hg
    cases (hmem g).mp hg with
    | inl hg => exact h.1.delivered_lt g hg
    | inr hg =>
      rw [hg]
      exact hshown.lt_arrived
  . intro id hid
    apply h.1.missed
    refine ⟨hid.1, hid.2.1, ?_⟩
    intro g hg
    exact hid.2.2 g ((hmem g).mpr (.inl hg))
  . intro g hg
    cases (hmem g).mp hg with
    | inl hg =>
      have := hfresh.newer g hg
      omega
    | inr hg => rw [hg]

theorem Inv.taken (h : w.Inv) {backlog : List RxFrame} (hbacklog : w.backlog = f :: backlog)
    (hnotOlder : ∀ d, some d ∈ w.delivered → d.id ≤ f.id)
    (hsettled : some f ∈ w.delivered ∨ w.restarted = true ∧ f.serial = 2
      ∧ ∃ g, w.presented = some g ∧ g.id < f.id ∧ g.serial = 2)
    : Steady { w with backlog, taken := w.taken ++ [⟨f, w.presented, w.restarted⟩] } := by
  have hsorted := h.backlog_sorted
  have hlt := h.backlog_lt
  have hserial := h.backlog_serial
  rw [hbacklog, List.pairwise_cons] at hsorted
  rw [hbacklog] at hlt hserial
  refine ⟨⟨h.delivered_some, h.delivered_sorted, h.delivered_lt, hsorted.2, ?_, ?_, ?_⟩, ?_⟩
  . intro g hg
    exact hlt g (List.mem_cons_of_mem _ hg)
  . intro g hg
    exact hserial g (List.mem_cons_of_mem _ hg)
  . intro id hid
    by_cases hhead : f.id = id
    . right
      refine ⟨⟨f, w.presented, w.restarted⟩, by simp, hhead, ?_⟩
      cases hsettled with
      | inl hdelivered => exact absurd hhead (hid.2.2 f hdelivered)
      | inr hlate =>
        rw [← hhead]
        exact hlate
    . have hmissed : w.Missed id := by
        refine ⟨hid.1, ?_, hid.2.2⟩
        rw [hbacklog]
        intro g hg
        cases hg with
        | head => exact hhead
        | tail _ hg => exact hid.2.1 g hg
      cases h.missed id hmissed with
      | inl hflushed => exact .inl hflushed
      | inr htaken =>
        obtain ⟨t, ht, htaken⟩ := htaken
        exact .inr ⟨t, List.mem_append_left _ ht, htaken⟩
  . intro d hd g hg
    have := hnotOlder d hd
    have := hsorted.1 g hg
    omega

theorem Pending.accept (h : w.Pending f) {serial : UInt16} (hserial : serial = f.serial)
    : (w.accept serial).Steady := by
  unfold RxWorld.accept
  cases hbacklog : w.backlog with
  | nil =>
    refine ⟨h.inv, ?_⟩
    intro d hd g hg
    simp [hbacklog] at hg
  | cons g backlog =>
    dsimp only
    cases hrestarted : w.restarted with
    | true =>
      obtain ⟨-, hnewer, hfirst⟩ := h.shown.stale hrestarted
      have hnotOlder : ∀ d, some d ∈ w.delivered → ∀ g ∈ w.backlog, d.id < g.id := by
        intro d hd g hg
        have := h.notOlder d hd
        have := hnewer g hg
        omega
      have hmem : g ∈ w.backlog := by simp [hbacklog]
      split
      . next haccepted =>
        have hfirst : g.serial = 2 := by
          cases hfirst with
          | inl hempty => simp [hbacklog] at hempty
          | inr hfirst =>
            obtain ⟨g', backlog', hbacklog', hserial'⟩ := hfirst
            rw [hbacklog] at hbacklog'
            cases hbacklog'
            exact hserial'
        rw [← hrestarted]
        apply h.inv.taken hbacklog
        . intro d hd
          have := hnotOlder d hd g hmem
          omega
        . right
          refine ⟨hrestarted, hfirst, f, h.presented, hnewer g hmem, ?_⟩
          rw [← hserial, haccepted, hfirst]
      . exact ⟨h.inv, hnotOlder⟩
    | false =>
      -- nothing but arrivals since the header was read, so its frame is still the head
      obtain ⟨backlog', hbacklog'⟩ := h.shown.current hrestarted
      rw [hbacklog] at hbacklog'
      cases hbacklog'
      rw [if_pos hserial, ← hrestarted]
      apply h.inv.taken hbacklog h.notOlder
      cases h.settled with
      | inl hsettled =>
        rw [hrestarted] at hsettled
        contradiction
      | inr hsettled => exact .inl hsettled

theorem Steady.frameProc (h : w.Steady) (state : RxState)
    : (frameProc state (window.hw z2 fwVersion) deliver window.accept w).2.2.Steady := by
  have hdecides := rxNext_decides z2 fwVersion h state
  unfold ZZNet.frameProc
  generalize rxNext state (window.hw z2 fwVersion) w = next at hdecides
  obtain ⟨d, state, w⟩ := next
  obtain ⟨hsteady, hdecides⟩ := hdecides
  dsimp only at hsteady hdecides ⊢
  cases haction : d.action with
  | wait => exact hsteady
  | drop =>
    obtain ⟨f, hfresh, hserial, hdrop⟩ := hdecides (by simp [haction])
    have hpending := hfresh.drop hsteady (hdrop haction)
    exact hpending.elapsed.accept hserial
  | deliver =>
    obtain ⟨f, hfresh, hserial, -⟩ := hdecides (by simp [haction])
    have hpending := hfresh.deliver hsteady d
    exact hpending.elapsed.accept hserial

/-- No restart happens before the next bus accesses. -/
def Quiet (w : RxWorld) : Prop := ∀ es ∈ w.gaps, ∀ e ∈ es, e ≠ .restart

/-- Since `w₀`, which has `f` at the head of `f :: backlog`, frames arrived and nothing else happened. -/
structure Waits (w₀ : RxWorld) (f : RxFrame) (backlog : List RxFrame) (w : RxWorld) : Prop where
  backlog : ∃ late, w.backlog = f :: (backlog ++ late) ∧ ∀ g ∈ late, w₀.arrived ≤ g.id
  arrived : w₀.arrived ≤ w.arrived
  delivered : w.delivered = w₀.delivered
  taken : w.taken = w₀.taken
  quiet : w.Quiet

variable {w₀ : RxWorld} {backlog : List RxFrame}

theorem Waits.elapsed (h : Waits w₀ f backlog w)
    : Waits w₀ f backlog (elapse w) ∧ (elapse w).presented = w.presented
        ∧ (elapse w).restarted = w.restarted := by
  have helapse := elapse_induction_of (s := w)
    (p := fun w' : RxWorld => (∃ late, w'.backlog = f :: (backlog ++ late) ∧ ∀ g ∈ late, w₀.arrived ≤ g.id)
      ∧ w₀.arrived ≤ w'.arrived ∧ w'.delivered = w₀.delivered ∧ w'.taken = w₀.taken
      ∧ w'.presented = w.presented ∧ w'.restarted = w.restarted)
    (q := fun e => e ≠ RxEvent.restart) ?_ ?_ h.quiet
    ⟨h.backlog, h.arrived, h.delivered, h.taken, rfl, rfl⟩
  . obtain ⟨hbacklog, harrived, hdelivered, htaken, hpresented, hrestarted⟩ := helapse
    refine ⟨⟨hbacklog, harrived, hdelivered, htaken, ?_⟩, hpresented, hrestarted⟩
    unfold Quiet
    rw [show (elapse w).gaps = w.gaps.tail from gaps_elapse w]
    intro es hes
    exact h.quiet es (List.mem_of_mem_tail hes)
  . intro w' e hq h
    cases e with
    | arrive size offset2 =>
      obtain ⟨⟨late, hlate, hids⟩, harrived, hrest⟩ := h
      refine ⟨⟨late ++ [⟨w'.arrived, size, offset2, rxSerialAfter w'.frameSerial⟩], ?_, ?_⟩,
        Nat.le_succ_of_le harrived, hrest⟩
      . show w'.backlog ++ _ = _
        rw [hlate, List.cons_append, List.append_assoc]
      . intro g hg
        rw [List.mem_append, List.mem_singleton] at hg
        cases hg with
        | inl hg => exact hids g hg
        | inr hg =>
          rw [hg]
          exact harrived
    | restart => contradiction
  . intro w' gaps h
    exact h

/-- A header read shows the head of the backlog. -/
structure Sees (w₀ : RxWorld) (f : RxFrame) (backlog : List RxFrame) (w : RxWorld) : Prop where
  waits : Waits w₀ f backlog w
  presented : w.presented = some f
  restarted : w.restarted = false

theorem Waits.present (h : Waits w₀ f backlog w)
    : Sees w₀ f backlog w.present := by
  obtain ⟨late, hlate, hids⟩ := h.backlog
  refine ⟨⟨⟨late, hlate, hids⟩, h.arrived, h.delivered, h.taken, h.quiet⟩, ?_, rfl⟩
  simp [RxWorld.present, hlate]

theorem Sees.elapsed (h : Sees w₀ f backlog w)
    : Sees w₀ f backlog (elapse w) := by
  obtain ⟨hwaits, hpresented, hrestarted⟩ := h.waits.elapsed
  refine ⟨hwaits, ?_, ?_⟩
  . rw [hpresented, h.presented]
  . rw [hrestarted, h.restarted]

theorem Waits.words (h : Waits w₀ f backlog w)
    : w.sizeWord = f.lengthWord ∧ w.serialWord = f.serial := by
  obtain ⟨late, hlate, -⟩ := h.backlog
  unfold sizeWord serialWord
  rw [hlate]
  exact ⟨rfl, rfl⟩

theorem Waits.ready (h : Waits w₀ f backlog w)
    : w.ready &&& ethRxStatusReady ≠ 0 := by
  obtain ⟨late, hlate, -⟩ := h.backlog
  have hlength : 0 < w.backlog.length := by simp [hlate]
  unfold RxWorld.ready
  split
  . decide
  . intro hzero
    have hand := congrArg UInt16.toNat hzero
    have hmod (n : Nat) : n &&& ethRxStatusReady.toNat = n % 2 ^ 8 := Nat.and_two_pow_sub_one_eq_mod n 8
    rw [UInt16.toNat_and, hmod] at hand
    simp at hand
    omega

theorem Waits.readHeader (h : Waits w₀ f backlog w) (hserial : f.serial ≠ 0)
    : ((window.hw z2 fwVersion).readHeader w).1 = rxHeader f.lengthWord f.serial
        ∧ Sees w₀ f backlog ((window.hw z2 fwVersion).readHeader w).2 := by
  obtain ⟨hwaits, -, -⟩ := h.elapsed
  obtain ⟨hsize, hserialWord⟩ := hwaits.words
  have hsees := hwaits.present
  unfold RxWindow.hw
  dsimp only
  split
  . unfold rxHeaderSplit window
    simp only [OfNat.ofNat_ne_zero, if_false, if_true]
    rw [hserialWord, if_neg hserial]
    have hlater := hsees.elapsed
    obtain ⟨hsize', -⟩ := hlater.waits.words
    rw [hsize']
    exact ⟨rfl, hlater⟩
  . unfold window
    dsimp only
    rw [hsize, hserialWord]
    exact ⟨rfl, hsees⟩

theorem Sees.rxRepeated (h : Sees w₀ f backlog w) (hserial : f.serial ≠ 0) {state : RxState}
    (hready : state.readyValid = true)
    : let repeated := rxRepeated state (window.hw z2 fwVersion) (rxHeader f.lengthWord f.serial) f.serial w
      repeated.1 = false ∧ Sees w₀ f backlog repeated.2 := by
  unfold ZZNet.rxRepeated
  split
  . exact ⟨rfl, h⟩
  . have hstatus : Sees w₀ f backlog ((window.hw z2 fwVersion).rxStatus w).2 := h.elapsed
    have hnonzero : ((window.hw z2 fwVersion).rxStatus w).1 &&& ethRxStatusReady ≠ 0 :=
      h.elapsed.waits.ready
    obtain ⟨hheader, hsees⟩ := hstatus.waits.readHeader z2 fwVersion hserial
    simp only [hserial, hready, Bool.true_eq_false, or_self, if_false, hnonzero]
    rw [hheader]
    exact ⟨bne_self_eq_false _, hsees⟩

theorem rxFrame_deliver {state : RxState} {d : RxDecision} (h : rxMinFrame ≤ d.size ∧ d.size ≤ rxMaxFrame)
    : (rxFrame state d).1
        = { d with
            action := .deliver
            overruns := (rxGap state d.serial).1
            badData := (rxGap state d.serial).2 } := by
  unfold rxFrame
  simp [UInt16.not_lt.mpr h.1, UInt16.not_lt.mpr h.2]

theorem Waits.rxNext (h : Waits w₀ f backlog w) (hserial : f.serial ≠ 0) {state : RxState}
    (hready : state.readyValid = true)
    : let d := rxNext state (window.hw z2 fwVersion) w
      d.1 = ⟨.deliver, false, (rxGap state f.serial).2, (rxGap state f.serial).1, f.size.val, f.serial,
          f.offset2⟩
        ∧ Sees w₀ f backlog d.2.2 := by
  obtain ⟨hheader, hsees⟩ := h.readHeader z2 fwVersion hserial
  obtain ⟨hrepeated, hsees⟩ := hsees.rxRepeated z2 fwVersion hserial hready
  unfold ZZNet.rxNext
  dsimp only
  rw [hheader, RxDecision.ofHeader_frame]
  dsimp only
  rw [if_neg (fun hempty => hserial hempty.2), hrepeated]
  simp only [Bool.false_eq_true, if_false]
  rw [rxFrame_deliver f.size.property]
  exact ⟨rfl, hsees⟩

/-- A round without a restart delivers and acks the frame at the head of the backlog. -/
theorem Waits.frameProc (h : Waits w₀ f backlog w) (hserial : f.serial ≠ 0) {state : RxState}
    (hready : state.readyValid = true)
    : let r := frameProc state (window.hw z2 fwVersion) deliver window.accept w
      r.1 = ⟨.deliver, false, (rxGap state f.serial).2, (rxGap state f.serial).1, f.size.val, f.serial,
          f.offset2⟩
        ∧ r.2.2.delivered = w₀.delivered ++ [some f]
        ∧ r.2.2.taken = w₀.taken ++ [⟨f, some f, false⟩]
        ∧ ∃ late, r.2.2.backlog = backlog ++ late ∧ ∀ g ∈ late, w₀.arrived ≤ g.id := by
  obtain ⟨hd, hsees⟩ := h.rxNext z2 fwVersion hserial hready
  unfold ZZNet.frameProc
  generalize ZZNet.rxNext state (window.hw z2 fwVersion) w = next at hd hsees
  obtain ⟨d, state', w⟩ := next
  dsimp only at hd hsees
  have hwaits := hsees.waits
  have hdelivered : Sees { w₀ with delivered := w₀.delivered ++ [some f] } f backlog (deliver d w) := by
    refine ⟨⟨hwaits.backlog, hwaits.arrived, ?_, hwaits.taken, hwaits.quiet⟩, hsees.presented,
      hsees.restarted⟩
    unfold deliver
    rw [hwaits.delivered, hsees.presented]
  have hacked := hdelivered.elapsed
  obtain ⟨late, hlate, hids⟩ := hacked.waits.backlog
  have haccept : window.accept f.serial (deliver d w)
      = { (elapse (deliver d w)) with
          backlog := backlog ++ late
          taken := w₀.taken ++ [⟨f, some f, false⟩] } := by
    show (elapse (deliver d w)).accept f.serial = _
    unfold accept
    rw [hlate]
    dsimp only
    rw [if_pos rfl, hacked.waits.taken, hacked.presented, hacked.restarted]
  rw [hd] at haccept hacked ⊢
  dsimp only
  rw [haccept]
  exact ⟨rfl, hacked.waits.delivered, rfl, late, rfl, hids⟩

theorem steady_init
    : init.Steady := by
  refine ⟨⟨?_, ?_, ?_, ?_, ?_, ?_, ?_⟩, ?_⟩
  . simp [init]
  . simp [init]
  . simp [init]
  . simp [init]
  . simp [init]
  . simp [init]
  . intro id hid
    exact absurd hid.1 (Nat.not_lt_zero id)
  . intro d hd
    simp [init] at hd

end RxWorld

namespace RxRun

variable (z2 : Bool) (fwVersion : UInt16)

theorem steady_step {r : RxRun} (h : r.world.Steady) (s : RxStep)
    : (r.step z2 fwVersion s).world.Steady := by
  cases s with
  | event e => exact RxWorld.Steady.event h e
  | framer gaps =>
    have hgaps : RxWorld.Steady { r.world with gaps } :=
      ⟨⟨h.1.1, h.1.2, h.1.3, h.1.4, h.1.5, h.1.6, h.1.7⟩, h.2⟩
    exact hgaps.frameProc z2 fwVersion r.state

theorem steady_run {r : RxRun} (h : r.world.Steady) (steps : List RxStep)
    : (r.run z2 fwVersion steps).world.Steady := by
  induction steps generalizing r with
  | nil => exact h
  | cons s steps ih =>
    apply ih
    apply steady_step z2 fwVersion h

theorem readyValid_framer (r : RxRun) (gaps : List (List RxEvent))
    : (r.framer z2 fwVersion gaps).2.state.readyValid = r.state.readyValid := by
  unfold framer frameProc
  dsimp only
  split
  . apply rxNext_readyValid
  . apply rxNext_readyValid
  . apply rxNext_readyValid

theorem readyValid_run {r : RxRun} (h : r.state.readyValid = true) (steps : List RxStep)
    : (r.run z2 fwVersion steps).state.readyValid = true := by
  induction steps generalizing r with
  | nil => exact h
  | cons s steps ih =>
    apply ih
    cases s with
    | event e => exact h
    | framer gaps =>
      show (r.framer z2 fwVersion gaps).2.state.readyValid = true
      rw [readyValid_framer]
      exact h

theorem framer_delivers {r : RxRun} (h : r.world.Steady) (hready : r.state.readyValid = true)
    {gaps : List (List RxEvent)} {f : RxFrame} {backlog : List RxFrame}
    (hbacklog : r.world.backlog = f :: backlog) (hquiet : ∀ es ∈ gaps, ∀ e ∈ es, e ≠ .restart)
    : let (d, r') := r.framer z2 fwVersion gaps
      d.action = .deliver ∧ d.serial = f.serial ∧ d.size = f.size.val ∧ d.offset2 = f.offset2
        ∧ r'.world.delivered = r.world.delivered ++ [some f]
        ∧ r'.world.taken = r.world.taken ++ [⟨f, some f, false⟩]
        ∧ ∃ late, r'.world.backlog = backlog ++ late ∧ ∀ g ∈ late, r.world.arrived ≤ g.id := by
  have hserial : f.serial ≠ 0 := by
    have hge := h.1.backlog_serial f (by simp [hbacklog])
    intro hzero
    rw [hzero] at hge
    contradiction
  have hwaits : RxWorld.Waits r.world f backlog { r.world with gaps } :=
    ⟨⟨[], by simp [hbacklog], by simp⟩, Nat.le_refl _, rfl, rfl, hquiet⟩
  obtain ⟨hd, hdelivered⟩ := hwaits.frameProc z2 fwVersion hserial hready
  unfold framer
  dsimp only
  rw [hd]
  exact ⟨rfl, rfl, rfl, rfl, hdelivered⟩

end RxRun

/--
For every interleaving, frames are delivered once and in order, only restarts lose frames, and a round
without a restart delivers and acks the head of the backlog.
-/
theorem rxRun_delivers (z2 : Bool) (fwVersion : UInt16) (hfw : rxSerialSkipMinFw ≤ fwVersion)
    (steps : List RxStep)
    : let r := (RxRun.init fwVersion).run z2 fwVersion steps
      let w := r.world
      (∀ o ∈ w.delivered, o ≠ none)
        ∧ w.delivered.reduceOption.Pairwise (fun f g => f.id < g.id)
        ∧ (∀ id, w.Missed id → (∃ f ∈ w.flushed, f.id = id) ∨ w.TakenLate id)
        ∧ ∀ (gaps : List (List RxEvent)) (f : RxFrame) (backlog : List RxFrame),
            w.backlog = f :: backlog → (∀ es ∈ gaps, ∀ e ∈ es, e ≠ .restart) →
            let (d, r') := r.framer z2 fwVersion gaps
            d.action = .deliver ∧ d.serial = f.serial ∧ d.size = f.size.val ∧ d.offset2 = f.offset2
              ∧ r'.world.delivered = w.delivered ++ [some f]
              ∧ r'.world.taken = w.taken ++ [⟨f, some f, false⟩]
              ∧ ∃ late, r'.world.backlog = backlog ++ late ∧ ∀ g ∈ late, w.arrived ≤ g.id := by
  intro r w
  have hsteady : w.Steady := by
    apply RxRun.steady_run
    exact RxWorld.steady_init
  have hready : r.state.readyValid = true := by
    apply RxRun.readyValid_run
    unfold RxRun.init rxReset
    have hmin : rxStatusMinFw ≤ rxSerialSkipMinFw := by decide
    rw [decide_eq_true_eq]
    exact UInt16.le_trans hmin hfw
  refine ⟨hsteady.1.delivered_some, hsteady.1.delivered_sorted, hsteady.1.missed, ?_⟩
  intro gaps f backlog hbacklog hquiet
  exact RxRun.framer_delivers z2 fwVersion hsteady hready hbacklog hquiet

/-- The round reads the header of frame 0. Then a restart flushes it, and frame 1 arrives before the ack. -/
def rxLateSteps : List RxStep :=
  let arrive := RxEvent.arrive ⟨60, by decide⟩ false
  [.event arrive, .framer [[], [.restart, arrive]]]

theorem rxLate_world
    : let w := ((RxRun.init 0x0208).run false 0x0208 rxLateSteps).world
      w.arrived = 2 ∧ w.backlog = [] ∧ (∀ o ∈ w.delivered, o.map RxFrame.id = some 0)
        ∧ ∀ f ∈ w.flushed, f.id = 0 := by
  decide +kernel

theorem rxLate_missed
    : ((RxRun.init 0x0208).run false 0x0208 rxLateSteps).world.Missed 1 := by
  obtain ⟨harrived, hbacklog, hdelivered, -⟩ := rxLate_world
  refine ⟨?_, ?_, ?_⟩
  . rw [harrived]
    decide
  . rw [hbacklog]
    simp
  . intro f hf
    have := hdelivered _ hf
    simp at this
    omega

theorem rxRun_delivers_late
    : let w := ((RxRun.init 0x0208).run false 0x0208 rxLateSteps).world
      w.Missed 1 ∧ w.TakenLate 1 := by
  have h := (rxRun_delivers false 0x0208 (by decide) rxLateSteps).2.2.1 1 rxLate_missed
  refine ⟨rxLate_missed, ?_⟩
  cases h with
  | inl hflushed =>
    obtain ⟨f, hf, hid⟩ := hflushed
    have := rxLate_world.2.2.2 f hf
    omega
  | inr htaken => exact htaken

/-- Frame 1 is lost, although no restart found it in the backlog. -/
theorem rxRun_misses_late
    : ¬∀ id, ((RxRun.init 0x0208).run false 0x0208 rxLateSteps).world.Missed id →
        ∃ f ∈ ((RxRun.init 0x0208).run false 0x0208 rxLateSteps).world.flushed, f.id = id := by
  intro hclaim
  obtain ⟨f, hf, hid⟩ := hclaim 1 rxLate_missed
  have := rxLate_world.2.2.2 f hf
  omega

end ZZNet
