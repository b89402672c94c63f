import ZZ9000.Net.RxLemmas

/-!
This module contains the statistics of `rx.c`: the overruns it counts are the frames that the
firmware discarded, across any number of wraps of the serial.
-/

namespace ZZNet

/-- A frame that a slot shows. The serials right before it went to frames that were discarded. -/
structure RxPresented where
  discarded : Nat
  size : RxFrameSize
  offset2 : Bool

/-- What the calls of `zznet_rx_next` find: an empty slot, or the next frame. -/
abbrev RxSlots := List (Option RxPresented)

/-- The serial of a frame, after the serial that the firmware assigned last. -/
def RxPresented.serial (f : RxPresented) (last : UInt16) : UInt16 :=
  rxSerialAfter^[f.discarded + 1] last

def RxPresented.frame (f : RxPresented) (last : UInt16) : RxFrame where
  id := 0
  size := f.size
  offset2 := f.offset2
  serial := f.serial last

/-- The headers that the calls read. -/
def rxHeaders (last : UInt16) (slots : RxSlots) : List UInt32 :=
  match slots with
  | [] => []
  | none :: slots => 0 :: rxHeaders last slots
  | some f :: slots =>
    rxHeader (f.frame last).lengthWord (f.serial last) :: rxHeaders (f.serial last) slots

/-- The decisions of consecutive calls. -/
def rxDecisions {σ : Type} (state : RxState) (calls : List (RxIo σ × σ)) : List RxDecision :=
  match calls with
  | [] => []
  | (io, ctx) :: calls =>
    let (d, state, _) := rxNext state io ctx
    d :: rxDecisions state calls

/-- An empty slot is left alone, and a frame is delivered as it is. -/
def rxDelivers (last : UInt16) (slots : RxSlots) (ds : List RxDecision) : Prop :=
  match slots, ds with
  | [], [] => True
  | none :: slots, d :: ds => d.action = .wait ∧ d.empty = true ∧ rxDelivers last slots ds
  | some f :: slots, d :: ds =>
    d.action = .deliver ∧ d.size = f.size.val ∧ d.offset2 = f.offset2 ∧ d.serial = f.serial last
      ∧ rxDelivers (f.serial last) slots ds
  | _, _ => False

def rxOverruns (ds : List RxDecision) : Nat := (ds.map fun d => d.overruns.toNat).sum

/-- The frames that were discarded since the first of the slots. -/
def rxDiscarded (slots : RxSlots) : Nat := (slots.reduceOption.map (·.discarded)).sum

/-- The serials that are assigned go round in a circle of 65534. -/
theorem rxSerialAfter_toNat {serial : UInt16} (h : 2 ≤ serial)
    : (rxSerialAfter serial).toNat = (serial.toNat - 2 + 1) % 65534 + 2 := by
  have hge := UInt16.le_iff_toNat_le.mp h
  have hlt := serial.toNat_lt
  simp only [UInt16.reduceToNat] at hge
  unfold rxSerialAfter
  have hadd : (serial + 1).toNat = (serial.toNat + 1) % 65536 := by
    rw [UInt16.toNat_add]
    rfl
  split
  . next hwrap =>
    rw [UInt16.lt_iff_toNat_lt, hadd] at hwrap
    simp only [UInt16.reduceToNat] at hwrap ⊢
    omega
  . next hwrap =>
    rw [UInt16.lt_iff_toNat_lt, hadd] at hwrap
    simp only [UInt16.reduceToNat] at hwrap
    rw [hadd]
    omega

theorem rxSerialAfter_iterate {serial : UInt16} (h : 2 ≤ serial) (n : Nat)
    : 2 ≤ rxSerialAfter^[n] serial
        ∧ (rxSerialAfter^[n] serial).toNat = (serial.toNat - 2 + n) % 65534 + 2 := by
  induction n with
  | zero =>
    have hge := UInt16.le_iff_toNat_le.mp h
    have hlt := serial.toNat_lt
    simp only [UInt16.reduceToNat] at hge
    rw [Function.iterate_zero_apply]
    refine ⟨h, ?_⟩
    omega
  | succ n ih =>
    rw [Function.iterate_succ_apply']
    refine ⟨rxSerialAfter_ge _, ?_⟩
    rw [rxSerialAfter_toNat ih.1, ih.2]
    omega

theorem RxPresented.serial_ge (f : RxPresented) (last : UInt16) : 2 ≤ f.serial last := by
  unfold serial
  rw [Function.iterate_succ_apply']
  apply rxSerialAfter_ge

/-- A gap is counted wherever it is in the circle. -/
theorem rxGap_serial {state : RxState} (f : RxPresented) (hge : 2 ≤ state.oldSerial)
    (hbaseline : state.haveBaseline = true) (hgap : f.discarded ≤ 127)
    : rxGap state (f.serial state.oldSerial) = (UInt16.ofNat f.discarded, false) := by
  have hnat := (rxSerialAfter_iterate hge (f.discarded + 1)).2
  have hlt := state.oldSerial.toNat_lt
  rw [UInt16.le_iff_toNat_le] at hge
  simp only [UInt16.reduceToNat] at hge
  have hdelta : (if f.serial state.oldSerial < state.oldSerial
      then f.serial state.oldSerial - state.oldSerial - 2
      else f.serial state.oldSerial - state.oldSerial).toNat = f.discarded + 1 := by
    unfold RxPresented.serial
    split
    . next hwrap =>
      rw [UInt16.lt_iff_toNat_lt] at hwrap
      rw [UInt16.toNat_sub, UInt16.toNat_sub]
      simp only [UInt16.reduceToNat]
      omega
    . next hwrap =>
      rw [UInt16.lt_iff_toNat_lt] at hwrap
      rw [UInt16.toNat_sub]
      omega
  unfold rxGap
  rw [if_pos hbaseline]
  dsimp only
  generalize (if f.serial state.oldSerial < state.oldSerial
    then f.serial state.oldSerial - state.oldSerial - 2
    else f.serial state.oldSerial - state.oldSerial) = delta at hdelta ⊢
  split
  . next hcount =>
    congr 1
    rw [← UInt16.toNat_inj, UInt16.toNat_sub, hdelta, UInt16.toNat_ofNat']
    simp only [UInt16.reduceToNat]
    omega
  . next hcount =>
    rw [UInt16.le_iff_toNat_le, gt_iff_lt, UInt16.lt_iff_toNat_lt, hdelta] at hcount
    simp only [UInt16.reduceToNat] at hcount
    have hzero : f.discarded = 0 := by
      omega
    rw [hzero]
    have hsmall : ¬delta > 128 := by
      rw [gt_iff_lt, UInt16.lt_iff_toNat_lt, hdelta]
      simp [hzero]
    rw [decide_eq_false hsmall]
    rfl

/-- The decision about the next frame, and what the state is after it. -/
theorem rxNext_presented {σ : Type} {state : RxState} {io : RxIo σ} {ctx : σ} {last : UInt16}
    (f : RxPresented) (hne : f.serial last ≠ state.oldSerial)
    (hheader : (io.readHeader ctx).1 = rxHeader (f.frame last).lengthWord (f.serial last))
    : (rxNext state io ctx).1 = ⟨.deliver, false, (rxGap state (f.serial last)).2,
          (rxGap state (f.serial last)).1, f.size.val, f.serial last, f.offset2⟩
        ∧ (rxNext state io ctx).2.1 = { state with haveBaseline := true, oldSerial := f.serial last } := by
  have hserial : f.serial last ≠ 0 := by
    have hge := f.serial_ge last
    intro hzero
    rw [hzero] at hge
    contradiction
  have hd : RxDecision.ofHeader (io.readHeader ctx).1
      = ⟨.wait, false, false, 0, f.size.val, f.serial last, f.offset2⟩ := by
    rw [hheader]
    apply RxDecision.ofHeader_frame (f.frame last)
  have hsize := f.size.property
  unfold rxNext
  dsimp only
  rw [hd]
  dsimp only
  rw [if_neg (fun hempty => hserial hempty.2)]
  have hrepeated (ctx : σ) (header : UInt32)
      : rxRepeated state io header (f.serial last) ctx = (false, ctx) := by
    unfold rxRepeated
    rw [if_pos hne]
  rw [hrepeated]
  simp only [Bool.false_eq_true, if_false]
  constructor
  . rw [RxWorld.rxFrame_deliver hsize]
  . unfold rxFrame
    simp [UInt16.not_lt.mpr hsize.1, UInt16.not_lt.mpr hsize.2]

theorem rxNext_empty {σ : Type} (state : RxState) {io : RxIo σ} {ctx : σ}
    (hheader : (io.readHeader ctx).1 = 0)
    : (rxNext state io ctx).1 = { RxDecision.ofHeader 0 with empty := true }
        ∧ (rxNext state io ctx).2.1 = state := by
  unfold rxNext
  dsimp only
  rw [hheader]
  rw [if_pos (by decide)]
  exact ⟨rfl, rfl⟩

/-- A gap that is no longer than a round of the serials does not repeat the serial. -/
theorem RxPresented.serial_ne (f : RxPresented) {last : UInt16} (hge : 2 ≤ last)
    (hgap : f.discarded ≤ 127)
    : f.serial last ≠ last := by
  have hnat := (rxSerialAfter_iterate hge (f.discarded + 1)).2
  have hlt := last.toNat_lt
  rw [UInt16.le_iff_toNat_le] at hge
  simp only [UInt16.reduceToNat] at hge
  unfold serial
  intro heq
  rw [heq] at hnat
  omega

/-- Once a frame has been delivered, the overruns are the frames that are discarded. -/
theorem rxDecisions_counted {σ : Type} (state : RxState) {slots : RxSlots}
    {calls : List (RxIo σ × σ)} (hge : 2 ≤ state.oldSerial) (hbaseline : state.haveBaseline = true)
    (hheaders : calls.map (fun c => (c.1.readHeader c.2).1) = rxHeaders state.oldSerial slots)
    (hgaps : ∀ f ∈ slots.reduceOption, f.discarded ≤ 127)
    : rxOverruns (rxDecisions state calls) = rxDiscarded slots
        ∧ (∀ d ∈ rxDecisions state calls, d.badData = false)
        ∧ rxDelivers state.oldSerial slots (rxDecisions state calls) := by
  induction slots generalizing state calls with
  | nil =>
    unfold rxHeaders at hheaders
    rw [List.map_eq_nil_iff.mp hheaders]
    simp [rxDecisions, rxOverruns, rxDiscarded, rxDelivers, List.reduceOption]
  | cons slot slots ih =>
    cases calls with
    | nil => cases slot <;> simp [rxHeaders] at hheaders
    | cons call calls =>
      obtain ⟨io, ctx⟩ := call
      cases slot with
      | none =>
        simp only [List.map_cons, rxHeaders, List.cons.injEq] at hheaders
        rw [List.reduceOption_cons_of_none] at hgaps
        have hempty := rxNext_empty state hheaders.1
        have := ih state hge hbaseline hheaders.2 hgaps
        unfold rxDecisions rxDelivers
        dsimp only
        rw [hempty.1, hempty.2]
        refine ⟨?_, ?_, rfl, rfl, this.2.2⟩
        . unfold rxOverruns rxDiscarded at this ⊢
          rw [List.map_cons, List.sum_cons, List.reduceOption_cons_of_none, this.1]
          apply Nat.zero_add
        . intro d hd
          cases List.mem_cons.mp hd with
          | inl hfirst =>
            rw [hfirst]
            rfl
          | inr hrest => exact this.2.1 d hrest
      | some f =>
        simp only [List.map_cons, rxHeaders, List.cons.injEq] at hheaders
        rw [List.reduceOption_cons_of_some] at hgaps
        have hgap := hgaps f List.mem_cons_self
        have hnext := rxNext_presented f (f.serial_ne hge hgap) hheaders.1
        rw [rxGap_serial f hge hbaseline hgap] at hnext
        have := ih { state with haveBaseline := true, oldSerial := f.serial state.oldSerial }
          (f.serial_ge _) rfl hheaders.2 fun f' hf' => hgaps f' (List.mem_cons_of_mem _ hf')
        unfold rxDecisions rxDelivers
        dsimp only
        rw [hnext.1, hnext.2]
        refine ⟨?_, ?_, rfl, rfl, rfl, rfl, this.2.2⟩
        . unfold rxOverruns rxDiscarded at this ⊢
          rw [List.map_cons, List.sum_cons, List.reduceOption_cons_of_some, List.map_cons,
            List.sum_cons, this.1]
          congr 1
          apply Nat.mod_eq_of_lt
          omega
        . intro d hd
          cases List.mem_cons.mp hd with
          | inl hfirst =>
            rw [hfirst]
          | inr hrest => exact this.2.1 d hrest

/-- Empty slots before the first frame change nothing, and the first frame counts nothing. -/
theorem rxDecisions_first {σ : Type} {state : RxState} {last : UInt16} {slots : RxSlots}
    {calls : List (RxIo σ × σ)} (hzero : state.oldSerial = 0) (hbaseline : state.haveBaseline = false)
    (hheaders : calls.map (fun c => (c.1.readHeader c.2).1) = rxHeaders last slots)
    (hgaps : ∀ f ∈ slots.reduceOption.tail, f.discarded ≤ 127)
    : rxOverruns (rxDecisions state calls) = (slots.reduceOption.tail.map (·.discarded)).sum
        ∧ (∀ d ∈ rxDecisions state calls, d.badData = false)
        ∧ rxDelivers last slots (rxDecisions state calls) := by
  induction slots generalizing calls with
  | nil =>
    unfold rxHeaders at hheaders
    rw [List.map_eq_nil_iff.mp hheaders]
    simp [rxDecisions, rxOverruns, rxDelivers, List.reduceOption]
  | cons slot slots ih =>
    cases calls with
    | nil => cases slot <;> simp [rxHeaders] at hheaders
    | cons call calls =>
      obtain ⟨io, ctx⟩ := call
      cases slot with
      | none =>
        simp only [List.map_cons, rxHeaders, List.cons.injEq] at hheaders
        rw [List.reduceOption_cons_of_none] at hgaps
        have hempty := rxNext_empty state hheaders.1
        have := ih hheaders.2 hgaps
        unfold rxDecisions rxDelivers
        dsimp only
        rw [hempty.1, hempty.2, List.reduceOption_cons_of_none]
        refine ⟨?_, ?_, rfl, rfl, this.2.2⟩
        . unfold rxOverruns at this ⊢
          rw [List.map_cons, List.sum_cons, this.1]
          apply Nat.zero_add
        . intro d hd
          cases List.mem_cons.mp hd with
          | inl hfirst =>
            rw [hfirst]
            rfl
          | inr hrest => exact this.2.1 d hrest
      | some f =>
        simp only [List.map_cons, rxHeaders, List.cons.injEq] at hheaders
        rw [List.reduceOption_cons_of_some, List.tail_cons] at hgaps
        have hne : f.serial last ≠ state.oldSerial := by
          have hge := f.serial_ge last
          intro heq
          rw [heq, hzero] at hge
          contradiction
        have hnext := rxNext_presented f hne hheaders.1
        have hgap : rxGap state (f.serial last) = (0, false) := by
          unfold rxGap
          simp [hbaseline]
        rw [hgap] at hnext
        have hcounted := rxDecisions_counted
          { state with haveBaseline := true, oldSerial := f.serial last }
          (f.serial_ge last) rfl hheaders.2 hgaps
        unfold rxDecisions rxDelivers
        dsimp only
        rw [hnext.1, hnext.2, List.reduceOption_cons_of_some, List.tail_cons]
        refine ⟨?_, ?_, rfl, rfl, rfl, rfl, hcounted.2.2⟩
        . have hsum := hcounted.1
          unfold rxOverruns rxDiscarded at hsum
          unfold rxOverruns
          rw [List.map_cons, List.sum_cons, hsum]
          apply Nat.zero_add
        . intro d hd
          cases List.mem_cons.mp hd with
          | inl hfirst =>
            rw [hfirst]
          | inr hrest => exact hcounted.2.1 d hrest

/--
The overruns of a run are the frames that were discarded after the first one that was presented, no
frame counts as bad data, and every frame is delivered.
-/
theorem rxRun_overruns {σ : Type} (fwVersion last : UInt16) (slots : RxSlots)
    (calls : List (RxIo σ × σ))
    (hheaders : calls.map (fun c => (c.1.readHeader c.2).1) = rxHeaders last slots)
    (hgaps : ∀ f ∈ slots.reduceOption.tail, f.discarded ≤ 127)
    : rxOverruns (rxDecisions (rxReset fwVersion) calls)
          = (slots.reduceOption.tail.map (·.discarded)).sum
        ∧ (∀ d ∈ rxDecisions (rxReset fwVersion) calls, d.badData = false)
        ∧ rxDelivers last slots (rxDecisions (rxReset fwVersion) calls) := by
  apply rxDecisions_first
  . rfl
  . rfl
  . exact hheaders
  . exact hgaps

/-- The slots of a run over the wrap of the serial, with a gap across it. -/
def rxWrapSlots : RxSlots :=
  [some ⟨3, ⟨64, by decide⟩, false⟩, none, some ⟨2, ⟨1518, by decide⟩, true⟩,
    some ⟨0, ⟨14, by decide⟩, false⟩]

def rxWrapIo : RxIo UInt32 where
  readHeader ctx := (ctx, ctx)
  rxStatus ctx := (0, ctx)

def rxWrapCalls : List (RxIo UInt32 × UInt32) :=
  (rxHeaders 0xfffa rxWrapSlots).map fun header => (rxWrapIo, header)

theorem rxRun_overruns_wrap
    : rxOverruns (rxDecisions (rxReset 0x0208) rxWrapCalls) = 2
        ∧ (∀ d ∈ rxDecisions (rxReset 0x0208) rxWrapCalls, d.badData = false)
        ∧ rxDelivers 0xfffa rxWrapSlots (rxDecisions (rxReset 0x0208) rxWrapCalls) := by
  have h := rxRun_overruns 0x0208 0xfffa rxWrapSlots rxWrapCalls (by decide) (by decide)
  refine ⟨h.1.trans ?_, h.2⟩
  decide

end ZZNet
