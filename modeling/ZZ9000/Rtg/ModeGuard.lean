import ZZ9000.Rtg.Mode

/-!
This module contains the guard against panning for a refused mode: runs of the mode hooks in which
P96 may change its modes at any time, what the card displays, and when panning keeps to a mode that
`SetGC` has accepted.
-/

namespace ZZRtg

open DriverOp

inductive HardwareMode where
  | off
  | preset (mode : UInt16)
  | custom (fields : UInt16 → UInt16) (commit : UInt16)

/-- The display side of the firmware. It takes a custom mode if it answers the commit with `OK`. -/
structure Scanout where
  param : UInt16
  staged : UInt16 → UInt16
  mode : HardwareMode

def Scanout.store (status : UInt16) (s : Scanout) (op : DriverOp) : Scanout :=
  match op with
  | .zzwrite16 reg value =>
    if reg = Regs.mode then
      { s with mode := .preset value }
    else if reg = Regs.customSelect then
      { s with staged := fun _ => 0 }
    else if reg = Regs.customParam then
      { s with param := value }
    else if reg = Regs.customValue then
      { s with staged := Function.update s.staged s.param value }
    else if reg = Regs.customCommit ∧ status = customStatusOk then
      { s with mode := .custom s.staged value }
    else
      s
  | _ => s

inductive ModeCall where
  | setGC (modeInfo : Option ModePtr) (border : Bool) (status : UInt16)
  | setSwitch (enabled status : UInt16)
  | setPanning (addr : UInt32) (width : UInt16) (xOffset yOffset : Int16) (format : UInt32)
  /-- P96 fills in one of its modes. -/
  | edit (ptr : ModePtr) (info : ModeInfo)
  /-- P96 changes the format of the board. -/
  | setFormat (format : UInt32)

/--
The hooks with the display. `requested` is the mode of the last call of `SetGC` by P96, `accepted`
says for each mode how the last call of `SetGC` for it ended.
-/
structure ModeRun where
  state : ModeState
  scanout : Scanout
  requested : Option (Option ModePtr)
  accepted : ModePtr → Bool

namespace ModeState

variable (planner : Planner)

/-- Whether `SetGC` accepts a mode. -/
def accepts (s : ModeState) (modeInfo : Option ModePtr) (status : UInt16) : Bool :=
  match s.plan planner modeInfo with
  | none => false
  | some (_, .custom _) => status == customStatusOk
  | some (_, .preset _ _) => true

/-- The mode that `SetSwitch` sets once more. -/
def replayed (s : ModeState) (enabled : UInt16) : Option ModePtr :=
  if s.board.registerBase = 0 ∨ enabled = 0 then none else s.board.modeInfo

end ModeState

namespace ModeRun

variable (planner : Planner)

/-- The driver after `FindCard`. -/
def start (board : BoardInfo) (modes : ModePtr → ModeInfo) (scanout : Scanout) : ModeRun where
  state := ⟨{ board with modeInfo := none }.setCardData CardData.gcRejected 0, modes⟩
  scanout := scanout
  requested := none
  accepted := fun _ => false

def judge (r : ModeRun) (modeInfo : Option ModePtr) (status : UInt16) : ModePtr → Bool :=
  match modeInfo with
  | none => r.accepted
  | some ptr => Function.update r.accepted ptr (r.state.accepts planner (some ptr) status)

def step (r : ModeRun) (call : ModeCall) : ModeRun × List DriverOp :=
  match call with
  | .setGC modeInfo border status =>
    let s := r.state.setGC planner modeInfo border status
    let scanout := s.2.foldl (Scanout.store status) r.scanout
    (⟨s.1, scanout, some modeInfo, r.judge planner modeInfo status⟩, s.2)
  | .setSwitch enabled status =>
    let s := (r.state.setSwitch planner enabled status).2
    let scanout := s.2.foldl (Scanout.store status) r.scanout
    (⟨s.1, scanout, r.requested, r.judge planner (r.state.replayed enabled) status⟩, s.2)
  | .setPanning addr width xOffset yOffset format =>
    let b := r.state.board.setPanning addr width xOffset yOffset format
    ({ r with state := r.state.setBoard b.1 }, b.2)
  | .edit ptr info =>
    ({ r with state := ⟨r.state.board, Function.update r.state.modes ptr info⟩ }, [])
  | .setFormat format =>
    ({ r with state := r.state.setBoard { r.state.board with rgbFormat := format } }, [])

/-- `P` holds at each call of a run. -/
def Along (P : ModeRun → ModeCall → Prop) (r : ModeRun) (calls : List ModeCall) : Prop :=
  match calls with
  | [] => True
  | call :: calls => P r call ∧ Along P (r.step planner call).1 calls

/-- The mode of the call of `SetGC` that is part of a call, with the answer of the firmware. -/
def sets (r : ModeRun) (call : ModeCall) : Option (Option ModePtr × UInt16) :=
  match call with
  | .setGC modeInfo _ status => some (modeInfo, status)
  | .setSwitch enabled status =>
    (r.state.replayed enabled).map fun ptr => (some ptr, status)
  | _ => none

/-- What the guard makes sure of at one call. -/
structure Guarded (r : ModeRun) (call : ModeCall) : Prop where
  /-- Panning reaches the card for a mode that `SetGC` has accepted. -/
  panning : ∀ addr width xOffset yOffset format,
    call = .setPanning addr width xOffset yOffset format → (r.step planner call).2 ≠ [] →
      ∃ ptr, r.requested = some (some ptr) ∧ r.accepted ptr = true
  /-- The mode changes for a mode that `SetGC` accepts. -/
  mode : (∃ value, zzwrite16 Regs.mode value ∈ (r.step planner call).2)
      ∨ (r.step planner call).1.scanout.mode ≠ r.scanout.mode →
    ∃ ptr status, r.sets call = some (some ptr, status)
      ∧ (r.step planner call).1.state.board.modeInfo = some ptr
      ∧ (r.step planner call).1.accepted ptr = true
  /-- A refusal leaves everything as the last accepted mode has set it. -/
  refused : ∀ modeInfo status, r.sets call = some (modeInfo, status) →
    r.state.accepts planner modeInfo status = false →
      (r.step planner call).1.state.board.modeInfo = r.state.board.modeInfo
        ∧ (r.step planner call).1.state.board.border = r.state.board.border
        ∧ (r.step planner call).1.state.modes = r.state.modes
        ∧ (r.step planner call).1.scanout.mode = r.scanout.mode

/--
A call that keeps to the order that the guard relies on: no panning before the first `SetGC`, and
the monitor switch does not bring back an accepted mode in place of another one that was asked for.
-/
def Meets (r : ModeRun) (call : ModeCall) : Prop :=
  match call with
  | .setPanning _ _ _ _ _ => r.requested ≠ none
  | .setSwitch enabled status =>
    ∀ ptr, r.state.replayed enabled = some ptr →
      r.requested = some (some ptr) ∨ r.state.accepts planner (some ptr) status = false
  | _ => True

end ModeRun

theorem Scanout.foldl_store_mode {status : UInt16} {ops : List DriverOp} {s : Scanout}
    (h : ∀ reg value, zzwrite16 reg value ∈ ops →
      reg ≠ Regs.mode ∧ (reg = Regs.customCommit → status ≠ customStatusOk))
    : (ops.foldl (Scanout.store status) s).mode = s.mode := by
  induction ops generalizing s with
  | nil => rfl
  | cons op ops ih =>
    rw [List.foldl_cons, ih fun reg value hmem => h reg value (List.mem_cons_of_mem _ hmem)]
    cases op with
    | zzwrite16 reg value =>
      obtain ⟨hmode, hcommit⟩ := h reg value List.mem_cons_self
      unfold store
      dsimp only
      rw [if_neg hmode, if_neg fun hand : _ ∧ _ => hcommit hand.1 hand.2]
      split
      . rfl
      . split
        . rfl
        . split <;> rfl
    | _ => rfl

/-- The registers of the stores to stage and commit a custom mode. -/
theorem mem_customStageAndCommit {mode : CustomMode} {colormode : UInt8} {reg : Nat}
    {value : UInt16} (h : zzwrite16 reg value ∈ customStageAndCommit mode colormode)
    : reg ≠ Regs.mode := by
  unfold customStageAndCommit at h
  rw [List.mem_append, List.mem_append, List.mem_singleton, List.mem_flatMap,
    List.mem_singleton] at h
  rcases h with (h | ⟨field, _, h⟩) | h
  . rw [(DriverOp.zzwrite16.inj h).1]
    decide
  . rw [List.mem_cons, List.mem_singleton] at h
    rcases h with h | h
    . rw [(DriverOp.zzwrite16.inj h).1]
      decide
    . rw [(DriverOp.zzwrite16.inj h).1]
      decide
  . rw [(DriverOp.zzwrite16.inj h).1]
    decide

namespace BoardInfo

@[simp]
theorem setCardData_self (b : BoardInfo) (i : Fin 16) (value : UInt32)
    : (b.setCardData i value).cardData i = value := by
  unfold setCardData
  exact Function.update_self i value b.cardData

@[simp]
theorem setCardData_of_ne (b : BoardInfo) {i j : Fin 16} (value : UInt32) (h : j ≠ i)
    : (b.setCardData i value).cardData j = b.cardData j := by
  unfold setCardData
  exact Function.update_of_ne h value b.cardData

@[simp]
theorem setCardData_modeInfo (b : BoardInfo) (i : Fin 16) (value : UInt32)
    : (b.setCardData i value).modeInfo = b.modeInfo := rfl

@[simp]
theorem setCardData_border (b : BoardInfo) (i : Fin 16) (value : UInt32)
    : (b.setCardData i value).border = b.border := rfl

end BoardInfo

namespace ModeState

variable {planner : Planner} {s : ModeState} {modeInfo : Option ModePtr} {status : UInt16}

theorem plan_eq_some {ptr : ModePtr} {plan : ModelinePlan}
    (h : s.plan planner modeInfo = some (ptr, plan))
    : modeInfo = some ptr := by
  cases modeInfo with
  | none => contradiction
  | some ptr' =>
    unfold ModeState.plan at h
    dsimp only at h
    split at h
    . contradiction
    . split at h
      . contradiction
      . rw [Option.map_eq_some_iff] at h
        obtain ⟨_, _, heq⟩ := h
        rw [(Prod.mk.inj heq).1]

theorem setMonitorSwitch_cardData {i : Fin 16} (enabled : UInt16) (h : i ≠ CardData.monitorSwitch)
    : (s.setMonitorSwitch enabled).board.cardData i = s.board.cardData i := by
  unfold setMonitorSwitch setBoard
  exact s.board.setCardData_of_ne _ h

/-- The monitor switch has no part in the plan. -/
theorem plan_setMonitorSwitch (enabled : UInt16)
    : (s.setMonitorSwitch enabled).plan planner modeInfo = s.plan planner modeInfo := by
  cases modeInfo with
  | none => rfl
  | some ptr =>
    unfold plan
    dsimp only
    rw [setMonitorSwitch_cardData (i := CardData.fwCapabilities) enabled (by decide)]
    rfl

theorem accepts_setMonitorSwitch (enabled : UInt16)
    : (s.setMonitorSwitch enabled).accepts planner modeInfo status
        = s.accepts planner modeInfo status := by
  unfold accepts
  rw [plan_setMonitorSwitch]

theorem setGC_of_accepts (border : Bool) (h : s.accepts planner modeInfo status = true)
    : ∃ ptr, modeInfo = some ptr
        ∧ (s.setGC planner modeInfo border status).1.board.modeInfo = some ptr := by
  unfold accepts at h
  unfold setGC
  dsimp only
  cases hplan : s.plan planner modeInfo with
  | none =>
    rw [hplan] at h
    contradiction
  | some planned =>
    obtain ⟨ptr, plan⟩ := planned
    rw [hplan] at h
    cases plan with
    | custom mode =>
      dsimp only
      rw [if_pos (eq_of_beq h)]
      exact ⟨ptr, plan_eq_some hplan, rfl⟩
    | preset modeId scale => exact ⟨ptr, plan_eq_some hplan, rfl⟩

/-- A refused `SetGC` does nothing but raise the flag and, for a custom mode, ask the firmware. -/
theorem setGC_of_refuses (border : Bool) (h : s.accepts planner modeInfo status = false)
    : (s.setGC planner modeInfo border status).1
          = s.setBoard (s.board.setCardData CardData.gcRejected 1)
        ∧ ∀ reg value, zzwrite16 reg value ∈ (s.setGC planner modeInfo border status).2 →
          reg ≠ Regs.mode ∧ (reg = Regs.customCommit → status ≠ customStatusOk) := by
  unfold accepts at h
  unfold setGC
  dsimp only
  cases hplan : s.plan planner modeInfo with
  | none =>
    refine ⟨rfl, ?_⟩
    intro reg value hmem
    contradiction
  | some planned =>
    obtain ⟨ptr, plan⟩ := planned
    rw [hplan] at h
    cases plan with
    | custom mode =>
      have hstatus : status ≠ customStatusOk := ne_of_beq_false h
      dsimp only
      rw [if_neg hstatus]
      refine ⟨rfl, ?_⟩
      intro reg value hmem
      exact ⟨mem_customStageAndCommit hmem, fun _ => hstatus⟩
    | preset modeId scale => contradiction

theorem replayed_eq_some {enabled : UInt16} {ptr : ModePtr} (h : s.replayed enabled = some ptr)
    : s.board.registerBase ≠ 0 ∧ enabled ≠ 0 ∧ s.board.modeInfo = some ptr := by
  unfold replayed at h
  split at h
  . contradiction
  next hne =>
    rw [not_or] at hne
    exact ⟨hne.1, hne.2, h⟩

theorem setSwitch_of_replayed {enabled : UInt16} {ptr : ModePtr}
    (h : s.replayed enabled = some ptr)
    : (s.setSwitch planner enabled status).2
        =
      let result :=
        (s.setMonitorSwitch enabled).setGC planner (some ptr) s.board.border status
      (result.1, zzwrite16 Regs.videocapMode 0 :: result.2) := by
  obtain ⟨hbase, henabled, hmode⟩ := replayed_eq_some h
  have hmode' : (s.setMonitorSwitch enabled).board.modeInfo = some ptr := hmode
  unfold setSwitch
  dsimp only
  rw [if_neg hbase, if_neg henabled, hmode']
  rfl

variable (planner status) in
/-- Without a mode to set the switch changes nothing that the guard looks at. -/
theorem setSwitch_of_not_replayed {enabled : UInt16} (h : s.replayed enabled = none)
    : let result := (s.setSwitch planner enabled status).2
      result.1.board.modeInfo = s.board.modeInfo
        ∧ result.1.board.cardData CardData.gcRejected = s.board.cardData CardData.gcRejected
        ∧ ∀ reg value, zzwrite16 reg value ∈ result.2 →
          reg ≠ Regs.mode ∧ reg ≠ Regs.customCommit := by
  have hgc : (s.setMonitorSwitch enabled).board.cardData CardData.gcRejected
      = s.board.cardData CardData.gcRejected :=
    setMonitorSwitch_cardData enabled (by decide)
  unfold replayed at h
  unfold setSwitch
  dsimp only
  split
  . refine ⟨rfl, rfl, ?_⟩
    intro reg value hmem
    contradiction
  next hbase =>
    split
    . refine ⟨rfl, hgc, ?_⟩
      intro reg value hmem
      simp only [List.mem_cons, List.not_mem_nil, or_false, zzwrite16.injEq] at hmem
      rcases hmem with h | h | h <;> rw [h.1] <;> decide
    next henabled =>
      rw [if_neg (by simp only [hbase, henabled, or_self, not_false_eq_true])] at h
      have hmode : (s.setMonitorSwitch enabled).board.modeInfo = none := h
      rw [hmode]
      refine ⟨hmode.trans h.symm, hgc, ?_⟩
      intro reg value hmem
      rw [List.mem_singleton] at hmem
      rw [(zzwrite16.inj hmem).1]
      decide

/-- A refused `SetGC` raises the flag. -/
theorem gcRejected_of_refuses (border : Bool) (h : s.accepts planner modeInfo status = false)
    : (s.setGC planner modeInfo border status).1.board.cardData CardData.gcRejected ≠ 0 := by
  rw [(setGC_of_refuses border h).1]
  unfold setBoard
  rw [BoardInfo.setCardData_self]
  decide

end ModeState

namespace ModeRun

variable {planner : Planner} {r : ModeRun} {modeInfo : Option ModePtr} {status : UInt16}

/-- Panning waits for a mode that was asked for and accepted. -/
structure Inv (r : ModeRun) : Prop where
  panning : r.state.board.cardData CardData.gcRejected = 0 → r.requested ≠ none →
    ∃ ptr, r.requested = some (some ptr) ∧ r.accepted ptr = true

theorem inv_start (board : BoardInfo) (modes : ModePtr → ModeInfo) (scanout : Scanout)
    : (start board modes scanout).Inv where
  panning := fun _ h => absurd rfl h

theorem judge_self {ptr : ModePtr} (r : ModeRun) (status : UInt16)
    : r.judge planner (some ptr) status ptr = r.state.accepts planner (some ptr) status := by
  unfold judge
  exact Function.update_self ptr _ r.accepted

/-- The run after `SetGC` at `s`, with the stores `before` it. -/
def afterSetGC (planner : Planner) (r : ModeRun) (s : ModeState) (border : Bool)
    (before : List DriverOp) (requested : Option (Option ModePtr)) (modeInfo : Option ModePtr)
    (status : UInt16) : ModeRun × List DriverOp :=
  let gc := s.setGC planner modeInfo border status
  let ops := before ++ gc.2
  (⟨gc.1, ops.foldl (Scanout.store status) r.scanout, requested, r.judge planner modeInfo status⟩,
    ops)

variable (planner) in
/-- A call that sets a mode is a call of `SetGC` after stores that do not change the mode. -/
theorem step_of_sets {call : ModeCall} (h : r.sets call = some (modeInfo, status))
    : ∃ (s : ModeState) (border : Bool) (before : List DriverOp)
        (requested : Option (Option ModePtr)),
        r.step planner call
          = r.afterSetGC planner s border before requested modeInfo status
        ∧ (s.board.modeInfo = r.state.board.modeInfo ∧ s.board.border = r.state.board.border
          ∧ s.modes = r.state.modes)
        ∧ s.accepts planner modeInfo status = r.state.accepts planner modeInfo status
        ∧ (∀ reg value, zzwrite16 reg value ∈ before → reg ≠ Regs.mode ∧ reg ≠ Regs.customCommit)
        ∧ (r.Meets planner call → ∀ ptr, modeInfo = some ptr →
          requested = some (some ptr) ∨ r.state.accepts planner (some ptr) status = false) := by
  cases call with
  | setGC modeInfo' border status' =>
    obtain ⟨rfl, rfl⟩ := Prod.mk.inj (Option.some.inj h)
    refine ⟨r.state, border, [], some modeInfo', rfl, ⟨rfl, rfl, rfl⟩, rfl, ?_, ?_⟩
    . intro reg value hmem
      contradiction
    . intro _ ptr hptr
      exact .inl (congrArg some hptr)
  | setSwitch enabled status' =>
    unfold sets at h
    dsimp only at h
    rw [Option.map_eq_some_iff] at h
    obtain ⟨ptr, hreplayed, heq⟩ := h
    obtain ⟨rfl, rfl⟩ := Prod.mk.inj heq
    refine ⟨r.state.setMonitorSwitch enabled, r.state.board.border,
      [zzwrite16 Regs.videocapMode 0], r.requested, ?_, ⟨rfl, rfl, rfl⟩,
      ModeState.accepts_setMonitorSwitch enabled, ?_, ?_⟩
    . unfold step
      dsimp only
      rw [ModeState.setSwitch_of_replayed hreplayed, hreplayed]
      rfl
    . intro reg value hmem
      rw [(zzwrite16.inj (List.mem_singleton.mp hmem)).1]
      decide
    . intro hmeets ptr' hptr
      rw [← Option.some.inj hptr]
      exact hmeets ptr hreplayed
  | _ => contradiction

variable (planner) in
/-- A call that sets no mode leaves the mode, the flag and the verdicts alone. -/
theorem step_of_not_sets {call : ModeCall} (h : r.sets call = none)
    : let result := r.step planner call
      result.1.state.board.cardData CardData.gcRejected
          = r.state.board.cardData CardData.gcRejected
        ∧ result.1.requested = r.requested
        ∧ result.1.accepted = r.accepted
        ∧ result.1.scanout.mode = r.scanout.mode
        ∧ ∀ value, zzwrite16 Regs.mode value ∉ result.2 := by
  cases call with
  | setGC => contradiction
  | setSwitch enabled status =>
    have hreplayed : r.state.replayed enabled = none := Option.map_eq_none_iff.mp h
    obtain ⟨_, hflag, hops⟩ :=
      ModeState.setSwitch_of_not_replayed planner status hreplayed
    refine ⟨hflag, rfl, ?_, ?_, ?_⟩
    . unfold step
      dsimp only
      rw [hreplayed]
      rfl
    . apply Scanout.foldl_store_mode
      intro reg value hmem
      exact ⟨(hops reg value hmem).1, fun heq => absurd heq (hops reg value hmem).2⟩
    . intro value hmem
      exact (hops _ _ hmem).1 rfl
  | setPanning addr width xOffset yOffset format =>
    unfold step BoardInfo.setPanning
    dsimp only
    split
    . refine ⟨rfl, rfl, rfl, rfl, ?_⟩
      intro value hmem
      contradiction
    . split
      . refine ⟨rfl, rfl, rfl, rfl, ?_⟩
        intro value hmem
        simp [Regs.mode, Regs.blitterDmaOp] at hmem
      . refine ⟨rfl, rfl, rfl, rfl, ?_⟩
        intro value hmem
        simp [writeBlitterX1, writeBlitterY1, writeBlitterX2, writeBlitterColorMode] at hmem
  | edit | setFormat =>
    refine ⟨rfl, rfl, rfl, rfl, ?_⟩
    intro value hmem
    contradiction

theorem ops_of_refuses {s : ModeState} {before : List DriverOp} (border : Bool)
    (hbefore : ∀ reg value, zzwrite16 reg value ∈ before →
      reg ≠ Regs.mode ∧ reg ≠ Regs.customCommit)
    (h : s.accepts planner modeInfo status = false)
    : ∀ reg value,
        zzwrite16 reg value ∈ before ++ (s.setGC planner modeInfo border status).2 →
          reg ≠ Regs.mode ∧ (reg = Regs.customCommit → status ≠ customStatusOk) := by
  intro reg value hmem
  cases List.mem_append.mp hmem with
  | inl hmem =>
    obtain ⟨hmode, hcommit⟩ := hbefore reg value hmem
    exact ⟨hmode, fun heq => absurd heq hcommit⟩
  | inr hmem => exact (ModeState.setGC_of_refuses border h).2 reg value hmem

theorem inv_step {call : ModeCall} (h : r.Inv) (hmeets : r.Meets planner call)
    : (r.step planner call).1.Inv where
  panning := by
    cases hsets : r.sets call with
    | none =>
      obtain ⟨hflag, hrequested, haccepted, _⟩ := step_of_not_sets planner hsets
      rw [hflag, hrequested, haccepted]
      exact h.panning
    | some set =>
      obtain ⟨modeInfo, status⟩ := set
      obtain ⟨s, border, before, requested, hstep, _, haccepts, _, hasked⟩ :=
        step_of_sets planner hsets
      rw [hstep]
      intro hflag _
      cases hverdict : s.accepts planner modeInfo status with
      | false => exact absurd hflag (ModeState.gcRejected_of_refuses border hverdict)
      | true =>
        obtain ⟨ptr, rfl, _⟩ := ModeState.setGC_of_accepts border hverdict
        rw [haccepts] at hverdict
        refine ⟨ptr, (hasked hmeets ptr rfl).resolve_right ?_, ?_⟩
        . rw [hverdict]
          decide
        . exact (judge_self r status).trans hverdict

/-- Panning that reaches the card has found the flag clear. -/
theorem gcRejected_of_setPanning {addr : UInt32} {width : UInt16} {xOffset yOffset : Int16}
    {format : UInt32} (h : (r.step planner (.setPanning addr width xOffset yOffset format)).2 ≠ [])
    : r.state.board.cardData CardData.gcRejected = 0 := by
  by_contra hflag
  apply h
  unfold step BoardInfo.setPanning
  dsimp only
  rw [if_pos hflag]

theorem guarded_step {call : ModeCall} (h : r.Inv) (hmeets : r.Meets planner call)
    : r.Guarded planner call where
  panning := by
    intro addr width xOffset yOffset format hcall hops
    subst hcall
    exact h.panning (gcRejected_of_setPanning hops) hmeets
  mode := by
    intro hchange
    cases hsets : r.sets call with
    | none =>
      obtain ⟨_, _, _, hmode, hstores⟩ := step_of_not_sets planner hsets
      cases hchange with
      | inl hchange =>
        obtain ⟨value, hmem⟩ := hchange
        exact absurd hmem (hstores value)
      | inr hchange => exact absurd hmode hchange
    | some set =>
      obtain ⟨modeInfo, status⟩ := set
      obtain ⟨s, border, before, requested, hstep, _, haccepts, hbefore, _⟩ :=
        step_of_sets planner hsets
      rw [hstep] at hchange ⊢
      cases hverdict : s.accepts planner modeInfo status with
      | true =>
        obtain ⟨ptr, rfl, hmode⟩ := ModeState.setGC_of_accepts border hverdict
        refine ⟨ptr, status, rfl, hmode, ?_⟩
        rw [haccepts] at hverdict
        exact (judge_self r status).trans hverdict
      | false =>
        have hops := ops_of_refuses border hbefore hverdict
        cases hchange with
        | inl hchange =>
          obtain ⟨value, hmem⟩ := hchange
          exact absurd rfl (hops _ _ hmem).1
        | inr hchange => exact absurd (Scanout.foldl_store_mode hops) hchange
  refused := by
    intro modeInfo status hsets hverdict
    obtain ⟨s, border, before, requested, hstep, ⟨hmode, hborder, hmodes⟩, haccepts, hbefore, _⟩ :=
      step_of_sets planner hsets
    rw [← haccepts] at hverdict
    obtain ⟨hstate, _⟩ := ModeState.setGC_of_refuses border hverdict
    rw [hstep]
    unfold afterSetGC
    dsimp only
    rw [hstate]
    exact ⟨hmode, hborder, hmodes,
      Scanout.foldl_store_mode (ops_of_refuses border hbefore hverdict)⟩

/--
Panning and mode changes keep to accepted modes in every run in which no panning comes before the
first `SetGC` and the monitor switch brings back no other mode than the one that was asked for.
-/
theorem modeGuard_along (board : BoardInfo) (modes : ModePtr → ModeInfo) (scanout : Scanout)
    (calls : List ModeCall)
    (hmeets : Along planner (Meets planner) (start board modes scanout) calls)
    : Along planner (Guarded planner) (start board modes scanout) calls := by
  have hinv := inv_start board modes scanout
  generalize start board modes scanout = r at hmeets hinv ⊢
  induction calls generalizing r with
  | nil => trivial
  | cons call calls ih =>
    obtain ⟨hcall, hrest⟩ := hmeets
    exact ⟨guarded_step hinv hcall, ih _ hrest (inv_step hinv hcall)⟩

/-- A planner that knows one mode only. -/
def vgaPlanner : Planner := fun mode _ => if mode.width = 640 then some (.preset 5 0) else none

/-- A Zorro II board with a 32 bit screen. -/
def vgaBoard : BoardInfo :=
  { (default : BoardInfo) with registerBase := 0x200000, memoryBase := 0x210000, rgbFormat := 9 }

def vgaMode : ModeInfo := ⟨640, 480, 0, 800, 16, 96, 525, 10, 2, 25175000⟩

def vgaModes : ModePtr → ModeInfo := fun ptr =>
  if ptr = 0 then vgaMode else { vgaMode with width := 648 }

def vgaStart : ModeRun := start vgaBoard vgaModes ⟨0, fun _ => 0, .off⟩

theorem modeGuard_along_switched
    : Along vgaPlanner (Guarded vgaPlanner) vgaStart
        [.setGC (some 0) false 0, .setSwitch 0 0, .setSwitch 1 0,
         .setPanning 0x210000 640 0 0 9] := by
  apply modeGuard_along
  refine ⟨trivial, ?_, ?_, ?_, trivial⟩
  . intro ptr h
    contradiction
  . intro ptr h
    exact .inl (congrArg some h)
  . intro h
    contradiction

/-- The monitor switch brings an accepted mode back and lets the panning for a refused one through. -/
theorem modeGuard_lifted
    : ¬ Along vgaPlanner (Guarded vgaPlanner) vgaStart
        [.setGC (some 0) false 0, .setGC (some 1) false 0, .setSwitch 1 0,
         .setPanning 0x210000 648 0 0 9] := by
  intro ⟨_, _, _, hguarded, _⟩
  obtain ⟨ptr, hrequested, haccepted⟩ := hguarded.panning _ _ _ _ _ rfl (by decide)
  rw [← Option.some.inj (Option.some.inj hrequested)] at haccepted
  revert haccepted
  decide

end ModeRun

end ZZRtg
