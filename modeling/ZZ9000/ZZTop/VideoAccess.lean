import ZZ9000.Vcap.GeometryLemmas
import ZZ9000.ZZTop.Video
import ZZ9000.ZZTop.VideoCardLemmas

/-!
This module contains what `video.c` knows about the hardware after it has read or requested
something.
-/

namespace ZZTop

open Concurrency ZZVcap
open Concurrency.Coroutine

abbrev videoContract : Contract VideoWorld Empty Empty :=
  .solo (fun _ _ => True) (fun _ _ => True)

namespace VideoWorld

variable {w w' w'' : VideoWorld}

/-- What may have happened while `video.c` did not request anything. -/
structure Follows (w w' : VideoWorld) : Prop where
  card : VideoCard.Follows w.card w'.card
  live : w'.live = w.live
  cfg : w'.cfg = w.cfg
  history : w'.history = w.history

theorem Follows.refl (w : VideoWorld)
    : Follows w w where
  card := .refl _
  live := rfl
  cfg := rfl
  history := rfl

theorem Follows.trans (h : Follows w w') (h' : Follows w' w'')
    : Follows w w'' where
  card := h.card.trans h'.card
  live := by rw [h'.live, h.live]
  cfg := by rw [h'.cfg, h.cfg]
  history := by rw [h'.history, h.history]

theorem follows_events (es : List VideoEvent) (w : VideoWorld)
    : Follows w (w.events es) :=
  { Follows.refl w with card := (VideoCard.follows_events es).1 }

def Stable (P : VideoWorld → Prop) : Prop := ∀ w w', Follows w w' → P w → P w'

theorem stable_and {P Q : VideoWorld → Prop} (hP : Stable P) (hQ : Stable Q)
    : Stable (fun w => P w ∧ Q w) := by
  intro w w' h hw
  exact ⟨hP w w' h hw.1, hQ w w' h hw.2⟩

/-- No request for the crop is on its way, and the control is applied. -/
def CropAt (raw : UInt32) (w : VideoWorld) : Prop :=
  w.card.crop.request = none ∧ w.card.crop.appliedRaw = raw

/-- The engine is not busy, and the phase is applied. -/
def PhaseAt (phase : Int) (w : VideoWorld) : Prop :=
  w.card.phase.state.busy = false ∧ w.card.phase.state.applied = phase

/-- No request for the capture window is on its way, and its state is this one. -/
def WindowIn (state : VcapGeometryState) (w : VideoWorld) : Prop :=
  state.pending = false ∧ w.card.geometry.state = state

theorem stable_cropAt (raw : UInt32)
    : Stable (CropAt raw) := by
  intro w w' h hw
  have := h.card.crop hw.1
  exact ⟨this.1, this.2.trans hw.2⟩

theorem stable_phaseAt (phase : Int)
    : Stable (PhaseAt phase) := by
  intro w w' h hw
  have := h.card.phase hw.1
  exact ⟨this.1, this.2.trans hw.2⟩

theorem stable_windowIn (state : VcapGeometryState)
    : Stable (WindowIn state) := by
  intro w w' h hw
  refine ⟨hw.1, ?_⟩
  rw [(h.card.geometry (by rw [hw.2]; exact hw.1)).1]
  exact hw.2

theorem wp_read32 {offset : UInt32} {Q : UInt32 → VideoWorld → VideoWorld → Prop}
    {w₀ w : VideoWorld}
    (hQ : ∀ w₁ w₂, Follows w w₁ → Follows w₁ w₂ →
      w₁.card.geometry.key = w.card.geometry.key →
      Q (vcapWord (w₁.card.register offset) (w₂.card.register (offset + 2))) w₀ w₂)
    : (cardIo.read32 offset).wp videoContract Q w₀ w := by
  unfold VcapIo.read32 cardIo videoElapse
  simp only [wp_bind, wp_answer, wp_modify, wp_read, wp_pure]
  intro r r'
  exact hQ _ _ (follows_events r.events w) (follows_events r'.events _)
    (VideoCard.follows_events r.events).2

section Access

variable {P : VideoWorld → Prop} (hP : Stable P)

include hP

theorem triple_videoElapse
    : Triple videoContract P videoElapse (fun _ => P) := by
  intro w₀ w _ hw
  unfold videoElapse
  simp only [wp_bind, wp_answer, wp_modify]
  intro r
  exact ⟨trivial, hP w _ (follows_events r.events w) hw⟩

/-- The texts and the wait for the user are nothing that a stable predicate is about. -/
theorem triple_modify_follows {f : VideoWorld → VideoWorld} (hf : ∀ w, Follows w (f w))
    : Triple videoContract P (modify f : Video Unit) (fun _ => P) := by
  apply triple_modify_solo
  intro w hw
  exact hP w _ (hf w) hw

theorem triple_feWaitKeepRunning
    : Triple videoContract P feWaitKeepRunning (fun _ => P) := by
  intro w₀ w _ hw
  unfold feWaitKeepRunning
  simp only [wp_bind, wp_answer, wp_modify, wp_pure]
  intro r
  exact ⟨trivial, hP w _ { Follows.refl w with } hw⟩

theorem keeps_of_stable
    : cardIo.Keeps videoContract P where
  read16 offset := by
    apply triple_bind (triple_videoElapse hP)
    intro _
    apply triple_bind (J := fun _ => P)
    . apply triple_read
      intro w hw
      exact hw
    . intro w
      apply triple_pure
      intro w hw
      exact hw
  delay := triple_videoElapse hP
  keepRunning := triple_feWaitKeepRunning hP

theorem triple_writeMessage (text : String)
    : Triple videoContract P (writeMessage text) (fun _ => P) :=
  triple_modify_follows hP fun w => { Follows.refl w with }

theorem triple_feWaitBegin
    : Triple videoContract P feWaitBegin (fun _ => P) :=
  triple_modify_follows hP fun w => { Follows.refl w with }

theorem triple_refuse {J : Bool → VideoWorld → Prop} (text : String)
    (hJ : ∀ w, P w → J false w)
    : Triple videoContract P (refuse text) J := by
  apply triple_bind (triple_writeMessage hP text)
  intro _
  apply triple_pure
  exact hJ

theorem triple_accept {J : Bool → VideoWorld → Prop} (text : String)
    (hJ : ∀ w, P w → J true w)
    : Triple videoContract P (accept text) J := by
  apply triple_bind (triple_writeMessage hP text)
  intro _
  apply triple_pure
  exact hJ

/-- What a read of the engine says about it. -/
def PhaseReads (P : VideoWorld → Prop) (r : Except VcapResult VcapPhaseState) (w : VideoWorld)
    : Prop :=
  P w ∧
    match r with
    | .error result => result ≠ .ok
    | .ok state => state.domain = w.card.phase.domain
      ∧ ∀ target, state.settledAt target = true → PhaseAt target w

theorem triple_phaseRead
    : Triple videoContract P cardIo.phaseRead (PhaseReads P) := by
  intro w₀ w _ hw
  unfold VcapIo.phaseRead
  rw [wp_bind]
  apply wp_read32
  intro w₁ w₂ h₁ h₂ _
  have h₁₂ := h₁.trans h₂
  dsimp only
  split
  . exact ⟨trivial, hP w w₂ h₁₂ hw, by simp⟩
  . rw [wp_bind]
    apply wp_read32
    intro w₃ w₄ h₃ h₄ _
    rw [wp_bind]
    apply wp_read32
    intro w₅ w₆ h₅ h₆ _
    have h₂₆ := ((h₃.trans h₄).trans h₅).trans h₆
    have hdomain : vcapPhaseDomain (vcapWord (w₁.card.register captureCapReg)
        (w₂.card.register (captureCapReg + 2))) = w₆.card.phase.domain := by
      rw [VideoCard.register_captureCap, VideoCard.register_captureCap_low,
        h₂.card.capability, vcapWord_halves]
      unfold PhaseCard.domain
      rw [h₂₆.card.capability, h₂.card.capability]
    refine ⟨trivial, hP w w₆ (h₁₂.trans h₂₆) hw, hdomain, ?_⟩
    intro target hsettled
    rw [VideoCard.register_phaseStatus, VideoCard.register_phaseStatus_low, hdomain] at hsettled
    simp only [VcapPhaseState.settledAt, Bool.and_eq_true, Bool.not_eq_true', beq_iff_eq]
      at hsettled
    exact ⟨hsettled.1.1.2, hsettled.2⟩

theorem acknowledges_of_stable
    : cardIo.Acknowledges videoContract P PhaseAt where
  toKeeps := keeps_of_stable hP
  phaseRead := by
    apply triple_mono (K := P) (triple_phaseRead hP)
    . intro w hw
      exact hw
    . intro r w hr
      refine ⟨hr.1, ?_⟩
      cases r with
      | error result => exact hr.2
      | ok state => exact hr.2.2

theorem triple_readSnapshot
    : Triple videoContract P cardIo.readSnapshot
        (fun r w => (r = none → P w) ∧ ∀ out, r = some out → P w ∧ CropAt out.raw w) := by
  intro w₀ w _ hw
  unfold VcapIo.readSnapshot
  rw [wp_bind]
  apply wp_read32
  intro w₁ w₂ h₁ h₂ _
  rw [wp_bind]
  apply wp_read32
  intro w₃ w₄ h₃ h₄ _
  rw [wp_bind]
  apply wp_read32
  intro w₅ w₆ h₅ h₆ _
  rw [wp_bind]
  apply wp_read32
  intro w₇ w₈ h₇ h₈ _
  rw [wp_pure]
  have h₄₈ := ((h₅.trans h₆).trans h₇).trans h₈
  have hkept := hP w w₈ (((h₁.trans h₂).trans (h₃.trans h₄)).trans h₄₈) hw
  refine ⟨trivial, fun _ => hkept, ?_⟩
  intro out hout
  refine ⟨hkept, ?_⟩
  obtain ⟨_, hsettled, _, hraw⟩ := vcapSnapshotOf_eq_some hout
  -- The status was not busy, so nothing has changed since its second half was read.
  have hidle := LiveCard.request_none_of_status (VcapStatus.busy_of_settled hsettled)
  have hcrop₃ := h₃.card.crop hidle
  have hcrop₄ := h₄.card.crop hcrop₃.1
  have hcrop₈ := h₄₈.card.crop hcrop₄.1
  refine ⟨hcrop₈.1, ?_⟩
  rw [hraw, (VideoCard.register_live w₃.card).2.1, (VideoCard.register_live w₄.card).2.2, hcrop₄.2,
    vcapWord_halves, hcrop₈.2, hcrop₄.2]

theorem triple_captureSnapshot
    : Triple videoContract P captureSnapshot
        (fun r w => P w ∧ ∀ out, r = some out → CropAt out.raw w) := by
  apply triple_mono (K := P) (triple_attempts (triple_readSnapshot hP) captureTries)
  . intro w hw
    exact hw
  . intro r w hr
    cases r with
    | none => exact ⟨hr.1 rfl, by simp⟩
    | some out =>
      refine ⟨(hr.2 out rfl).1, ?_⟩
      intro out' hout'
      exact (hr.2 out' hout').2

/-- A query for the state of the window that is not busy finds the state that stays. -/
theorem triple_query {key : UInt16} (hkey : key ≠ cfgKeyGeometryRegs)
    : Triple videoContract P (cardIo.query key) (fun r w => P w ∧ ∀ value, r = some value →
        ∃ before : VideoWorld, P before ∧ VideoCard.Follows before.card w.card
          ∧ value = GeometryCard.stateValue before.card.geometry.state key) := by
  intro w₀ w _ hw
  unfold VcapIo.query
  simp only [wp_bind, cardIo, wp_modify]
  have hset : Follows w (w.write regConfigKey key) :=
    { Follows.refl w with card := VideoCard.follows_configKey key w.card }
  apply wp_read32
  intro w₁ w₂ h₁ h₂ hsame
  rw [wp_pure]
  refine ⟨trivial, hP w w₂ ((hset.trans h₁).trans h₂) hw, ?_⟩
  intro value hvalue
  refine ⟨w₁, hP w w₁ (hset.trans h₁) hw, h₂.card, ?_⟩
  split at hvalue
  . simp only [Option.some.injEq] at hvalue
    rw [← hvalue, toUInt16_vcapWord_shiftRight, VideoCard.register_configKey]
    have hkey₁ : w₁.card.geometry.key = key := hsame
    unfold GeometryCard.value
    rw [hkey₁, if_neg hkey]
  . contradiction

end Access

/-- What queries have found. -/
def Found (P : VideoWorld → Prop) (J : List UInt16 → VideoWorld → Prop) (r : Option (List UInt16))
    (w : VideoWorld) : Prop :=
  P w ∧ ∀ values, r = some values → J values w

/-- The value was read not long ago. -/
def SeenBefore (P : VideoWorld → Prop) (key value : UInt16) (w : VideoWorld) : Prop :=
  ∃ before : VideoWorld, P before ∧ VideoCard.Follows before.card w.card
    ∧ value = GeometryCard.stateValue before.card.geometry.state key

section Queries

variable {P : VideoWorld → Prop} (hP : Stable P)

include hP

theorem triple_queries_cons {key : UInt16} {keys : List UInt16}
    {J : List UInt16 → VideoWorld → Prop} (hkey : key ≠ cfgKeyGeometryRegs)
    (hrest : ∀ value, Triple videoContract (fun w => P w ∧ SeenBefore P key value w)
      (cardIo.queries keys) (Found P fun values => J (value :: values)))
    : Triple videoContract P (cardIo.queries (key :: keys)) (Found P J) := by
  unfold VcapIo.queries
  apply triple_bind (triple_query hP hkey)
  intro r
  cases r with
  | none =>
    apply triple_pure
    intro w hw
    exact ⟨hw.1, by simp⟩
  | some value =>
    apply triple_bind (triple_of_pre _ (hrest value))
    . intro values
      apply triple_pure
      intro w hw
      refine ⟨hw.1, ?_⟩
      intro values' hvalues
      simp only [Option.map_eq_some_iff] at hvalues
      obtain ⟨rest, hrest, rfl⟩ := hvalues
      exact hw.2 rest hrest
    . intro w hw
      exact ⟨hw.1, hw.2 value rfl⟩

theorem triple_queries_of_ne (keys : List UInt16) (hkeys : ∀ key ∈ keys, key ≠ cfgKeyGeometryRegs)
    : Triple videoContract P (cardIo.queries keys) (Found P fun _ _ => True) := by
  induction keys with
  | nil =>
    apply triple_pure
    intro w hw
    exact ⟨hw, fun _ _ => trivial⟩
  | cons key keys ih =>
    apply triple_queries_cons hP (hkeys key List.mem_cons_self)
    intro value
    apply triple_of_pre (K := P) fun w hw => hw.1
    exact ih fun key hkey => hkeys key (List.mem_cons_of_mem _ hkey)

/-- What is read of a window that is not busy is its state. -/
theorem triple_queries_settled (state : VcapGeometryState) (keys : List UInt16)
    (hkeys : ∀ key ∈ keys, key ≠ cfgKeyGeometryRegs)
    : Triple videoContract (fun w => P w ∧ WindowIn state w) (cardIo.queries keys)
        (Found (fun w => P w ∧ WindowIn state w) fun values _ =>
          values = keys.map (GeometryCard.stateValue state)) := by
  have hstable := stable_and hP (stable_windowIn state)
  induction keys with
  | nil =>
    apply triple_pure
    intro w hw
    refine ⟨hw, ?_⟩
    intro values hvalues
    simp only [Option.some.injEq] at hvalues
    rw [← hvalues]
    rfl
  | cons key keys ih =>
    apply triple_queries_cons hstable (hkeys key List.mem_cons_self)
    intro value
    apply triple_of_fact (p := value = GeometryCard.stateValue state key)
    . intro w hw
      obtain ⟨before, hbefore, _, hvalue⟩ := hw.2
      rw [hvalue, hbefore.2.2]
    . intro hvalue
      apply triple_mono (K := fun w => P w ∧ WindowIn state w)
        (ih fun key hkey => hkeys key (List.mem_cons_of_mem _ hkey))
      . intro w hw
        exact hw.1
      . intro r w hr
        refine ⟨hr.1, ?_⟩
        intro values hvalues
        rw [hr.2 values hvalues, hvalue]
        rfl

end Queries

/-- The queries of an attempt after the one for the status. -/
def geometryRest : List UInt16 :=
  [cfgKeyRequestWidth, cfgKeyRequestHeight, cfgKeyAppliedWidth, cfgKeyAppliedHeight,
    cfgKeyRequestSerial, cfgKeyAppliedSerial, cfgKeyGeometryStatus]

/-- No query of an attempt is the one that says whether the card has the registers at all. -/
theorem geometryKeys_ne_regs : ∀ key ∈ VcapIo.geometryKeys, key ≠ cfgKeyGeometryRegs := by
  intro key hkey heq
  rw [heq] at hkey
  unfold VcapIo.geometryKeys at hkey
  simp [cfgKeyGeometryRegs, cfgKeyRequestSerial, cfgKeyAppliedSerial, cfgKeyGeometryStatus,
    cfgKeyRequestWidth, cfgKeyRequestHeight, cfgKeyAppliedWidth, cfgKeyAppliedHeight] at hkey

theorem geometryRest_ne_regs : ∀ key ∈ geometryRest, key ≠ cfgKeyGeometryRegs := by
  intro key hkey
  apply geometryKeys_ne_regs
  have hdrop : geometryRest = VcapIo.geometryKeys.drop 3 := by
    rfl
  rw [hdrop] at hkey
  apply List.mem_of_mem_drop hkey

theorem status_of_geometryOf {requestBefore appliedBefore status : UInt16} {values : List UInt16}
    {state : VcapGeometryState}
    (h : VcapIo.geometryOf (requestBefore :: appliedBefore :: status :: values) = some state)
    : state.status = status := by
  unfold VcapIo.geometryOf at h
  split at h
  . next heq =>
    split at h
    . next hsame =>
      simp only [List.cons.injEq] at heq
      simp only [Option.some.injEq] at h
      rw [← h, heq.2.2.1]
      exact hsame.2.2.symm
    . contradiction
  . contradiction

theorem state_of_geometryOf {requestBefore appliedBefore status : UInt16}
    {state state' : VcapGeometryState}
    (h : VcapIo.geometryOf (requestBefore :: appliedBefore :: status ::
      geometryRest.map (GeometryCard.stateValue state')) = some state)
    : state = state' := by
  have hvalues : geometryRest.map (GeometryCard.stateValue state')
      = [state'.requestedWidth, state'.requestedHeight, state'.appliedWidth,
        state'.appliedHeight, state'.requestSerial, state'.appliedSerial, state'.status] := by
    rfl
  rw [hvalues] at h
  simp only [VcapIo.geometryOf] at h
  split at h
  . simp only [Option.some.injEq] at h
    rw [← h]
  . contradiction

theorem size_of_geometryOf {values : List UInt16} {state : VcapGeometryState}
    (h : VcapIo.geometryOf values = some state)
    : ∃ a b c rest, values = a :: b :: c :: state.requestedWidth :: state.requestedHeight
        :: rest := by
  unfold VcapIo.geometryOf at h
  split at h
  . split at h
    . simp only [Option.some.injEq] at h
      rw [← h]
      exact ⟨_, _, _, _, rfl⟩
    . contradiction
  . contradiction

section Geometry

variable {P : VideoWorld → Prop} (hP : Stable P)

include hP

/-- Every value was read not long ago. -/
theorem triple_queries_seen (keys : List UInt16) (hkeys : ∀ key ∈ keys, key ≠ cfgKeyGeometryRegs)
    : Triple videoContract P (cardIo.queries keys) (Found P fun values _ =>
        List.Forall₂ (fun key value => ∃ before : VideoWorld, P before
          ∧ value = GeometryCard.stateValue before.card.geometry.state key) keys values) := by
  induction keys with
  | nil =>
    apply triple_pure
    intro w hw
    refine ⟨hw, ?_⟩
    intro values hvalues
    simp only [Option.some.injEq] at hvalues
    rw [← hvalues]
    exact .nil
  | cons key keys ih =>
    apply triple_queries_cons hP (hkeys key List.mem_cons_self)
    intro value
    apply triple_of_fact (p := ∃ before : VideoWorld, P before
      ∧ value = GeometryCard.stateValue before.card.geometry.state key)
    . intro w hw
      obtain ⟨before, hbefore, _, hvalue⟩ := hw.2
      exact ⟨before, hbefore, hvalue⟩
    . intro hseen
      apply triple_mono (K := P) (ih fun key hkey => hkeys key (List.mem_cons_of_mem _ hkey))
      . intro w hw
        exact hw.1
      . intro r w hr
        exact ⟨hr.1, fun values hvalues => .cons hseen (hr.2 values hvalues)⟩

/-- A state that was read is the one of the card if it is not busy. -/
theorem triple_queries_geometryKeys
    : Triple videoContract P (cardIo.queries VcapIo.geometryKeys)
        (Found P fun values w => ∀ state, VcapIo.geometryOf values = some state →
          state.pending = false → WindowIn state w) := by
  apply triple_queries_cons hP (by decide)
  intro requestBefore
  apply triple_of_pre (K := P) fun w hw => hw.1
  apply triple_queries_cons hP (by decide)
  intro appliedBefore
  apply triple_of_pre (K := P) fun w hw => hw.1
  apply triple_queries_cons hP (by decide)
  intro status
  show Triple videoContract _ (cardIo.queries geometryRest) _
  by_cases hpending : status &&& geometryPending = 0
  . apply triple_of_pre (K := fun w => ∃ state, P w ∧ WindowIn state w)
    . intro w hw
      obtain ⟨before, _, hfollows, hstatus⟩ := hw.2
      have hidle : before.card.geometry.state.pending = false := by
        have heq : before.card.geometry.state.status = status := hstatus.symm
        unfold VcapGeometryState.pending
        rw [heq, hpending]
        rfl
      exact ⟨before.card.geometry.state, hw.1, hidle, (hfollows.geometry hidle).1⟩
    . apply triple_exists
      intro state'
      apply triple_mono (K := fun w => P w ∧ WindowIn state' w)
        (triple_queries_settled hP state' geometryRest geometryRest_ne_regs)
      . intro w hw
        exact hw
      . intro r w hr
        refine ⟨hr.1.1, ?_⟩
        intro values hvalues state hstate _
        rw [hr.2 values hvalues] at hstate
        rw [state_of_geometryOf hstate]
        exact hr.1.2
  . apply triple_mono (K := P) (triple_queries_of_ne hP geometryRest geometryRest_ne_regs)
    . intro w hw
      exact hw.1
    . intro r w hr
      refine ⟨hr.1, ?_⟩
      intro values _ state hstate hidle
      unfold VcapGeometryState.pending at hidle
      rw [status_of_geometryOf hstate] at hidle
      simp [hpending] at hidle

theorem triple_geometrySupported
    : Triple videoContract P cardIo.geometrySupported (fun _ => P) := by
  apply triple_bind ((keeps_of_stable hP).read16 _)
  intro _
  apply triple_pure
  intro w hw
  exact hw

/-- A reader of the state of the window, over what its queries find. -/
theorem triple_geometryRead_of {ack : VcapGeometryState → VideoWorld → Prop}
    (hqueries : Triple videoContract P (cardIo.queries VcapIo.geometryKeys)
      (Found P fun values w => ∀ state, VcapIo.geometryOf values = some state → ack state w))
    : Triple videoContract P cardIo.geometryRead (VcapIo.GeometryReads P ack) := by
  have hattempt (n : Nat)
      : Triple videoContract P (cardIo.geometryAttempt n) (VcapIo.GeometryReads P ack) := by
    induction n with
    | zero =>
      apply triple_pure
      intro w hw
      exact ⟨hw, by simp⟩
    | succ n ih =>
      apply triple_bind hqueries
      intro r
      cases r with
      | none =>
        apply triple_pure
        intro w hw
        exact ⟨hw.1, by simp⟩
      | some values =>
        dsimp only
        cases hstate : VcapIo.geometryOf values with
        | none =>
          apply triple_of_pre _ ih
          intro w hw
          exact hw.1
        | some state =>
          apply triple_pure
          intro w hw
          exact ⟨hw.1, hw.2 values rfl state hstate⟩
  apply triple_bind (triple_geometrySupported hP)
  intro supported
  apply triple_ite
  . intro _
    exact hattempt _
  . intro _
    apply triple_pure
    intro w hw
    exact ⟨hw, by simp⟩

theorem triple_geometryRead
    : Triple videoContract P cardIo.geometryRead
        (VcapIo.GeometryReads P fun state w => state.pending = false → WindowIn state w) :=
  triple_geometryRead_of hP (triple_queries_geometryKeys hP)

/-- A window that is not busy is read as it is. -/
theorem triple_geometryRead_settled (state : VcapGeometryState)
    : Triple videoContract (fun w => P w ∧ WindowIn state w) cardIo.geometryRead
        (VcapIo.GeometryReads (fun w => P w ∧ WindowIn state w) fun state' _ => state' = state) := by
  apply triple_geometryRead_of (stable_and hP (stable_windowIn state))
  apply triple_mono (K := fun w => P w ∧ WindowIn state w)
    (triple_queries_settled hP state VcapIo.geometryKeys geometryKeys_ne_regs)
  . intro w hw
    exact hw
  . intro r w hr
    refine ⟨hr.1, ?_⟩
    intro values hvalues state' hstate
    rw [hr.2 values hvalues] at hstate
    exact state_of_geometryOf hstate

/-- Nobody but the client requests a window. -/
theorem triple_geometryRead_requested {width height : UInt16}
    (hsize : ∀ w, P w → w.card.geometry.state.requestedWidth = width
      ∧ w.card.geometry.state.requestedHeight = height)
    : Triple videoContract P cardIo.geometryRead (VcapIo.GeometryReads P fun state _ =>
        state.requestedWidth = width ∧ state.requestedHeight = height) := by
  apply triple_geometryRead_of hP
  apply triple_mono (K := P) (triple_queries_seen hP VcapIo.geometryKeys geometryKeys_ne_regs)
  . intro w hw
    exact hw
  . intro r w hr
    refine ⟨hr.1, ?_⟩
    intro values hvalues state hstate
    obtain ⟨a, b, c, rest, rfl⟩ := size_of_geometryOf hstate
    have hseen := hr.2 _ hvalues
    simp only [VcapIo.geometryKeys, List.forall₂_cons] at hseen
    obtain ⟨before, hbefore, hwidth⟩ := hseen.2.2.2.1
    obtain ⟨before', hbefore', hheight⟩ := hseen.2.2.2.2.1
    exact ⟨hwidth.trans (hsize before hbefore).1, hheight.trans (hsize before' hbefore').2⟩

theorem triple_dedicatedRegisters
    : Triple videoContract P cardIo.dedicatedRegisters (fun _ => P) := by
  intro w₀ w _ hw
  unfold VcapIo.dedicatedRegisters VcapIo.query
  simp only [wp_bind, cardIo, wp_modify]
  have hset : Follows w (w.write regConfigKey cfgKeyGeometryRegs) :=
    { Follows.refl w with card := VideoCard.follows_configKey _ w.card }
  apply wp_read32
  intro w₁ w₂ h₁ h₂ _
  rw [wp_pure, wp_pure]
  exact ⟨trivial, hP w w₂ ((hset.trans h₁).trans h₂) hw⟩

end Geometry

/-- What the writes of a request for a window may make of the card. -/
structure Requested (width height : UInt16) (card card' : GeometryCard) : Prop where
  state : card'.state = card.state ∨ card'.state.requests width height = true
  coherent : card.Coherent → card'.Coherent
  window : card'.window = card.window

theorem requested_accept {width height : UInt16} {card card' : GeometryCard}
    (hstate : card'.state = (card.accept width height).state)
    (hwindow : card'.window = card.window)
    : Requested width height card card' where
  state := by
    right
    rw [hstate]
    simp [GeometryCard.accept, VcapGeometryState.requests]
  coherent := by
    intro _ hsettled
    rw [hstate, GeometryCard.settled_of_status (Or.inl rfl)] at hsettled
    contradiction
  window := hwindow

/-- A predicate that leaves the crop registers to its requests. -/
def CropFree (P : VideoWorld → Prop) : Prop :=
  ∀ w crop, P w → P { w with card := { w.card with crop } }

def PhaseFree (P : VideoWorld → Prop) : Prop :=
  ∀ w phase, phase.capability = w.card.phase.capability →
    P w → P { w with card := { w.card with phase } }

def WindowFree (width height : UInt16) (P : VideoWorld → Prop) : Prop :=
  ∀ w geometry, Requested width height w.card.geometry geometry →
    P w → P { w with card := { w.card with geometry } }

theorem triple_writeRequest {P : VideoWorld → Prop} {width height : UInt16}
    (hfree : WindowFree width height P) (registers : Bool)
    : Triple videoContract P (cardIo.writeRequest registers width height) (fun _ => P) := by
  intro w₀ w _ hw
  unfold VcapIo.writeRequest
  cases registers with
  | true =>
    simp only [if_true, cardIo, wp_bind, wp_modify]
    refine ⟨trivial, ?_⟩
    have hrequested : Requested width height w.card.geometry
        ((w.card.geometry.write regVcapGeometryWidth width).write regVcapGeometryCommit height) := by
      by_cases habi : w.card.geometry.regsAbi = 0
      . have hwidth : w.card.geometry.write regVcapGeometryWidth width = w.card.geometry := by
          simp [GeometryCard.write, regVcapGeometryWidth, regConfigKey, regUser2, regUser1,
            regSetFeature, regVcapGeometryCommit, habi]
        have hcommit : w.card.geometry.write regVcapGeometryCommit height = w.card.geometry := by
          simp [GeometryCard.write, regVcapGeometryWidth, regConfigKey, regUser2, regUser1,
            regSetFeature, regVcapGeometryCommit, habi]
        rw [hwidth, hcommit]
        exact ⟨Or.inl rfl, fun h => h, rfl⟩
      . apply requested_accept <;> simp [GeometryCard.write, regVcapGeometryWidth, regConfigKey,
          regUser2, regUser1, regSetFeature, regVcapGeometryCommit, habi, GeometryCard.commit,
          GeometryCard.accept]
    exact hfree w _ hrequested hw
  | false =>
    simp only [Bool.false_eq_true, if_false, cardIo, wp_bind, wp_modify]
    refine ⟨trivial, ?_⟩
    have hrequested : Requested width height w.card.geometry
        (((w.card.geometry.write regUser2 width).write regUser1
          cardFeatureVideocapGeometry).write regSetFeature height) := by
      apply requested_accept <;> simp [GeometryCard.write, regConfigKey, regUser2, regUser1,
        regSetFeature, GeometryCard.accept]
    exact hfree w _ hrequested hw

section Request

variable {P : VideoWorld → Prop} (hP : Stable P)

include hP

theorem triple_applyRawWait (raw : UInt32) (sequence : UInt8) (waiting : Bool) (ticks : Nat)
    : Triple videoContract P (applyRawWait raw sequence waiting ticks)
        (fun r w => P w ∧ ∀ out, r = some out → out.raw = raw ∧ CropAt raw w) := by
  have hio := keeps_of_stable hP
  induction ticks with
  | zero =>
    apply triple_pure
    intro w hw
    exact ⟨hw, by simp⟩
  | succ ticks ih =>
    apply triple_bind (VcapIo.triple_keepRunningOr hio _)
    intro running
    apply triple_ite
    . intro _
      apply triple_bind (VcapIo.triple_readStable hio _)
      intro r
      cases r with
      | none =>
        apply triple_bind hio.delay
        intro _
        exact ih
      | some stable =>
        apply triple_ite
        . intro _
          apply triple_bind (triple_captureSnapshot hP)
          intro r
          cases r with
          | none =>
            apply triple_pure
            intro w hw
            exact ⟨hw.1, by simp⟩
          | some applied =>
            apply triple_pure
            intro w hw
            refine ⟨hw.1, ?_⟩
            intro out hout
            split at hout
            . next hresult =>
              simp only [Option.some.injEq] at hout
              have hraw := appliedRaw_of_vcapRequestResult hresult
              have hcrop := hw.2 applied rfl
              rw [hraw] at hcrop
              exact ⟨by rw [← hout, hraw], hcrop⟩
            . contradiction
        . intro _
          apply triple_bind hio.delay
          intro _
          exact ih
    . intro _
      apply triple_pure
      intro w hw
      exact ⟨hw, by simp⟩

theorem triple_applyRaw (hfree : CropFree P) (raw : UInt32) (waiting : Bool)
    : Triple videoContract P (applyRaw raw waiting)
        (fun r w => P w ∧ ∀ out, r = some out → out.raw = raw ∧ CropAt raw w) := by
  have hio := keeps_of_stable hP
  have hwrite {offset : UInt32} {value : UInt16} (hcrop : ∀ card : VideoCard,
      card.write offset value = { card with crop := card.crop.write offset value })
      : Triple videoContract P (cardIo.write16 offset value) (fun _ => P) := by
    apply triple_modify_solo
    intro w hw
    unfold write
    rw [hcrop]
    exact hfree w _ hw
  apply triple_bind (VcapIo.triple_keepRunningOr hio _)
  intro running
  apply triple_ite
  . intro _
    apply triple_bind (VcapIo.triple_readStable hio _)
    intro r
    cases r with
    | none =>
      apply triple_pure
      intro w hw
      exact ⟨hw, by simp⟩
    | some stable =>
      apply triple_ite
      . intro _
        apply triple_bind (hwrite fun _ => rfl)
        intro _
        apply triple_bind (hwrite fun _ => rfl)
        intro _
        apply triple_bind (hwrite fun _ => rfl)
        intro _
        exact triple_applyRawWait hP _ _ _ _
      . intro _
        apply triple_pure
        intro w hw
        exact ⟨hw, by simp⟩
  . intro _
    apply triple_pure
    intro w hw
    exact ⟨hw, by simp⟩

theorem triple_confirm {text : String} {request : Video VcapResult} {J : VideoWorld → Prop}
    (hrequest : Triple videoContract P request (fun r w => P w ∧ (r = .ok → J w)))
    : Triple videoContract P (confirm text request) (fun r w => P w ∧ (r = true → J w)) := by
  apply triple_bind (triple_feWaitBegin hP)
  intro _
  apply triple_bind hrequest
  intro result
  apply triple_ite
  . intro hok
    apply triple_pure
    intro w hw
    exact ⟨hw.1, fun _ => hw.2 hok⟩
  . intro _
    apply triple_of_pre (K := P) fun w hw => hw.1
    apply triple_refuse hP
    intro w hw
    exact ⟨hw, by simp⟩

theorem triple_phaseApply (hfree : PhaseFree P) (phase : Int) (restoring : Bool)
    : Triple videoContract P (phaseApply phase restoring)
        (fun r w => P w ∧ (r = true → PhaseAt phase w)) := by
  apply triple_confirm hP
  have hwrite : ∀ offset ∈ VcapIo.phaseRegs, ∀ value,
      Triple videoContract P (cardIo.write16 offset value) (fun _ => P) := by
    intro offset hoffset value
    apply triple_modify_solo
    intro w hw
    unfold VcapIo.phaseRegs at hoffset
    rw [List.mem_cons, List.mem_singleton] at hoffset
    cases hoffset with
    | inl htarget =>
      rw [htarget]
      exact hfree w _ rfl hw
    | inr hcommit =>
      rw [hcommit]
      by_cases htoken : value = capturePhaseToken
      . rw [htoken]
        exact hfree w _ rfl hw
      . have hsame : w.write capturePhaseCommitReg value = w := by
          unfold write VideoCard.write
          rw [if_neg (by decide), if_pos rfl, if_neg htoken]
        rw [hsame]
        exact hw
  apply triple_mono (K := P)
    (VcapIo.triple_phaseApply (acknowledges_of_stable hP) hwrite phase restoring)
  . intro w hw
    exact hw
  . intro r w hr
    exact ⟨hr.2, fun hok => (hr.1 hok).2⟩

theorem triple_geometryApply {width height : UInt16} (hfree : WindowFree width height P)
    (restoring : Bool)
    : Triple videoContract P (geometryApply width height restoring)
        (fun r w => P w ∧ (r = true → ∃ state : VcapGeometryState,
          state.Done width height ∧ WindowIn state w)) := by
  apply triple_confirm hP
  have hstable (before : VcapGeometryState)
      : Stable (fun w => P w ∧ (before.pending = false → WindowIn before w)) := by
    intro w w' h hw
    exact ⟨hP w w' h hw.1, fun hidle => stable_windowIn before w w' h (hw.2 hidle)⟩
  apply triple_mono (K := P) (VcapIo.triple_geometryApply (triple_geometryRead hP)
    (keeps_of_stable hP) _ _ _ restoring)
  . intro w hw
    exact hw
  . intro r w hr
    refine ⟨hr.1, ?_⟩
    intro hok
    obtain ⟨state, hdone, hwindow⟩ := hr.2 hok
    exact ⟨state, hdone, hwindow (VcapGeometryState.pending_of_settled hdone.settled)⟩
  . intro before restoring
    exact VcapIo.triple_keepRunningOr (keeps_of_stable (hstable before)) restoring
  . intro before
    exact triple_dedicatedRegisters (hstable before)
  . intro before _ registers
    apply triple_of_pre (K := P) fun w hw => hw.1
    exact triple_writeRequest hfree registers

end Request

/-- A request for what is done already is not made. -/
theorem triple_geometryApply_done {P : VideoWorld → Prop} (hP : Stable P)
    {state : VcapGeometryState} {width height : UInt16} (hdone : state.Done width height)
    (restoring : Bool)
    : Triple videoContract (fun w => P w ∧ WindowIn state w)
        (geometryApply width height restoring) (fun _ w => P w ∧ WindowIn state w) := by
  have hstable := stable_and hP (stable_windowIn state)
  have hpure (before : VcapGeometryState)
      : Stable (fun w => (P w ∧ WindowIn state w) ∧ before = state) := by
    intro w w' h hw
    exact ⟨hstable w w' h hw.1, hw.2⟩
  have happly : Triple videoContract (fun w => P w ∧ WindowIn state w)
      (geometryApply width height restoring)
      (fun r w => (P w ∧ WindowIn state w) ∧ (r = true → True)) := by
    apply triple_confirm hstable
    apply triple_mono (K := fun w => P w ∧ WindowIn state w)
      (VcapIo.triple_geometryApply (triple_geometryRead_settled hP state)
        (keeps_of_stable hstable) _ _ _ restoring)
    . intro w hw
      exact hw
    . intro r w hr
      exact ⟨hr.1, fun _ => trivial⟩
    . intro before restoring
      exact VcapIo.triple_keepRunningOr (keeps_of_stable (hpure before)) restoring
    . intro before
      exact triple_dedicatedRegisters (hpure before)
    . intro before hfresh registers
      apply triple_of_fact (p := before = state) fun w hw => hw.2
      intro heq
      rw [heq] at hfresh
      exact absurd hdone hfresh
  apply triple_mono (K := fun w => P w ∧ WindowIn state w) happly
  . intro w hw
    exact hw
  . intro r w hr
    exact hr.1

end VideoWorld

end ZZTop
