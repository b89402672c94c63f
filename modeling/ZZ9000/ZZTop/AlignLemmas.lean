import ZZ9000.Vcap.LiveLemmas
import ZZ9000.ZZTop.Align

/-!
This module contains what the framing editor leaves behind. The invariant of a run is
`AlignWorld.Good`; what the hardware may do between two accesses is `AlignWorld.Follows`.
-/

namespace ZZTop

open Concurrency ZZVcap
open Concurrency.Coroutine

namespace LiveCard

variable {card card' card'' : LiveCard}

/-- The counters agree with the request that is on its way. -/
structure Coherent (card : LiveCard) : Prop where
  idle : card.request = none → card.completed = card.commits
  busy : card.request ≠ none → card.completed < card.commits

theorem Coherent.completed_le (h : card.Coherent)
    : card.completed ≤ card.commits := by
  by_cases hrequest : card.request = none
  . exact Nat.le_of_eq (h.idle hrequest)
  . exact Nat.le_of_lt (h.busy hrequest)

/-- No request of the editor is on its way. -/
def Unowned (card : LiveCard) : Prop := ∀ request, card.request = some request → request.own = false

/-- What has happened to the hardware in the meantime. -/
structure Later (card card' : LiveCard) : Prop where
  commits_le : card.commits ≤ card'.commits
  completed_le : card.completed ≤ card'.completed
  appliedRaw : card'.completed = card.completed → card'.appliedRaw = card.appliedRaw

theorem Later.refl (card : LiveCard)
    : Later card card where
  commits_le := Nat.le_refl _
  completed_le := Nat.le_refl _
  appliedRaw := fun _ => rfl

theorem Later.trans (h : Later card card') (h' : Later card' card'')
    : Later card card'' where
  commits_le := Nat.le_trans h.commits_le h'.commits_le
  completed_le := Nat.le_trans h.completed_le h'.completed_le
  appliedRaw := by
    intro heq
    have := h.completed_le
    have := h'.completed_le
    rw [h'.appliedRaw (by omega), h.appliedRaw (by omega)]

theorem coherent_commit {own : Bool} (h : card.Coherent)
    : (card.commit own).Coherent := by
  unfold commit
  split
  . exact { h with }
  . have := h.completed_le
    exact { idle := by simp, busy := by simp; omega }

theorem later_commit {own : Bool}
    : Later card (card.commit own) := by
  unfold commit
  split
  . exact { Later.refl card with }
  . exact { Later.refl card with commits_le := Nat.le_succ _ }

theorem appliedRaw_commit (own : Bool) (card : LiveCard)
    : (card.commit own).appliedRaw = card.appliedRaw := by
  unfold commit
  split <;> rfl

theorem unowned_commit (h : card.Unowned)
    : (card.commit false).Unowned := by
  unfold commit
  split
  . exact h
  . intro request hrequest
    simp only [Option.some.injEq] at hrequest
    rw [← hrequest]

theorem coherent_complete {raw : UInt32 → UInt32} (h : card.Coherent)
    : (card.complete raw).Coherent := by
  unfold complete
  split
  . exact h
  . exact { idle := fun _ => rfl, busy := by simp }

theorem later_complete {raw : UInt32 → UInt32} (h : card.Coherent)
    : Later card (card.complete raw) := by
  unfold complete
  split
  . exact Later.refl card
  . next heq =>
    have hbusy := h.busy (by simp [heq])
    refine ⟨Nat.le_refl _, Nat.le_of_lt hbusy, ?_⟩
    dsimp only
    omega

theorem unowned_complete (raw : UInt32 → UInt32) (h : card.Unowned)
    : (card.complete raw).Unowned := by
  unfold complete
  split
  . exact h
  . intro request hrequest
    contradiction

theorem coherent_event (h : card.Coherent) (e : LiveEvent)
    : (card.event e).Coherent := by
  cases e with
  | apply => exact { coherent_complete h with }
  | reject => exact { coherent_complete h with }
  | stageHi => exact { h with }
  | stageLo => exact { h with }
  | commit => exact coherent_commit h
  | signal => exact { h with }

theorem later_event (h : card.Coherent) (e : LiveEvent)
    : Later card (card.event e) := by
  cases e with
  | apply => exact { later_complete h with }
  | reject => exact { later_complete h with }
  | stageHi => exact { Later.refl card with }
  | stageLo => exact { Later.refl card with }
  | commit => exact later_commit
  | signal => exact { Later.refl card with }

theorem unowned_event (h : card.Unowned) (e : LiveEvent)
    : (card.event e).Unowned := by
  cases e with
  | apply => exact unowned_complete id h
  | reject => exact unowned_complete (fun _ => card.appliedRaw) h
  | stageHi => exact h
  | stageLo => exact h
  | commit => exact unowned_commit h
  | signal => exact h

theorem statusHi_requestSequence (card : LiveCard)
    : (card.statusHi >>> 8).toUInt8 = UInt8.ofNat card.commits := by
  unfold statusHi
  generalize UInt8.ofNat card.commits = request
  generalize UInt8.ofNat card.completed = applied
  apply UInt8.toBitVec_inj.mp
  apply BitVec.eq_of_getLsbD_eq
  intro i hi
  interval_cases i <;> simp

/-- The status tells the numbers of requests apart up to 256. -/
theorem commits_mod_of_statusHi (h : card.statusHi = card'.statusHi)
    : card.commits % 256 = card'.commits % 256 := by
  have hsequence : UInt8.ofNat card.commits = UInt8.ofNat card'.commits := by
    rw [← statusHi_requestSequence, ← statusHi_requestSequence, h]
  simpa using congrArg UInt8.toNat hsequence

theorem statusLo_busy (card : LiveCard)
    : (card.statusLo &&& 1 != 0) = card.request.isSome := by
  unfold statusLo
  generalize card.request.isSome = busy
  generalize card.standardValid = standardValid
  generalize card.ntsc = ntsc
  generalize card.rejected = rejected
  generalize card.appliedValid = appliedValid
  revert busy standardValid ntsc rejected appliedValid
  decide

@[simp]
theorem register_status (card : LiveCard)
    : card.register vcapLiveStatus = card.statusHi := by
  rfl

@[simp]
theorem register_status_low (card : LiveCard)
    : card.register (vcapLiveStatus + 2) = card.statusLo := by
  rfl

@[simp]
theorem register_appliedRaw (card : LiveCard)
    : card.register vcapLiveAppliedRaw = (card.appliedRaw >>> 16).toUInt16 := by
  rfl

@[simp]
theorem register_appliedRaw_low (card : LiveCard)
    : card.register (vcapLiveAppliedRaw + 2) = card.appliedRaw.toUInt16 := by
  rfl

/-- A status that is not busy was read while there was no request. -/
theorem request_none_of_status {high : UInt16}
    (h : (vcapStatusUnpack (vcapWord high card.statusLo)).busy = false)
    : card.request = none := by
  rw [busy_vcapWord, statusLo_busy] at h
  simpa using h

end LiveCard

namespace AlignWorld

variable {w w' w'' : AlignWorld}

/-- If Enter was pressed, the hardware has applied the control since then. -/
def SeenSinceEnter (w : AlignWorld) (raw : UInt32) : Prop :=
  ∀ raws, w.sinceEnter = some raws → raw ∈ raws

def SeenSinceEscape (w : AlignWorld) (raw : UInt32) : Prop :=
  ∀ raws, w.sinceEscape = some raws → raw ∈ raws

def Seen (w : AlignWorld) (raw : UInt32) : Prop := w.SeenSinceEnter raw ∧ w.SeenSinceEscape raw

/-- The hardware is coherent, and what it applies is recorded. -/
def Tracks (w : AlignWorld) : Prop := w.card.Coherent ∧ w.Seen w.card.appliedRaw

theorem Tracks.coherent (h : w.Tracks)
    : w.card.Coherent :=
  h.1

theorem Tracks.seen (h : w.Tracks)
    : w.Seen w.card.appliedRaw :=
  h.2

/-- What may have happened while the editor did not access the hardware. -/
structure Follows (w w' : AlignWorld) : Prop where
  tracks : w'.Tracks
  card : LiveCard.Later w.card w'.card
  state : w'.state = w.state
  enter : ∀ raw, w.SeenSinceEnter raw → w'.SeenSinceEnter raw
  escape : ∀ raw, w.SeenSinceEscape raw → w'.SeenSinceEscape raw
  unowned : w.card.Unowned → w'.card.Unowned
  pressedEnter : w'.sinceEnter.isSome = w.sinceEnter.isSome
  pressedEscape : w'.sinceEscape.isSome = w.sinceEscape.isSome

theorem Follows.refl (h : w.Tracks)
    : Follows w w where
  tracks := h
  card := .refl _
  state := rfl
  enter := fun _ h => h
  escape := fun _ h => h
  unowned := fun h => h
  pressedEnter := rfl
  pressedEscape := rfl

theorem Follows.trans (h : Follows w w') (h' : Follows w' w'')
    : Follows w w'' where
  tracks := h'.tracks
  card := h.card.trans h'.card
  state := by rw [h'.state, h.state]
  enter := fun raw hraw => h'.enter raw (h.enter raw hraw)
  escape := fun raw hraw => h'.escape raw (h.escape raw hraw)
  unowned := fun hcard => h'.unowned (h.unowned hcard)
  pressedEnter := by rw [h'.pressedEnter, h.pressedEnter]
  pressedEscape := by rw [h'.pressedEscape, h.pressedEscape]

theorem Follows.seen (h : Follows w w') {raw : UInt32} (hraw : w.Seen raw)
    : w'.Seen raw := by
  exact ⟨h.enter raw hraw.1, h.escape raw hraw.2⟩

theorem follows_event (h : w.Tracks) (e : LiveEvent)
    : Follows w (w.event e) where
  tracks := by
    refine ⟨LiveCard.coherent_event h.coherent e, ?_⟩
    constructor <;> simp [event, SeenSinceEnter, SeenSinceEscape]
  card := LiveCard.later_event h.coherent e
  state := rfl
  enter := by
    intro raw hraw raws hraws
    simp only [event, Option.map_eq_some_iff] at hraws
    obtain ⟨raws', hraws', rfl⟩ := hraws
    exact List.mem_cons_of_mem _ (hraw raws' hraws')
  escape := by
    intro raw hraw raws hraws
    simp only [event, Option.map_eq_some_iff] at hraws
    obtain ⟨raws', hraws', rfl⟩ := hraws
    exact List.mem_cons_of_mem _ (hraw raws' hraws')
  unowned := fun hcard => LiveCard.unowned_event hcard e
  pressedEnter := by simp [event]
  pressedEscape := by simp [event]

theorem follows_events (h : w.Tracks) (es : List LiveEvent)
    : Follows w (w.events es) := by
  unfold events
  induction es generalizing w with
  | nil => exact .refl h
  | cons e es ih =>
    have he := follows_event h e
    exact he.trans (ih he.tracks)

/-- The events that a snapshot was taken between cannot have changed the control. -/
theorem Follows.appliedRaw_eq {w₁ w₂ w₃ w₄ w₅ : AlignWorld} (h₁ : Follows w₁ w₂)
    (h₂ : Follows w₂ w₃) (h₃ : Follows w₃ w₄) (h₄ : Follows w₄ w₅) (hw₂ : w₂.Tracks)
    (hidle : w₂.card.request = none) (hstatus : w₁.card.statusHi = w₅.card.statusHi)
    (hcommits : w₅.card.commits < w₁.card.commits + 256)
    : w₄.card.appliedRaw = w₃.card.appliedRaw := by
  have hmod := LiveCard.commits_mod_of_statusHi hstatus
  have hidle := hw₂.coherent.idle hidle
  have := h₁.card.commits_le
  have := h₂.card.commits_le
  have := h₃.card.commits_le
  have := h₄.card.commits_le
  have := h₂.card.completed_le
  have := h₃.card.completed_le
  have := h₄.tracks.coherent.completed_le
  have := h₄.card.completed_le
  apply h₃.card.appliedRaw
  omega

/-- What the events between two accesses keep. -/
def Stable (P : AlignWorld → Prop) : Prop := ∀ w w', Follows w w' → P w → P w'

theorem stable_state (p : AlignState → Prop)
    : Stable (fun w => p w.state) := by
  intro w w' h hp
  rw [h.state]
  exact hp

theorem stable_pending
    : Stable (fun w => w.state.pendingAction ≠ .none) :=
  stable_state fun s => s.pendingAction ≠ .none

theorem stable_and {P Q : AlignWorld → Prop} (hP : Stable P) (hQ : Stable Q)
    : Stable (fun w => P w ∧ Q w) := by
  intro w w' h hw
  exact ⟨hP w w' h hw.1, hQ w w' h hw.2⟩

end AlignWorld

/-- What the theorems assume about a run where they look at it. -/
def AlignMark.Fresh (m : AlignMark) (w : AlignWorld) : Prop :=
  match m with
  | .shortcut raw => raw = w.card.appliedRaw
  | .bracket commits => w.card.commits < commits + 256
  | .committing => True

/-- The editor commits a request only if none of its own is on its way. -/
def AlignMark.Single (m : AlignMark) (w : AlignWorld) : Prop :=
  match m with
  | .committing => w.card.Unowned
  | _ => True

instance (m : AlignMark) (w : AlignWorld) : Decidable (m.Fresh w) :=
  match m with
  | .shortcut raw => inferInstanceAs (Decidable (raw = w.card.appliedRaw))
  | .bracket commits => inferInstanceAs (Decidable (w.card.commits < commits + 256))
  | .committing => inferInstanceAs (Decidable True)

abbrev alignContract : Contract AlignWorld AlignMark Empty := .solo AlignMark.Fresh AlignMark.Single

namespace AlignWorld

theorem wp_read32 {offset : UInt32} {Q : UInt32 → AlignWorld → AlignWorld → Prop}
    {w₀ w : AlignWorld} (h : w.Tracks)
    (hQ : ∀ w₁ w₂, Follows w w₁ → Follows w₁ w₂ →
      Q (vcapWord (w₁.card.register offset) (w₂.card.register (offset + 2))) w₀ w₂)
    : (alignIo.read32 offset).wp alignContract Q w₀ w := by
  unfold VcapIo.read32 alignIo elapse
  simp only [wp_bind, wp_answer, wp_modify, wp_read, wp_pure]
  intro es es'
  have hfollows := follows_events h es
  exact hQ _ _ hfollows (follows_events hfollows.tracks es')

section Access

variable {P : AlignWorld → Prop} (hP : Stable P) (htracks : ∀ w, P w → w.Tracks)

include hP htracks

theorem triple_elapse
    : Triple alignContract P elapse (fun _ => P) := by
  intro w₀ w _ h
  unfold elapse
  simp only [wp_bind, wp_answer, wp_modify]
  intro es
  exact ⟨trivial, hP w _ (follows_events (htracks w h) es) h⟩

theorem triple_readTwice
    : Triple alignContract P (alignIo.readTwice vcapLiveStatus)
        (fun r w => (r = none → P w) ∧ ∀ stable, r = some stable →
          P w ∧ ((vcapStatusUnpack stable).busy = false → w.card.Unowned)) := by
  intro w₀ w _ h
  unfold VcapIo.readTwice
  rw [wp_bind]
  apply wp_read32 (htracks w h)
  intro w₁ w₂ h₁ h₂
  rw [wp_bind]
  apply wp_read32 h₂.tracks
  intro w₃ w₄ h₃ h₄
  rw [wp_pure]
  have hall := ((h₁.trans h₂).trans h₃).trans h₄
  have hkept := hP w _ hall h
  refine ⟨trivial, fun _ => hkept, ?_⟩
  intro stable hstable
  refine ⟨hkept, ?_⟩
  intro hbusy
  split at hstable
  . next heq =>
    simp only [Option.some.injEq] at hstable
    rw [← hstable, heq] at hbusy
    have hnone := LiveCard.request_none_of_status hbusy
    intro request hrequest
    rw [hnone] at hrequest
    cases hrequest
  . cases hstable

theorem triple_readStable
    : Triple alignContract P (alignIo.readStable vcapLiveStatus)
        (fun r w => (r = none → P w) ∧ ∀ stable, r = some stable →
          P w ∧ ((vcapStatusUnpack stable).busy = false → w.card.Unowned)) := by
  unfold VcapIo.readStable
  apply triple_attempts
  apply triple_readTwice hP htracks

theorem triple_snapshotAttempt
    : Triple alignContract P snapshotAttempt
        (fun r w => (r = none → P w) ∧ ∀ out, r = some out → P w ∧ w.Seen out.raw) := by
  intro w₀ w _ h
  unfold snapshotAttempt VcapIo.readSnapshot
  rw [wp_bind, wp_read, wp_bind, wp_bind]
  apply wp_read32 (htracks w h)
  intro w₁ w₂ h₁ h₂
  rw [wp_bind]
  apply wp_read32 h₂.tracks
  intro w₃ w₄ h₃ h₄
  rw [wp_bind]
  apply wp_read32 h₄.tracks
  intro w₅ w₆ h₅ h₆
  rw [wp_bind]
  apply wp_read32 h₆.tracks
  intro w₇ w₈ h₇ h₈
  rw [wp_pure, wp_bind, wp_note]
  intro hfresh
  have h₄₇ := (h₅.trans h₆).trans h₇
  have hall := ((((h₁.trans h₂).trans h₃).trans h₄).trans h₄₇).trans h₈
  have hkept := hP w _ hall h
  refine ⟨trivial, trivial, fun _ => hkept, ?_⟩
  intro out hout
  refine ⟨hkept, ?_⟩
  obtain ⟨hstatus, hsettled, -, hraw⟩ := vcapSnapshotOf_eq_some hout
  have hhigh := (vcapWord_inj hstatus).1
  have hnone := LiveCard.request_none_of_status (VcapStatus.busy_of_settled hsettled)
  have happlied : w₄.card.appliedRaw = w₃.card.appliedRaw := by
    apply h₂.appliedRaw_eq h₃ h₄ h₄₇ h₂.tracks hnone hhigh
    have := h₁.card.commits_le
    have := h₈.card.commits_le
    have : w₈.card.commits < w.card.commits + 256 := hfresh
    omega
  rw [hraw, LiveCard.register_appliedRaw, LiveCard.register_appliedRaw_low, happlied,
    vcapWord_halves]
  apply h₈.seen
  apply h₄₇.seen
  apply h₄.seen
  exact h₃.tracks.seen

theorem triple_snapshot
    : Triple alignContract P snapshot
        (fun r w => (r = none → P w) ∧ ∀ out, r = some out → P w ∧ w.Seen out.raw) := by
  unfold snapshot
  apply triple_attempts
  apply triple_snapshotAttempt hP htracks

end Access

/-- The invariant of a run of the editor. -/
structure Good (entry : VcapSnapshot) (w : AlignWorld) : Prop where
  tracks : w.Tracks
  entry_eq : w.state.entry = entry
  unowned : w.state.pendingAction = .none → w.card.Unowned
  restoring : w.state.pendingAction = .restore →
    w.state.pendingRaw = entry.raw ∧ w.state.cancelRequested = true
  changing : w.state.pendingAction = .adjust ∨ w.state.pendingAction = .accept →
    w.state.pendingRaw = vcapControlPack w.state.pendingWorking.control
  accepting : w.state.pendingAction = .accept → w.sinceEnter.isSome = true
  cancelled : w.state.cancelRequested = true → w.sinceEscape.isSome = true
  accepted : w.state.accepted = true → w.sinceEnter.isSome = true
    ∧ w.SeenSinceEnter (vcapControlPack w.state.working.control)
  ended : w.state.done = true → w.state.accepted = true ∨ w.state.unknown = true
    ∨ w.state.cancelRequested = true ∧ w.SeenSinceEscape entry.raw

theorem stable_good (entry : VcapSnapshot)
    : Stable (Good entry) := by
  intro w w' hf h
  obtain ⟨card, state, sinceEnter, sinceEscape⟩ := w'
  obtain rfl : state = w.state := hf.state
  exact { h with
    tracks := hf.tracks
    unowned := fun hnone => hf.unowned (h.unowned hnone)
    accepting := fun haccept => by rw [hf.pressedEnter]; exact h.accepting haccept
    cancelled := fun hcancel => by rw [hf.pressedEscape]; exact h.cancelled hcancel
    accepted := fun haccepted => ⟨by rw [hf.pressedEnter]; exact (h.accepted haccepted).1,
      hf.enter _ (h.accepted haccepted).2⟩
    ended := fun hdone => (h.ended hdone).imp_right
      (Or.imp_right fun hescape => ⟨hescape.1, hf.escape _ hescape.2⟩) }

theorem triple_load {I : AlignWorld → Prop}
    : Triple alignContract I load (fun state w => I w ∧ w.state = state) := by
  unfold load
  apply triple_map
  apply triple_read
  intro w hw
  exact ⟨hw, rfl⟩

theorem triple_store {I J : AlignWorld → Prop} {f : AlignState → AlignState}
    (h : ∀ w, I w → J { w with state := f w.state })
    : Triple alignContract I (store f) (fun _ => J) := by
  unfold store
  apply triple_modify_solo h

theorem follows_stage (h : w.Tracks) {card : LiveCard} (hcommits : card.commits = w.card.commits)
    (hcompleted : card.completed = w.card.completed) (hrequest : card.request = w.card.request)
    (happlied : card.appliedRaw = w.card.appliedRaw)
    : Follows w { w with card } where
  tracks := by
    refine ⟨⟨?_, ?_⟩, ?_⟩
    . rw [hrequest, hcommits, hcompleted]
      exact h.coherent.idle
    . rw [hrequest, hcommits, hcompleted]
      exact h.coherent.busy
    . rw [happlied]
      exact h.seen
  card := ⟨Nat.le_of_eq hcommits.symm, Nat.le_of_eq hcompleted.symm, fun _ => happlied⟩
  state := rfl
  enter := fun _ h => h
  escape := fun _ h => h
  unowned := by
    intro hunowned request heq
    apply hunowned
    rw [← hrequest]
    exact heq
  pressedEnter := rfl
  pressedEscape := rfl

/-- What holds before a request of the editor. -/
structure Ready (entry : VcapSnapshot) (candidate : Option VcapWorking) (action : AlignAction)
    (w : AlignWorld) : Prop where
  good : w.Good entry
  idle : w.state.pendingAction = .none
  restoring : action = .restore → w.state.cancelRequested = true
  accepting : action = .accept → w.sinceEnter.isSome = true
  shortcut : w.state.target candidate action = w.state.current.raw → action ≠ .adjust →
    w.Seen w.state.current.raw

section Request

variable {entry : VcapSnapshot} {candidate : Option VcapWorking} {action : AlignAction}

theorem Ready.unowned {w : AlignWorld} (h : w.Ready entry candidate action)
    : w.card.Unowned :=
  h.good.unowned h.idle

theorem stable_ready
    : Stable (Ready entry candidate action) := by
  intro w w' hf h
  have hgood := stable_good entry w w' hf h.good
  obtain ⟨card, state, sinceEnter, sinceEscape⟩ := w'
  obtain rfl : state = w.state := hf.state
  exact { h with
    good := hgood
    accepting := fun haccept => by rw [hf.pressedEnter]; exact h.accepting haccept
    shortcut := fun heq hne => hf.seen (h.shortcut heq hne) }

theorem stable_ready_target (raw : UInt32)
    : Stable (fun w => w.Ready entry candidate action ∧ raw = w.state.target candidate action) := by
  intro w w' hf h
  refine ⟨stable_ready w w' hf h.1, ?_⟩
  rw [hf.state]
  exact h.2

theorem triple_stage {P : AlignWorld → Prop} (hP : Stable P) (htracks : ∀ w, P w → w.Tracks)
    {offset : UInt32} {value : UInt16}
    (hoffset : offset = vcapLiveStagedRawHi ∨ offset = vcapLiveStagedRawLo)
    : Triple alignContract P (alignIo.write16 offset value) (fun _ => P) := by
  apply triple_bind (triple_elapse hP htracks)
  intro _
  apply triple_modify_solo
  intro w hw
  apply hP w _ _ hw
  cases hoffset with
  | inl heq =>
    rw [heq]
    apply follows_stage (htracks w hw) <;> rfl
  | inr heq =>
    rw [heq]
    apply follows_stage (htracks w hw) <;> rfl

/-- The state in which the editor waits for the request that it has made. -/
theorem Ready.requested {w : AlignWorld} {raw : UInt32} (h : w.Ready entry candidate action)
    (haction : action ≠ .none) (hraw : raw = w.state.target candidate action)
    (hcandidate : action ≠ .restore → candidate.isSome = true)
    : ({ w with
        card := w.card.commit true
        state := w.state.requested raw candidate action } : AlignWorld).Good entry :=
  { h.good with
    tracks := by
      refine ⟨LiveCard.coherent_commit h.good.tracks.coherent, ?_⟩
      dsimp only
      rw [LiveCard.appliedRaw_commit]
      exact h.good.tracks.seen
    unowned := fun hnone => absurd hnone haction
    restoring := by
      intro hrestore
      simp only [AlignState.requested] at hrestore ⊢
      refine ⟨?_, h.restoring hrestore⟩
      rw [hraw, hrestore, ← h.good.entry_eq]
      rfl
    changing := by
      intro hchange
      simp only [AlignState.requested] at hchange ⊢
      cases candidate with
      | none => rcases hchange with hchange | hchange <;> simp [hchange] at hcandidate
      | some candidate =>
        rw [hraw]
        rcases hchange with hchange | hchange <;> rw [hchange] <;> rfl
    accepting := fun haccept => h.accepting haccept }

theorem triple_commitRequest {raw : UInt32} (haction : action ≠ .none)
    (hcandidate : action ≠ .restore → candidate.isSome = true)
    : Triple alignContract
        (fun w => w.Ready entry candidate action ∧ raw = w.state.target candidate action)
        (commitRequest raw candidate action) (fun _ w => w.Good entry) := by
  have hstable : Stable (fun w => w.Ready entry candidate action
      ∧ raw = w.state.target candidate action) := stable_ready_target raw
  have htracks (w : AlignWorld)
      (h : w.Ready entry candidate action ∧ raw = w.state.target candidate action) : w.Tracks :=
    h.1.good.tracks
  unfold commitRequest
  apply triple_bind (triple_stage hstable htracks (Or.inl rfl))
  intro _
  apply triple_bind (triple_stage hstable htracks (Or.inr rfl))
  intro _
  apply triple_bind (triple_elapse hstable htracks)
  intro _ w₀ w _ h
  unfold store
  simp only [wp_bind, wp_note, wp_modify]
  intro _
  refine ⟨h.1.unowned, trivial, ?_⟩
  exact h.1.requested haction h.2 hcandidate

theorem triple_requestApply {raw : UInt32} (haction : action ≠ .none)
    (hcandidate : action ≠ .restore → candidate.isSome = true)
    : Triple alignContract
        (fun w => w.Ready entry candidate action ∧ raw = w.state.target candidate action)
        (requestApply raw candidate action) (fun _ w => w.Good entry) := by
  unfold requestApply
  apply triple_bind (triple_readStable (stable_ready_target raw) fun w h => h.1.good.tracks)
  intro r
  cases r with
  | none =>
    apply triple_pure
    intro w hw
    exact (hw.1 rfl).1.good
  | some stable =>
    apply triple_of_pre (K := fun w => w.Ready entry candidate action
      ∧ raw = w.state.target candidate action)
    . intro w hw
      exact (hw.2 stable rfl).1
    . apply triple_ite
      . intro _
        apply triple_bind (J := fun _ w => w.Ready entry candidate action
          ∧ raw = w.state.target candidate action)
        . apply triple_store
          intro w hw
          exact ⟨{ hw.1 with good := { hw.1.good with } }, hw.2⟩
        . intro _
          apply triple_bind (triple_commitRequest haction hcandidate)
          intro _
          apply triple_pure
          intro w hw
          exact hw
      . intro _
        apply triple_pure
        intro w hw
        exact hw.1.good

theorem Ready.unchanged {w : AlignWorld} (h : w.Ready entry candidate action)
    (heq : w.state.target candidate action = w.state.current.raw)
    (hcandidate : action ≠ .restore → candidate.isSome = true)
    : ({ w with state := w.state.unchanged candidate action } : AlignWorld).Good entry := by
  cases action with
  | none => exact h.good
  | adjust => exact h.good
  | accept =>
    cases candidate with
    | none => simp at hcandidate
    | some candidate =>
      have hseen := (h.shortcut heq (by simp)).1
      rw [← heq] at hseen
      exact { h.good with
        accepted := fun _ => ⟨h.accepting rfl, hseen⟩
        ended := fun _ => Or.inl rfl }
  | restore =>
    have hseen := (h.shortcut heq (by simp)).2
    rw [← heq] at hseen
    rw [← h.good.entry_eq] at *
    exact { h.good with
      ended := fun _ => Or.inr (Or.inr ⟨h.restoring rfl, hseen⟩) }

theorem triple_startApply (haction : action ≠ .none)
    (hcandidate : action ≠ .restore → candidate.isSome = true)
    : Triple alignContract (Ready entry candidate action) (startApply candidate action)
        (fun _ w => w.Good entry) := by
  unfold startApply
  apply triple_bind triple_load
  intro state
  apply triple_ite
  . intro heq
    apply triple_bind (J := fun _ w => w.Good entry)
    . apply triple_store
      intro w hw
      rw [← hw.2] at heq
      exact hw.1.unchanged heq hcandidate
    . intro _
      apply triple_pure
      intro w hw
      exact hw
  . intro _
    apply triple_of_pre _ (triple_requestApply haction hcandidate)
    intro w hw
    rw [hw.2]
    exact ⟨hw.1, rfl⟩

end Request

section Reconcile

variable {entry : VcapSnapshot}

theorem triple_restoreEntry
    : Triple alignContract (Ready entry none .restore) restoreEntry (fun _ w => w.Good entry) := by
  unfold restoreEntry
  apply triple_bind (triple_startApply (by simp) (by simp))
  intro _
  apply triple_pure
  intro w hw
  exact hw

/-- What holds when the request that was made for `action` is known to have ended. -/
structure Ended (entry : VcapSnapshot) (action : AlignAction) (w : AlignWorld) : Prop where
  good : w.Good entry
  idle : w.state.pendingAction = .none
  seen : w.Seen w.state.current.raw
  restoring : action = .restore →
    w.state.pendingRaw = entry.raw ∧ w.state.cancelRequested = true
  changing : action = .adjust ∨ action = .accept →
    w.state.pendingRaw = vcapControlPack w.state.pendingWorking.control
  accepting : action = .accept → w.sinceEnter.isSome = true

theorem Ended.ready {w : AlignWorld} {action : AlignAction} (h : w.Ended entry action)
    (hcancel : w.state.cancelRequested = true)
    : w.Ready entry none .restore where
  good := h.good
  idle := h.idle
  restoring := fun _ => hcancel
  accepting := by simp
  shortcut := fun _ _ => h.seen

theorem Good.forget {w : AlignWorld} (h : w.Good entry) (hunowned : w.card.Unowned)
    : ({ w with state := { w.state with pendingAction := .none } } : AlignWorld).Good entry :=
  { h with
    unowned := fun _ => hunowned
    restoring := by simp
    changing := by simp
    accepting := by simp }

/-- The editor goes on from a snapshot that it has just taken. -/
theorem Good.settle {w : AlignWorld} {current : VcapSnapshot} (h : w.Good entry)
    (hunowned : w.card.Unowned) (hseen : w.Seen current.raw)
    : ({ w with state := { w.state with pendingAction := .none, current } } : AlignWorld).Ended
        entry w.state.pendingAction where
  good := { h.forget hunowned with }
  idle := rfl
  seen := hseen
  restoring := h.restoring
  changing := h.changing
  accepting := h.accepting

theorem stable_unowned
    : Stable (fun w => w.Good entry ∧ w.card.Unowned) := by
  intro w w' hf h
  exact ⟨stable_good entry w w' hf h.1, hf.unowned h.2⟩

theorem stable_idle
    : Stable (fun w => w.Good entry ∧ w.state.pendingAction = .none) := by
  intro w w' hf h
  refine ⟨stable_good entry w w' hf h.1, ?_⟩
  rw [hf.state]
  exact h.2

theorem triple_requestLost
    : Triple alignContract (fun w => w.Good entry ∧ w.card.Unowned) requestLost
        (fun _ w => w.Good entry) := by
  unfold requestLost
  apply triple_bind (J := fun _ w => w.Good entry ∧ w.state.pendingAction = .none)
  . apply triple_store
    intro w hw
    exact ⟨hw.1.forget hw.2, rfl⟩
  . intro _
    apply triple_bind (triple_snapshot stable_idle fun w h => h.1.tracks)
    intro r
    cases r with
    | none =>
      apply triple_pure
      intro w hw
      exact (hw.1 rfl).1
    | some current =>
      apply triple_bind (J := fun _ w => w.Ended entry .none)
      . apply triple_store
        intro w hw
        obtain ⟨⟨hgood, hidle⟩, hseen⟩ := hw.2 current rfl
        exact {
          good := { hgood with }
          idle := hidle
          seen := hseen
          restoring := by simp
          changing := by simp
          accepting := by simp }
      . intro _
        apply triple_bind triple_load
        intro state
        apply triple_ite
        . intro hcancel
          apply triple_of_pre _ triple_restoreEntry
          intro w hw
          apply hw.1.ready
          rw [hw.2]
          exact hcancel
        . intro _
          apply triple_pure
          intro w hw
          exact hw.1.good

theorem triple_requestApplied {action : AlignAction} (haction : action ≠ .none)
    : Triple alignContract
        (fun w => w.Ended entry action ∧ w.Seen w.state.pendingRaw) (requestApplied action)
        (fun _ w => w.Good entry) := by
  unfold requestApplied
  apply triple_ite
  . intro hrestore
    apply triple_store
    intro w hw
    have h := hw.1.restoring hrestore
    have hseen := hw.2.2
    rw [h.1] at hseen
    exact { hw.1.good with ended := fun _ => Or.inr (Or.inr ⟨h.2, hseen⟩) }
  . intro hrestore
    have hchange : action = .adjust ∨ action = .accept := by
      cases action <;> simp_all
    apply triple_bind (J := fun _ w => w.Ended entry action
      ∧ w.SeenSinceEnter (vcapControlPack w.state.working.control))
    . apply triple_store
      intro w hw
      have hseen := hw.2.1
      rw [hw.1.changing hchange] at hseen
      refine ⟨?_, hseen⟩
      exact { hw.1 with
        good := { hw.1.good with
          accepted := fun haccepted => ⟨(hw.1.good.accepted haccepted).1, hseen⟩ } }
    . intro _
      apply triple_bind triple_load
      intro state
      apply triple_ite
      . intro hcancel
        apply triple_of_pre _ triple_restoreEntry
        intro w hw
        apply hw.1.1.ready
        rw [hw.2]
        exact hcancel
      . intro _
        apply triple_ite
        . intro haccept
          apply triple_store
          intro w hw
          exact { hw.1.1.good with
            accepted := fun _ => ⟨hw.1.1.accepting haccept, hw.1.2⟩
            ended := fun _ => Or.inl rfl }
        . intro _
          apply triple_pure
          intro w hw
          exact hw.1.1.good

theorem triple_requestEnded {stable : UInt32}
    : Triple alignContract
        (fun w => (w.Good entry ∧ w.card.Unowned) ∧ w.state.pendingAction ≠ .none)
        (requestEnded stable) (fun _ w => w.Good entry) := by
  unfold requestEnded
  apply triple_bind (triple_snapshot (stable_and stable_unowned stable_pending)
    fun w h => h.1.1.tracks)
  intro r
  cases r with
  | none =>
    apply triple_pure
    intro w hw
    exact (hw.1 rfl).1.1
  | some applied =>
    apply triple_bind triple_load
    intro state
    apply triple_of_fact (p := state.pendingAction ≠ .none)
    . intro w hw
      rw [← hw.2]
      exact (hw.1.2 applied rfl).1.2
    intro haction
    apply triple_bind (J := fun _ w => w.Ended entry state.pendingAction
      ∧ w.state.current = applied ∧ w.state.pendingRaw = state.pendingRaw
      ∧ w.state.cancelRequested = state.cancelRequested)
    . apply triple_store
      intro w hw
      obtain ⟨⟨⟨hgood, hunowned⟩, -⟩, hseen⟩ := hw.1.2 applied rfl
      rw [← hw.2]
      exact ⟨hgood.settle hunowned hseen, rfl, rfl, rfl⟩
    . intro _
      apply triple_ite
      . intro happlied
        apply triple_of_pre _ (triple_requestApplied haction)
        intro w hw
        refine ⟨hw.1, ?_⟩
        rw [hw.2.2.1, ← appliedRaw_of_vcapRequestResult happlied, ← hw.2.1]
        exact hw.1.seen
      . intro _
        apply triple_ite
        . intro hcancel
          apply triple_of_pre _ triple_restoreEntry
          intro w hw
          apply hw.1.ready
          cases hcancel with
          | inl hcancel =>
            rw [hw.2.2.2]
            exact hcancel
          | inr hrestore => exact (hw.1.restoring hrestore).2
        . intro _
          apply triple_pure
          intro w hw
          exact hw.1.good

theorem triple_reconcilePending
    : Triple alignContract (fun w => w.Good entry ∧ w.state.pendingAction ≠ .none)
        reconcilePending (fun _ w => w.Good entry) := by
  unfold reconcilePending
  apply triple_bind (triple_readStable (stable_and (stable_good entry) stable_pending)
    fun w h => h.1.tracks)
  intro r
  cases r with
  | none =>
    apply triple_pure
    intro w hw
    exact (hw.1 rfl).1
  | some stable =>
    dsimp only
    apply triple_bind triple_load
    intro state
    apply triple_ite
    . intro _
      apply triple_pure
      intro w hw
      exact (hw.1.2 stable rfl).1.1
    . intro hbusy
      have hunowned (w : AlignWorld) (hw : (((some stable = none) → w.Good entry
          ∧ w.state.pendingAction ≠ .none) ∧ ∀ stable', some stable = some stable' →
          (w.Good entry ∧ w.state.pendingAction ≠ .none)
            ∧ ((vcapStatusUnpack stable').busy = false → w.card.Unowned)) ∧ w.state = state)
          : (w.Good entry ∧ w.card.Unowned) ∧ w.state.pendingAction ≠ .none := by
        have h := hw.1.2 stable rfl
        exact ⟨⟨h.1.1, h.2 (by simpa using hbusy)⟩, h.1.2⟩
      apply triple_of_pre hunowned
      apply triple_ite
      . intro _
        apply triple_ite
        . intro _
          apply triple_pure
          intro w hw
          exact hw.1.1
        . intro _
          apply triple_of_pre _ triple_requestLost
          intro w hw
          exact hw.1
      . intro _
        apply triple_ite
        . intro _
          apply triple_pure
          intro w hw
          exact hw.1.1
        . intro _
          apply triple_requestEnded

theorem triple_reconcile
    : Triple alignContract (Good entry) reconcile (fun _ => Good entry) := by
  unfold reconcile
  apply triple_bind triple_load
  intro state
  apply triple_ite
  . intro _
    apply triple_pure
    intro w hw
    exact hw.1
  . intro haction
    apply triple_of_pre _ triple_reconcilePending
    intro w hw
    rw [hw.2]
    exact ⟨hw.1, haction⟩

end Reconcile

section Key

variable {entry : VcapSnapshot}

/-- A request that is not made because of what was seen last is one for what is applied. -/
theorem triple_markShortcut {candidate : Option VcapWorking} {action : AlignAction}
    : Triple alignContract
        (fun w => w.Good entry ∧ w.state.pendingAction = .none
          ∧ (action = .restore → w.state.cancelRequested = true)
          ∧ (action = .accept → w.sinceEnter.isSome = true))
        (markShortcut candidate action) (fun _ => Ready entry candidate action) := by
  unfold markShortcut
  apply triple_bind triple_load
  intro state
  apply triple_ite
  . intro _
    apply triple_note
    intro w hw hfresh
    obtain ⟨⟨hgood, hidle, hrestoring, haccepting⟩, hstate⟩ := hw
    refine ⟨trivial, ⟨hgood, hidle, hrestoring, haccepting, ?_⟩⟩
    intro _ _
    rw [hstate, show state.current.raw = w.card.appliedRaw from hfresh]
    exact hgood.tracks.seen
  . intro hne
    apply triple_pure
    intro w hw
    obtain ⟨⟨hgood, hidle, hrestoring, haccepting⟩, hstate⟩ := hw
    refine ⟨hgood, hidle, hrestoring, haccepting, ?_⟩
    rw [hstate]
    intro heq
    contradiction

theorem Good.pressEscape {w : AlignWorld} (h : w.Good entry)
    (hcancel : w.state.cancelRequested = false)
    : (AlignWorld.pressEscape w).Good entry :=
  { h with
    tracks := by
      refine ⟨h.tracks.coherent, h.tracks.seen.1, ?_⟩
      simp [AlignWorld.pressEscape, SeenSinceEscape]
    restoring := fun hrestore => ⟨(h.restoring hrestore).1, rfl⟩
    cancelled := fun _ => rfl
    ended := by
      intro hdone
      cases h.ended hdone with
      | inl haccepted => exact Or.inl haccepted
      | inr h =>
        cases h with
        | inl hunknown => exact Or.inr (Or.inl hunknown)
        | inr hescape =>
          rw [hcancel] at hescape
          simp at hescape }

theorem triple_cancel
    : Triple alignContract (Good entry) cancel (fun _ => Good entry) := by
  unfold cancel
  apply triple_bind triple_load
  intro state
  apply triple_ite
  . intro _
    apply triple_store
    intro w hw
    exact { hw.1 with ended := fun _ => Or.inr (Or.inl rfl) }
  . intro hcancel
    apply triple_bind (J := fun _ w => w.Good entry ∧ w.state.cancelRequested = true
      ∧ w.state.pendingAction = state.pendingAction)
    . apply triple_modify_solo
      intro w hw
      refine ⟨hw.1.pressEscape ?_, rfl, ?_⟩
      . rw [hw.2]
        simpa using hcancel
      . rw [← hw.2]
        rfl
    . intro _
      apply triple_ite
      . intro hidle
        apply triple_bind (J := fun _ => Ready entry none .restore)
        . apply triple_of_pre _ triple_markShortcut
          intro w hw
          exact ⟨hw.1, hw.2.2.trans hidle, fun _ => hw.2.1, by simp⟩
        . intro _
          apply triple_restoreEntry
      . intro _
        apply triple_pure
        intro w hw
        exact hw.1

theorem Good.pressEnter {w : AlignWorld} (h : w.Good entry)
    : (AlignWorld.pressEnter w).Good entry ∧ (AlignWorld.pressEnter w).sinceEnter.isSome = true
        ∧ (AlignWorld.pressEnter w).state = w.state := by
  unfold AlignWorld.pressEnter
  split
  . next haccepted => exact ⟨h, (h.accepted haccepted).1, rfl⟩
  . next haccepted =>
    refine ⟨{ h with
      tracks := by
        refine ⟨h.tracks.coherent, ?_, h.tracks.seen.2⟩
        simp [SeenSinceEnter]
      accepting := by simp
      accepted := fun h => absurd h haccepted }, rfl, rfl⟩

theorem triple_keyEnter
    : Triple alignContract (fun w => w.Good entry ∧ w.state.pendingAction = .none) keyEnter
        (fun _ => Good entry) := by
  unfold keyEnter
  apply triple_bind (J := fun _ w => w.Good entry ∧ w.state.pendingAction = .none
    ∧ w.sinceEnter.isSome = true)
  . apply triple_modify_solo
    intro w hw
    have h := hw.1.pressEnter
    rw [h.2.2]
    exact ⟨h.1, hw.2, h.2.1⟩
  . intro _
    apply triple_bind triple_load
    intro state
    apply triple_bind (J := fun _ => Ready entry (some (vcapAccept state.working)) .accept)
    . apply triple_of_pre _ triple_markShortcut
      intro w hw
      exact ⟨hw.1.1, hw.1.2.1, by simp, fun _ => hw.1.2.2⟩
    . intro _
      apply triple_bind (triple_startApply (by simp) (by simp))
      intro _
      apply triple_pure
      intro w hw
      exact hw

theorem triple_keyMove {move : VcapMove} {coarse : Bool}
    : Triple alignContract (fun w => w.Good entry ∧ w.state.pendingAction = .none)
        (keyMove move coarse) (fun _ => Good entry) := by
  unfold keyMove
  apply triple_bind triple_load
  intro state
  cases vcapAdjust state.working move coarse with
  | none =>
    apply triple_pure
    intro w hw
    exact hw.1.1
  | some candidate =>
    apply triple_bind (J := fun _ => Good entry)
    . apply triple_of_pre _ (triple_startApply (by simp) (by simp))
      intro w hw
      exact ⟨hw.1.1, hw.1.2, by simp, by simp, by simp⟩
    . intro _
      apply triple_pure
      intro w hw
      exact hw

theorem triple_keyIdle {code qualifier : UInt16}
    : Triple alignContract (fun w => w.Good entry ∧ w.state.pendingAction = .none)
        (keyIdle code qualifier) (fun _ => Good entry) := by
  unfold keyIdle
  apply triple_ite
  . intro _
    apply triple_keyEnter
  . intro _
    cases alignMove code with
    | none =>
      apply triple_pure
      intro w hw
      exact hw.1
    | some move => apply triple_keyMove

theorem triple_key {code qualifier : UInt16}
    : Triple alignContract (Good entry) (key code qualifier) (fun _ => Good entry) := by
  unfold key
  apply triple_ite
  . intro _
    apply triple_pure
    intro w hw
    exact hw
  . intro _
    apply triple_ite
    . intro _
      apply triple_cancel
    . intro _
      apply triple_bind triple_load
      intro state
      apply triple_ite
      . intro _
        apply triple_pure
        intro w hw
        exact hw.1
      . intro hidle
        apply triple_of_pre _ triple_keyIdle
        intro w hw
        rw [hw.2]
        simp only [not_or, not_not] at hidle
        exact ⟨hw.1, hidle.1⟩

/-- Every turn of the editor keeps the invariant. -/
theorem triple_alignStep (step : AlignStep)
    : Triple alignContract (Good entry) (alignStep step) (fun _ => Good entry) := by
  unfold alignStep
  apply triple_bind (triple_elapse (stable_good entry) fun w h => h.tracks)
  intro _
  cases step with
  | key code qualifier => apply triple_key
  | reconcile => apply triple_reconcile

/-- So does the loop of the source, which takes a sequence of these turns. -/
theorem triple_alignLoop (turns : List (List (UInt16 × UInt16)))
    : Triple alignContract (Good entry) (alignLoop turns) (fun _ => Good entry) := by
  induction turns with
  | nil =>
    unfold alignLoop
    apply triple_pure
    intro w hw
    exact hw
  | cons keys turns ih =>
    unfold alignLoop
    apply triple_bind (triple_steps triple_alignStep _)
    intro _
    apply triple_bind (triple_alignStep .reconcile)
    intro _
    apply triple_bind triple_load
    intro state
    apply triple_ite
    . intro _
      apply triple_pure
      intro w hw
      exact hw.1
    . intro _
      apply triple_of_pre _ ih
      intro w hw
      exact hw.1

end Key

theorem good_start {card : LiveCard} {entry : VcapSnapshot} {state : AlignState}
    (hcard : card.Coherent) (hunowned : card.Unowned) (hstart : AlignState.start entry = some state)
    : (AlignWorld.start card state).Good entry := by
  unfold AlignState.start at hstart
  split at hstart
  . contradiction
  . simp only [Option.some.injEq] at hstart
    rw [← hstart]
    exact {
      tracks := by
        refine ⟨hcard, ?_⟩
        constructor <;> simp [start, SeenSinceEnter, SeenSinceEscape]
      entry_eq := rfl
      unowned := fun _ => hunowned
      restoring := by simp [start]
      changing := by simp [start]
      accepting := by simp [start]
      cancelled := by simp [start]
      accepted := by simp [start]
      ended := by simp [start]
    }

end AlignWorld

/--
The editor has at most one request on its way. If it has accepted, the hardware has applied what it
returns since Enter was pressed, and if it ends in any other way that it knows the outcome of, the
hardware has applied the control of the entry since Escape was pressed.
-/
theorem align_run {card : LiveCard} {entry : VcapSnapshot} {state : AlignState}
    {xs : List AlignStep} {answers : List (List LiveEvent)} {marks : Trace AlignWorld AlignMark}
    {w : AlignWorld} {stop : Stop AlignWorld AlignMark Empty (List LiveEvent) Unit}
    (hcard : card.Coherent) (hunowned : card.Unowned) (hstart : AlignState.start entry = some state)
    (hrun : (steps alignStep xs).exec (.start card state) answers = some (marks, w, stop))
    (hfresh : ∀ m ∈ marks, m.1.Fresh m.2)
    : (∀ m ∈ marks, m.1.Single m.2)
        ∧ (w.state.accepted = true →
          ∃ raws, w.sinceEnter = some raws ∧ vcapControlPack w.state.working.control ∈ raws)
        ∧ (w.state.done = true → w.state.accepted = false → w.state.unknown = false →
          ∃ raws, w.sinceEscape = some raws ∧ entry.raw ∈ raws) := by
  have hgood := AlignWorld.good_start hcard hunowned hstart
  have hsteps : Triple alignContract (AlignWorld.Good entry) (steps alignStep xs)
      (fun _ => AlignWorld.Good entry) := triple_steps AlignWorld.triple_alignStep xs
  obtain ⟨hsingle, _, _, hend⟩ := exec_of_triple hsteps hgood hrun hfresh
  refine ⟨hsingle, ?_, ?_⟩
  . intro haccepted
    obtain ⟨hpressed, hseen⟩ := hend.accepted haccepted
    obtain ⟨raws, hraws⟩ := Option.isSome_iff_exists.mp hpressed
    exact ⟨raws, hraws, hseen raws hraws⟩
  . intro hdone haccepted hunknown
    have hcancelled := hend.ended hdone
    simp only [haccepted, hunknown, Bool.false_eq_true, false_or] at hcancelled
    obtain ⟨raws, hraws⟩ := Option.isSome_iff_exists.mp (hend.cancelled hcancelled.1)
    exact ⟨raws, hraws, hcancelled.2 raws hraws⟩

/-- Hardware that has applied the control and waits for requests. -/
def LiveCard.idle (appliedRaw : UInt32) : LiveCard where
  commits := 0
  completed := 0
  request := none
  appliedRaw := appliedRaw
  effectiveCrop := 0
  stagedHi := 0
  stagedLo := 0
  standardValid := false
  ntsc := false
  rejected := false
  appliedValid := true
  replaces := false

def idleEntry (raw : UInt32) : VcapSnapshot where
  status := 0
  raw := raw
  effectiveH := 10
  effectiveV := 20

/-- What the editor has asked for with Enter is applied before it looks. -/
theorem align_run_accepted
    : ∃ state marks w stop,
        AlignState.start (idleEntry 0x30000000) = some state
          ∧ (steps alignStep [.key alignEnter 0, .reconcile]).exec
            (.start (.idle 0x30000000) state)
            (List.replicate 8 [] ++ [[.apply 0]] ++ List.replicate 12 [])
              = some (marks, w, stop)
          ∧ w.state.accepted = true
          ∧ ∃ raws, w.sinceEnter = some raws
              ∧ vcapControlPack w.state.working.control ∈ raws := by
  obtain ⟨state, hstart⟩ : ∃ state, AlignState.start (idleEntry 0x30000000) = some state :=
    ⟨_, rfl⟩
  have heval : ((AlignState.start (idleEntry 0x30000000)).bind fun state =>
      (steps alignStep [.key alignEnter 0, .reconcile]).exec (.start (.idle 0x30000000) state)
        (List.replicate 8 [] ++ [[.apply 0]] ++ List.replicate 12 [])).any (fun r =>
          r.2.1.state.accepted && r.1.all fun m => decide (m.1.Fresh m.2)) = true := by
    decide +kernel
  rw [hstart, Option.bind_some, Option.any_eq_true] at heval
  obtain ⟨⟨marks, w, stop⟩, hrun, heval⟩ := heval
  simp only [Bool.and_eq_true, List.all_eq_true, decide_eq_true_eq] at heval
  have hcard : (LiveCard.idle 0x30000000).Coherent := ⟨fun _ => rfl, by simp [LiveCard.idle]⟩
  have hend := align_run hcard (by intro request h; cases h) hstart hrun heval.2
  exact ⟨state, marks, w, stop, hstart, hrun, heval.1, hend.2.1 heval.1⟩

/--
Another writer has changed the framing since the editor was opened. Enter accepts the control of
the entry, for which no request is made, and Escape ends without a request to restore it.
-/
theorem align_stale
    : ∃ state,
        AlignState.start (idleEntry 0x001400a0) = some state
          ∧ (∃ marks w stop,
            (steps alignStep [.key alignEnter 0]).exec (.start (.idle 0x001400a0) state)
                [[.stageHi 1, .commit, .apply 0]] = some (marks, w, stop)
              ∧ w.state.accepted = true
              ∧ ¬∃ raws, w.sinceEnter = some raws
                ∧ vcapControlPack w.state.working.control ∈ raws)
          ∧ ∃ marks w stop,
            (steps alignStep [.key alignEscape 0]).exec (.start (.idle 0x001400a0) state)
                [[.stageHi 1, .commit, .apply 0]] = some (marks, w, stop)
              ∧ w.state.done = true ∧ w.state.accepted = false ∧ w.state.unknown = false
              ∧ ¬∃ raws, w.sinceEscape = some raws ∧ 0x001400a0 ∈ raws := by
  refine ⟨_, rfl, ⟨_, _, _, rfl, rfl, ?_⟩, _, _, _, rfl, rfl, rfl, rfl, ?_⟩
  . rintro ⟨raws, hraws, hmem⟩
    cases hraws
    revert hmem
    decide +kernel
  . rintro ⟨raws, hraws, hmem⟩
    cases hraws
    revert hmem
    decide +kernel

end ZZTop
