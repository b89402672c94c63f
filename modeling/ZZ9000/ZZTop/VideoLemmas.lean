import ZZ9000.ZZTop.VideoAccess

/-!
This module contains the invariant of the live native-video control: what is staged for a domain
that is confirmed, and that Revert still knows where the edits of a domain began.
-/

namespace ZZTop

open Concurrency ZZVcap ZZCfg
open Concurrency.Coroutine
open VideoWorld

/-- What Revert knows about a domain: the anchor is where the first edit began. -/
structure Anchored (touched valid : Bool) (entry : Option α) (anchor : α) (applied : α → Prop)
    : Prop where
  entered : touched = true → entry.isSome = true
  origin : ∀ a, entry = some a → valid = true ∧ anchor = a
  kept : touched = false → valid = true → applied anchor

namespace Anchored

variable {touched valid : Bool} {entry : Option α} {anchor a : α} {applied applied' : α → Prop}

theorem touch (h : Anchored touched valid entry anchor applied)
    (hvalid : entry = none → valid = true) (happlied : ∀ b, applied b → b = a)
    : Anchored true valid (entry.or (some a)) anchor applied' where
  entered := by
    intro _
    cases entry <;> rfl
  origin := by
    intro b hb
    cases hentry : entry with
    | none =>
      rw [hentry] at hb
      simp only [Option.none_or, Option.some.injEq] at hb
      have huntouched : touched = false := by
        cases htouched : touched with
        | true => simpa [hentry] using h.entered htouched
        | false => rfl
      refine ⟨hvalid hentry, ?_⟩
      rw [← hb]
      exact happlied anchor (h.kept huntouched (hvalid hentry))
    | some c =>
      rw [hentry] at hb
      simp only [Option.some_or, Option.some.injEq] at hb
      rw [← hb]
      exact h.origin c hentry
  kept := by simp

theorem untouch (h : Anchored touched valid entry anchor applied)
    (happlied : valid = true → applied' anchor)
    : Anchored false valid entry anchor applied' where
  entered := by simp
  origin := h.origin
  kept := fun _ => happlied

theorem rebase (happlied : applied a)
    : Anchored false true none a applied where
  entered := by simp
  origin := by simp
  kept := fun _ _ => happlied

/-- The first anchor of a domain. -/
theorem set (h : Anchored touched valid entry anchor applied) (hvalid : valid = false)
    (happlied : applied a)
    : Anchored touched true entry a applied where
  entered := h.entered
  origin := by
    intro b hb
    have := (h.origin b hb).1
    rw [hvalid] at this
    contradiction
  kept := fun _ _ => happlied

theorem unset (h : Anchored touched valid entry anchor applied) (hvalid : valid = false)
    : Anchored touched false entry a applied where
  entered := h.entered
  origin := by
    intro b hb
    have := (h.origin b hb).1
    rw [hvalid] at this
    contradiction
  kept := by simp

theorem mono (h : Anchored touched valid entry anchor applied)
    (happlied : ∀ b, applied b → applied' b)
    : Anchored touched valid entry anchor applied' where
  entered := h.entered
  origin := h.origin
  kept := fun htouched hvalid => happlied anchor (h.kept htouched hvalid)

end Anchored

/-- What is requested but not staged yet. -/
structure Undecided where
  crop : Option VcapControl
  phase : Option Int
  window : Option (UInt16 × UInt16)

def Undecided.nothing : Undecided where
  crop := none
  phase := none
  window := none

def StagedCrop (w : VideoWorld) : Prop :=
  w.live.cropTouched = true → w.live.cropConfirmed = true → w.live.cropTargetValid = true →
    ∃ control : VcapControl, control.valid = true ∧ w.live.cropTarget = vcapControlPack control
      ∧ cropStagedAs control w.cfg.edit = true

def StagedPhase (domain : VcapPhaseDomain) (w : VideoWorld) : Prop :=
  w.live.phaseTouched = true → w.live.phaseConfirmed = true →
    stagedPhase domain w.cfg.edit = w.live.phaseTarget

def StagedWindow (w : VideoWorld) : Prop :=
  w.live.geometryTouched = true → w.live.geometryConfirmed = true →
    stagedWindow w.cfg.edit = (w.live.geometryWidth, w.live.geometryHeight)

def anchorSize (live : VideoLiveState) : UInt16 × UInt16 :=
  (live.geometryAnchor.requestedWidth, live.geometryAnchor.requestedHeight)

def VideoWorld.WindowAt (size : UInt16 × UInt16) (w : VideoWorld) : Prop :=
  w.card.geometry.state.pending = false ∧ w.card.geometry.window = size

/-- A window that is confirmed is still the one of the card, unless Revert has begun to leave it. -/
def WindowDone (w : VideoWorld) : Prop :=
  w.live.geometryTouched = true → w.live.geometryConfirmed = true →
    w.card.geometry.state.Done w.live.geometryWidth w.live.geometryHeight
      ∨ (w.live.geometryAnchorValid = true
        ∧ anchorSize w.live ≠ (w.live.geometryWidth, w.live.geometryHeight)
        ∧ w.card.geometry.state.requests w.live.geometryWidth w.live.geometryHeight = false)

/-- The invariant of a run on a card with such a phase engine. -/
structure Sound (domain : VcapPhaseDomain) (u : Undecided) (w : VideoWorld) : Prop where
  coherent : w.card.geometry.Coherent
  engine : w.card.phase.domain = domain
  agrees : w.live.domain = domain
  supported : w.live.supported = false → w.live.cropTouched = false
  crop : Anchored w.live.cropTouched w.live.cropAnchorValid w.history.cropEntry
    w.live.cropAnchor.raw (fun raw => CropAt raw w)
  phase : w.history.unanchored = false → Anchored w.live.phaseTouched w.live.phaseAnchorValid
    w.history.phaseEntry w.live.phaseAnchor (fun phase => PhaseAt phase w)
  window : w.history.unanchored = false → Anchored w.live.geometryTouched
    w.live.geometryAnchorValid w.history.windowEntry (anchorSize w.live) (fun size => WindowAt size w)
  done : WindowDone w
  stagedCrop :
    match u.crop with
    | none => w.history.strayed = false → StagedCrop w
    | some control => w.live.cropTarget = vcapControlPack control
  stagedPhase :
    match u.phase with
    | none => w.history.strayed = false → StagedPhase domain w
    | some phase => w.live.phaseTarget = phase
  stagedWindow :
    match u.window with
    | none => w.history.strayed = false → StagedWindow w
    | some size => (w.live.geometryWidth, w.live.geometryHeight) = size

variable {domain : VcapPhaseDomain} {u : Undecided}

namespace Sound

/-- A crop that is touched may become any crop. -/
theorem withCrop {w : VideoWorld} {crop : LiveCard} (h : Sound domain u w)
    (htouched : w.live.cropTouched = true)
    : Sound domain u { w with card := { w.card with crop } } :=
  { h with
    crop := { h.crop with
      kept := by
        intro huntouched
        rw [htouched] at huntouched
        contradiction } }

theorem withPhase {w : VideoWorld} {phase : PhaseCard} (h : Sound domain u w)
    (htouched : w.live.phaseTouched = true) (hsame : phase.capability = w.card.phase.capability)
    : Sound domain u { w with card := { w.card with phase } } :=
  { h with
    engine := by
      rw [← h.engine]
      unfold PhaseCard.domain
      dsimp only
      rw [hsame]
    phase := fun hanchored => { h.phase hanchored with
      kept := by
        intro huntouched
        rw [htouched] at huntouched
        contradiction } }

/-- A window that is touched may become any window, if what is confirmed is left only by a revert. -/
theorem withWindow {w : VideoWorld} {geometry : GeometryCard} {width height : UInt16}
    (h : Sound domain u w) (htouched : w.live.geometryTouched = true)
    (hrequested : Requested width height w.card.geometry geometry)
    (hleft : w.live.geometryConfirmed = true → w.live.geometryAnchorValid = true
      ∧ anchorSize w.live = (width, height)
      ∧ (width, height) ≠ (w.live.geometryWidth, w.live.geometryHeight))
    : Sound domain u { w with card := { w.card with geometry } } :=
  { h with
    coherent := hrequested.coherent h.coherent
    window := fun hanchored => { h.window hanchored with
      kept := by
        intro huntouched
        rw [htouched] at huntouched
        contradiction }
    done := by
      intro _ hconfirmed
      obtain ⟨hvalid, hsize, hne⟩ := hleft hconfirmed
      cases hrequested.state with
      | inl hsame =>
        cases h.done htouched hconfirmed with
        | inl hdone =>
          left
          show VcapGeometryState.Done _ _ geometry.state
          rw [hsame]
          exact hdone
        | inr hstill =>
          right
          refine ⟨hstill.1, hstill.2.1, ?_⟩
          show geometry.state.requests _ _ = false
          rw [hsame]
          exact hstill.2.2
      | inr hrequests =>
        right
        refine ⟨hvalid, by rw [hsize]; exact hne, ?_⟩
        show geometry.state.requests _ _ = false
        simp only [VcapGeometryState.requests, Bool.and_eq_true, beq_iff_eq] at hrequests
        unfold VcapGeometryState.requests
        rw [hrequests.1, hrequests.2]
        by_contra hboth
        simp only [Bool.not_eq_false, Bool.and_eq_true, beq_iff_eq] at hboth
        exact hne (by rw [hboth.1, hboth.2]) }

end Sound

namespace VideoWorld

theorem stable_windowAt (size : UInt16 × UInt16)
    : Stable (WindowAt size) := by
  intro w w' h hw
  have := h.card.geometry hw.1
  exact ⟨by rw [this.1]; exact hw.1, this.2.trans hw.2⟩

theorem stable_sound
    : Stable (Sound domain u) := by
  intro w w' hf h
  obtain ⟨card, live, cfg, cancel, message, history⟩ := w'
  obtain rfl : live = w.live := hf.live
  obtain rfl : cfg = w.cfg := hf.cfg
  obtain rfl : history = w.history := hf.history
  exact { h with
    coherent := hf.card.coherent h.coherent
    engine := by
      have := h.engine
      unfold PhaseCard.domain at this ⊢
      rw [← this, ← hf.card.capability]
    crop := h.crop.mono fun raw hraw => stable_cropAt raw w _ hf hraw
    phase := fun hanchored => (h.phase hanchored).mono fun phase hphase =>
      stable_phaseAt phase w _ hf hphase
    window := fun hanchored => (h.window hanchored).mono fun size hsize =>
      stable_windowAt size w _ hf hsize
    done := by
      intro htouched hconfirmed
      cases h.done htouched hconfirmed with
      | inl hdone =>
        left
        have hidle := VcapGeometryState.pending_of_settled hdone.settled
        rw [(hf.card.geometry hidle).1]
        exact hdone
      | inr hleft =>
        right
        refine ⟨hleft.1, hleft.2.1, ?_⟩
        have hrequests := hleft.2.2
        unfold VcapGeometryState.requests at hrequests ⊢
        rw [hf.card.requestedWidth, hf.card.requestedHeight]
        exact hrequests }

/-- What a refresh leaves alone of the state. -/
def edits (live : VideoLiveState) : VideoLiveState :=
  { live with
    domain := .none
    current := ⟨0, 0, 0, 0⟩
    cropAnchor := ⟨0, 0, 0, 0⟩
    cropAnchorValid := false
    phaseAnchor := 0
    phaseAnchorValid := false
    geometryAnchor := ⟨0, 0, 0, 0, 0, 0, 0⟩
    geometryAnchorValid := false }

def RefreshFree (P : VideoWorld → Prop) : Prop :=
  ∀ w live, edits live = edits w.live → P w → P { w with live }

section Refresh

variable {P : VideoWorld → Prop} (hP : Stable P)

include hP

theorem triple_readDomain_of {J : VideoWorld → Prop}
    (hJ : ∀ w, P w → J { w with live := { w.live with domain := w.card.phase.domain } })
    : Triple videoContract P readDomain (fun _ => J) := by
  intro w₀ w _ hw
  unfold readDomain onLive
  rw [wp_bind]
  apply wp_read32
  intro w₁ w₂ h₁ h₂ _
  have hdomain : vcapPhaseDomain (vcapWord (w₁.card.register captureCapReg)
      (w₂.card.register (captureCapReg + 2))) = w₂.card.phase.domain := by
    rw [VideoCard.register_captureCap, VideoCard.register_captureCap_low, h₂.card.capability,
      vcapWord_halves]
    unfold PhaseCard.domain
    rw [h₂.card.capability]
  rw [hdomain, wp_modify]
  exact ⟨trivial, hJ w₂ (hP w w₂ (h₁.trans h₂) hw)⟩

theorem triple_anchorGeometry
    (hfree : ∀ w state valid, P w → P { w with live := { w.live with
      geometryAnchor := state, geometryAnchorValid := valid } })
    : Triple videoContract (fun w => Sound domain u w ∧ P w) anchorGeometry
        (fun _ w => Sound domain u w ∧ P w) := by
  have hI : Stable (fun w => Sound domain u w ∧ P w) := stable_and stable_sound hP
  apply triple_bind (J := fun s w => s = w ∧ Sound domain u w ∧ P w)
  . apply triple_read
    intro w hw
    exact ⟨rfl, hw⟩
  . intro s
    apply triple_ite
    . intro _
      apply triple_pure
      intro w hw
      exact hw.2
    . intro hvalid
      have hfirst : Stable (fun w => (Sound domain u w ∧ P w)
          ∧ w.live.geometryAnchorValid = false) := by
        intro w w' h hw
        exact ⟨hI w w' h hw.1, by rw [h.live]; exact hw.2⟩
      apply triple_of_pre (K := fun w => (Sound domain u w ∧ P w)
        ∧ w.live.geometryAnchorValid = false)
      . intro w hw
        rw [← hw.1]
        refine ⟨?_, by simpa using hvalid⟩
        rw [hw.1]
        exact hw.2
      . apply triple_bind (triple_geometryRead hfirst)
        intro r
        cases r with
        | error result =>
          apply triple_pure
          intro w hw
          exact hw.1.1
        | ok state =>
          apply triple_modify_solo
          intro w hw
          obtain ⟨⟨⟨hsound, hp⟩, hvalid'⟩, hwindow⟩ := hw
          refine ⟨?_, hfree w _ _ hp⟩
          exact { hsound with
            window := by
              intro hanchored
              cases hsettled : state.settled with
              | true =>
                apply (hsound.window hanchored).set hvalid'
                have hidle := VcapGeometryState.pending_of_settled hsettled
                obtain ⟨_, heq⟩ := hwindow hidle
                rw [← heq] at hsettled hidle
                refine ⟨hidle, ?_⟩
                rw [hsound.coherent hsettled, heq]
                rfl
              | false => exact (hsound.window hanchored).unset hvalid'
            done := by
              intro htouched hconfirmed
              cases hsound.done htouched hconfirmed with
              | inl hdone => exact Or.inl hdone
              | inr hleft => simp [hvalid'] at hleft }

variable (hfree : RefreshFree P)

include hfree

theorem triple_readDomain
    : Triple videoContract (fun w => Sound domain u w ∧ P w) readDomain
        (fun _ w => Sound domain u w ∧ P w) := by
  apply triple_readDomain_of (stable_and stable_sound hP)
  intro w hw
  exact ⟨{ hw.1 with agrees := hw.1.engine }, hfree w _ rfl hw.2⟩

theorem triple_anchorPhase
    : Triple videoContract (fun w => Sound domain u w ∧ P w) anchorPhase
        (fun _ w => Sound domain u w ∧ P w) := by
  have hI : Stable (fun w => Sound domain u w ∧ P w) := stable_and stable_sound hP
  apply triple_bind (J := fun s w => s = w ∧ Sound domain u w ∧ P w)
  . apply triple_read
    intro w hw
    exact ⟨rfl, hw⟩
  . intro s
    apply triple_ite
    . intro _
      apply triple_pure
      intro w hw
      exact hw.2
    . intro hvalid
      have hfirst : Stable (fun w => (Sound domain u w ∧ P w)
          ∧ w.live.phaseAnchorValid = false) := by
        intro w w' h hw
        exact ⟨hI w w' h hw.1, by rw [h.live]; exact hw.2⟩
      apply triple_of_pre (K := fun w => (Sound domain u w ∧ P w)
        ∧ w.live.phaseAnchorValid = false)
      . intro w hw
        rw [← hw.1]
        refine ⟨?_, by simpa using hvalid⟩
        rw [hw.1]
        exact hw.2
      . apply triple_bind (triple_phaseRead hfirst)
        intro r
        cases r with
        | error result =>
          apply triple_pure
          intro w hw
          exact hw.1.1
        | ok phase =>
          apply triple_of_fact (p := phase.domain = domain)
          . intro w hw
            rw [hw.2.1]
            exact hw.1.1.1.engine
          . intro hdomain
            apply triple_bind
            . apply triple_of_pre (K := fun w => (Sound domain u w ∧ P w)
                ∧ w.live.phaseAnchorValid = false) fun w hw => hw.1
              exact VcapIo.triple_phaseCheck (acknowledges_of_stable hfirst) phase.applied
            . intro result
              apply triple_ite
              . intro hok
                apply triple_modify_solo
                intro w hw
                obtain ⟨hphase, ⟨hsound, hp⟩, hvalid'⟩ := hw
                refine ⟨?_, hfree w _ rfl hp⟩
                exact { hsound with
                  agrees := hdomain
                  phase := fun hanchored =>
                    (hsound.phase hanchored).set hvalid' (hphase hok).2 }
              . intro _
                apply triple_pure
                intro w hw
                exact hw.2.1

theorem triple_refreshLive
    : Triple videoContract (fun w => Sound domain u w ∧ P w) refreshLive
        (fun r w => (Sound domain u w ∧ P w) ∧ (r = true →
          w.live.supported = true ∧ w.live.cropAnchorValid = true
            ∧ CropAt w.live.current.raw w)) := by
  have hI : Stable (fun w => Sound domain u w ∧ P w) := stable_and stable_sound hP
  apply triple_bind (triple_readDomain hP hfree)
  intro _
  apply triple_bind (triple_anchorPhase hP hfree)
  intro _
  apply triple_bind (J := fun s w => s = w ∧ Sound domain u w ∧ P w)
  . apply triple_read
    intro w hw
    exact ⟨rfl, hw⟩
  . intro s
    apply triple_ite
    . intro hsupported
      have hfirst : Stable (fun w => (Sound domain u w ∧ P w) ∧ w.live.supported = true) := by
        intro w w' h hw
        exact ⟨hI w w' h hw.1, by rw [h.live]; exact hw.2⟩
      apply triple_of_pre (K := fun w => (Sound domain u w ∧ P w) ∧ w.live.supported = true)
      . intro w hw
        refine ⟨hw.2, ?_⟩
        rw [← hw.1]
        exact hsupported
      . apply triple_bind (triple_captureSnapshot hfirst)
        intro r
        cases r with
        | none =>
          apply triple_pure
          intro w hw
          exact ⟨hw.1.1, by simp⟩
        | some current =>
          let taken (w : VideoWorld) : Prop := P w ∧ w.live.supported = true
            ∧ w.live.cropAnchorValid = true ∧ CropAt w.live.current.raw w
          have htaken : Stable taken := by
            intro w w' h hw
            refine ⟨hP w w' h hw.1, ?_⟩
            rw [h.live]
            exact ⟨hw.2.1, hw.2.2.1, stable_cropAt _ w w' h hw.2.2.2⟩
          apply triple_bind (J := fun _ w => Sound domain u w ∧ taken w)
          . apply triple_modify_solo
            intro w hw
            obtain ⟨⟨⟨hsound, hp⟩, hsupported⟩, hcrop⟩ := hw
            have hcurrent := hcrop current rfl
            unfold takeSnapshot
            split
            . next hvalid =>
              exact ⟨{ hsound with }, hfree w _ rfl hp, hsupported, hvalid, hcurrent⟩
            . next hvalid =>
              refine ⟨{ hsound with crop := ?_ }, hfree w _ rfl hp, hsupported, rfl, hcurrent⟩
              exact hsound.crop.set (by simpa using hvalid) hcurrent
          . intro _
            apply triple_bind (J := fun _ w => Sound domain u w ∧ taken w)
            . apply triple_anchorGeometry htaken
              intro w state valid hw
              exact ⟨hfree w _ rfl hw.1, hw.2⟩
            . intro _
              apply triple_pure
              intro w hw
              exact ⟨⟨hw.1, hw.2.1⟩, fun _ => hw.2.2⟩
    . intro _
      apply triple_pure
      intro w hw
      exact ⟨hw.2, by simp⟩

end Refresh

/-- A crop that has been asked for but is not confirmed. -/
def CropAsked (domain : VcapPhaseDomain) (u : Undecided) (w : VideoWorld) : Prop :=
  Sound domain u w ∧ w.live.cropTouched = true ∧ w.live.cropConfirmed = false

def PhaseAsked (domain : VcapPhaseDomain) (u : Undecided) (w : VideoWorld) : Prop :=
  Sound domain u w ∧ w.live.phaseTouched = true ∧ w.live.phaseConfirmed = false

def WindowAsked (domain : VcapPhaseDomain) (u : Undecided) (w : VideoWorld) : Prop :=
  Sound domain u w ∧ w.live.geometryTouched = true ∧ w.live.geometryConfirmed = false

theorem stable_of_live {P : VideoWorld → Prop} {Q : VideoLiveState → Prop} (hP : Stable P)
    : Stable (fun w => P w ∧ Q w.live) := by
  intro w w' h hw
  exact ⟨hP w w' h hw.1, by rw [h.live]; exact hw.2⟩

theorem stable_cropAsked
    : Stable (CropAsked domain u) :=
  stable_of_live (Q := fun live => live.cropTouched = true ∧ live.cropConfirmed = false)
    stable_sound

theorem stable_phaseAsked
    : Stable (PhaseAsked domain u) :=
  stable_of_live (Q := fun live => live.phaseTouched = true ∧ live.phaseConfirmed = false)
    stable_sound

theorem stable_windowAsked
    : Stable (WindowAsked domain u) :=
  stable_of_live (Q := fun live => live.geometryTouched = true ∧ live.geometryConfirmed = false)
    stable_sound

section Requests

theorem triple_touchCrop {control : VcapControl}
    : Triple videoContract (fun w => Sound domain u w ∧ w.live.supported = true
        ∧ w.live.cropAnchorValid = true) (touchCrop (vcapControlPack control))
        (fun _ => CropAsked domain { u with crop := some control }) := by
  apply triple_modify_solo
  intro w hw
  obtain ⟨hsound, hsupported, hvalid⟩ := hw
  refine ⟨{ hsound with
    supported := ?_
    crop := hsound.crop.touch (fun _ => hvalid) fun raw hraw => hraw.2.symm
    stagedCrop := rfl }, rfl, rfl⟩
  intro hnot
  rw [hsupported] at hnot
  contradiction

/-- What is left of a request for a crop. -/
def CropEnds (domain : VcapPhaseDomain) (u : Undecided) (control : VcapControl) (r : Bool)
    (w : VideoWorld) : Prop :=
  Sound domain (if r then { u with crop := some control } else u) w

theorem triple_requestCrop {control : VcapControl} (cancelled failed : String)
    (hcrop : u.crop = none)
    : Triple videoContract (fun w => Sound domain u w ∧ w.live.supported = true
        ∧ w.live.cropAnchorValid = true) (requestCrop control cancelled failed)
        (CropEnds domain u control) := by
  have hasked : Stable (CropAsked domain { u with crop := some control }) := stable_cropAsked
  have hfree : CropFree (CropAsked domain { u with crop := some control }) := by
    intro w crop hw
    exact ⟨hw.1.withCrop hw.2.1, hw.2⟩
  apply triple_bind triple_touchCrop
  intro _
  apply triple_bind (triple_feWaitBegin hasked)
  intro _
  apply triple_bind (triple_applyRaw hasked hfree _ true)
  intro r
  cases r with
  | none =>
    apply triple_bind (J := fun _ => CropAsked domain { u with crop := some control })
    . apply triple_read
      intro w hw
      exact hw.1
    . intro s
      apply triple_refuse hasked
      intro w hw
      obtain ⟨hsound, _, hconfirmed⟩ := hw
      show Sound domain u w
      exact { hsound with
        stagedCrop := by
          rw [hcrop]
          intro _ _ hconfirmed'
          rw [hconfirmed] at hconfirmed'
          contradiction }
  | some applied =>
    apply triple_bind (J := fun _ => Sound domain { u with crop := some control })
    . apply triple_modify_solo
      intro w hw
      exact { hw.1.1 with }
    . intro _
      apply triple_pure
      intro w hw
      exact hw

theorem triple_touchPhase (phase : Int)
    : Triple videoContract (Sound domain u) (touchPhase phase)
        (fun _ => PhaseAsked domain { u with phase := some phase }) := by
  apply triple_modify_solo
  intro w hw
  refine ⟨{ hw with
    phase := ?_
    window := ?_
    stagedPhase := rfl }, rfl, rfl⟩
  . intro hanchored
    simp only [enterPhase, Bool.or_eq_false_iff, Bool.and_eq_false_imp] at hanchored
    apply (hw.phase hanchored.1).touch
    . intro hentry
      simpa [hentry] using hanchored.2
    . intro b hb
      exact hb.2.symm
  . intro hanchored
    simp only [enterPhase, Bool.or_eq_false_iff] at hanchored
    exact hw.window hanchored.1

/-- What is left of a request for a phase. -/
def PhaseEnds (domain : VcapPhaseDomain) (u : Undecided) (phase : Int) (r : Bool)
    (w : VideoWorld) : Prop :=
  Sound domain (if r then { u with phase := some phase } else u) w

theorem triple_requestPhase_of {P : VideoWorld → Prop} {phase : Int}
    (htouch : Triple videoContract P (touchPhase phase)
      (fun _ => PhaseAsked domain { u with phase := some phase })) (hphase : u.phase = none)
    : Triple videoContract P (requestPhase phase) (PhaseEnds domain u phase) := by
  have hasked : Stable (PhaseAsked domain { u with phase := some phase }) := stable_phaseAsked
  have hfree : PhaseFree (PhaseAsked domain { u with phase := some phase }) := by
    intro w card hsame hw
    exact ⟨hw.1.withPhase hw.2.1 hsame, hw.2⟩
  apply triple_bind htouch
  intro _
  apply triple_bind (triple_phaseApply hasked hfree phase false)
  intro r
  cases r with
  | false =>
    apply triple_pure
    intro w hw
    obtain ⟨hsound, _, hconfirmed⟩ := hw.1
    show Sound domain u w
    exact { hsound with
      stagedPhase := by
        rw [hphase]
        intro _ _ hconfirmed'
        rw [hconfirmed] at hconfirmed'
        contradiction }
  | true =>
    apply triple_bind (J := fun _ => Sound domain { u with phase := some phase })
    . apply triple_modify_solo
      intro w hw
      exact { hw.1.1 with }
    . intro _
      apply triple_pure
      intro w hw
      exact hw

theorem triple_requestPhase (phase : Int) (hphase : u.phase = none)
    : Triple videoContract (Sound domain u) (requestPhase phase) (PhaseEnds domain u phase) :=
  triple_requestPhase_of (triple_touchPhase phase) hphase

theorem triple_touchGeometry (width height : UInt16)
    : Triple videoContract (Sound domain u) (touchGeometry width height)
        (fun _ => WindowAsked domain { u with window := some (width, height) }) := by
  apply triple_modify_solo
  intro w hw
  refine ⟨{ hw with
    phase := ?_
    window := ?_
    done := ?_
    stagedWindow := rfl }, rfl, rfl⟩
  . intro hanchored
    simp only [enterWindow, Bool.or_eq_false_iff] at hanchored
    exact hw.phase hanchored.1
  . intro hanchored
    simp only [enterWindow, Bool.or_eq_false_iff, Bool.and_eq_false_imp] at hanchored
    apply (hw.window hanchored.1).touch
    . intro hentry
      simpa [hentry] using hanchored.2
    . intro b hb
      exact hb.2.symm
  . intro _ hconfirmed
    contradiction

/-- What is left of a request for a window. -/
def WindowEnds (domain : VcapPhaseDomain) (u : Undecided) (size : UInt16 × UInt16) (r : Bool)
    (w : VideoWorld) : Prop :=
  Sound domain (if r then { u with window := some size } else u) w

theorem triple_requestGeometry (width height : UInt16) (hwindow : u.window = none)
    : Triple videoContract (Sound domain u) (requestGeometry width height)
        (WindowEnds domain u (width, height)) := by
  have hasked : Stable (WindowAsked domain { u with window := some (width, height) }) :=
    stable_windowAsked
  have hfree : WindowFree width height
      (WindowAsked domain { u with window := some (width, height) }) := by
    intro w card hrequested hw
    refine ⟨hw.1.withWindow hw.2.1 hrequested ?_, hw.2⟩
    intro hconfirmed
    rw [hw.2.2] at hconfirmed
    contradiction
  apply triple_bind (triple_touchGeometry width height)
  intro _
  apply triple_bind (triple_geometryApply hasked hfree false)
  intro r
  cases r with
  | false =>
    apply triple_pure
    intro w hw
    obtain ⟨hsound, _, hconfirmed⟩ := hw.1
    show Sound domain u w
    exact { hsound with
      stagedWindow := by
        rw [hwindow]
        intro _ _ hconfirmed'
        rw [hconfirmed] at hconfirmed'
        contradiction }
  | true =>
    apply triple_bind (J := fun _ => Sound domain { u with window := some (width, height) })
    . apply triple_modify_solo
      intro w hw
      obtain ⟨⟨hsound, _⟩, hdone⟩ := hw
      obtain ⟨state, hdone, _, hstate⟩ := hdone rfl
      have hsize : (w.live.geometryWidth, w.live.geometryHeight) = (width, height) :=
        hsound.stagedWindow
      simp only [Prod.mk.injEq] at hsize
      exact { hsound with
        done := by
          intro _ _
          left
          show VcapGeometryState.Done w.live.geometryWidth w.live.geometryHeight _
          rw [hsize.1, hsize.2, hstate]
          exact hdone }
    . intro _
      apply triple_pure
      intro w hw
      exact hw

end Requests

end VideoWorld

end ZZTop
