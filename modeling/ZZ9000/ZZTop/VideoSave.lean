import ZZ9000.ZZTop.VideoEdits

/-!
This module contains what Save and Revert say about the live native video, over all runs since it
was initialized.
-/

namespace ZZTop

open Concurrency ZZVcap ZZCfg
open Concurrency.Coroutine
open VideoWorld

variable {domain : VcapPhaseDomain}

/-- The control that is staged. -/
def stagedControl (path : VcapPath) (v : ZzcfgValues) : VcapControl where
  sample := path.sample
  fullWidth := path.fullWidth
  cropH := if v.videocapCropHPresent then v.videocapCropH else 0
  cropV := if v.videocapCropVPresent then v.videocapCropV else 0
  cropHPresent := presence v.videocapCropHPresent
  cropVPresent := presence v.videocapCropVPresent

theorem presence_of_le {present : UInt16} (h : present ≤ 1)
    : presence (present != 0) = present := by
  have hcases : present = 0 ∨ present = 1 := by
    have hle := UInt16.le_iff_toNat_le.mp h
    simp only [← UInt16.toNat_inj, UInt16.reduceToNat] at hle ⊢
    omega
  cases hcases with
  | inl heq => rw [heq]; rfl
  | inr heq => rw [heq]; rfl

/-- A control packs to the same word whatever the values of its absent fields are. -/
theorem vcapControlPack_absent {control control' : VcapControl} (hvalid : control.valid = true)
    (hvalid' : control'.valid = true) (hsample : control'.sample = control.sample)
    (hfull : control'.fullWidth = control.fullWidth)
    (hHPresent : control'.cropHPresent = control.cropHPresent)
    (hVPresent : control'.cropVPresent = control.cropVPresent)
    (hH : control.cropHPresent ≠ 0 → control'.cropH = control.cropH)
    (hV : control.cropVPresent ≠ 0 → control'.cropV = control.cropV)
    : vcapControlPack control' = vcapControlPack control := by
  unfold vcapControlPack
  rw [if_pos hvalid, if_pos hvalid', hsample, hfull, hHPresent, hVPresent]
  have hcropH : (if control.cropHPresent ≠ 0 then control'.cropH.toUInt32 else vcapCropHCompat)
      = if control.cropHPresent ≠ 0 then control.cropH.toUInt32 else vcapCropHCompat := by
    split
    . next h => rw [hH h]
    . rfl
  have hcropV : (if control.cropVPresent ≠ 0 then control'.cropV.toUInt32 else vcapCropVCompat)
      = if control.cropVPresent ≠ 0 then control.cropV.toUInt32 else vcapCropVCompat := by
    split
    . next h => rw [hV h]
    . rfl
  rw [hcropH, hcropV]

/-- One direction of a crop that is the staged one. -/
theorem stagedDirection {value present staged : UInt16} {shown : Bool}
    (hpresent : (present != 0) = shown) (hvalue : shown = false ∨ value = staged)
    (hle : present ≤ 1) (hmax : value ≤ vcapCropMax)
    : presence shown = present ∧ (present ≠ 0 → (if shown then staged else 0) = value)
        ∧ (if shown then staged else 0) ≤ vcapCropMax := by
  refine ⟨?_, ?_, ?_⟩
  . rw [← hpresent]
    exact presence_of_le hle
  . intro hne
    have hshown : shown = true := by
      rw [← hpresent]
      simpa using hne
    simp only [hshown, Bool.true_eq_false, false_or] at hvalue
    rw [if_pos hshown, hvalue]
  . split
    . next hshown =>
      simp only [hshown, Bool.true_eq_false, false_or] at hvalue
      rw [← hvalue]
      exact hmax
    . decide

theorem vcapControlPack_stagedControl {control : VcapControl} {path : VcapPath} {v : ZzcfgValues}
    (hvalid : control.valid = true) (hpath : path = controlPath control)
    (hstaged : cropStagedAs control v = true)
    : vcapControlPack (stagedControl path v) = vcapControlPack control := by
  have hfields := hvalid
  simp only [VcapControl.valid, Bool.and_eq_true, decide_eq_true_eq] at hfields
  simp only [cropStagedAs, Bool.and_eq_true, Bool.or_eq_true, Bool.not_eq_true', beq_iff_eq]
    at hstaged
  obtain ⟨⟨⟨⟨⟨hsample, hfull⟩, hmaxH⟩, hmaxV⟩, hleH⟩, hleV⟩ := hfields
  obtain ⟨⟨⟨hpresentH, hcropH⟩, hpresentV⟩, hcropV⟩ := hstaged
  obtain ⟨hsameH, hequalH, hboundH⟩ := stagedDirection hpresentH hcropH hleH hmaxH
  obtain ⟨hsameV, hequalV, hboundV⟩ := stagedDirection hpresentV hcropV hleV hmaxV
  rw [hpath]
  have hvalid' : (stagedControl (controlPath control) v).valid = true := by
    simp only [VcapControl.valid, Bool.and_eq_true, decide_eq_true_eq]
    refine ⟨⟨⟨⟨⟨hsample, hfull⟩, hboundH⟩, hboundV⟩, ?_⟩, ?_⟩
    . rw [← hsameH] at hleH
      exact hleH
    . rw [← hsameV] at hleV
      exact hleV
  exact vcapControlPack_absent hvalid hvalid' rfl rfl hsameH hsameV hequalH hequalV

section Init

/-- The state after `video_init` has forgotten everything. -/
def Blank (domain : VcapPhaseDomain) (w : VideoWorld) : Prop :=
  w.card.geometry.Coherent ∧ w.card.phase.domain = domain ∧ w.history = .empty
    ∧ ∃ supported, w.live = { VideoLiveState.zero with supported }

theorem stable_blank
    : Stable (Blank domain) := by
  intro w w' h hw
  refine ⟨h.card.coherent hw.1, ?_, by rw [h.history]; exact hw.2.2.1,
    by rw [h.live]; exact hw.2.2.2⟩
  rw [← hw.2.1]
  unfold PhaseCard.domain
  rw [h.card.capability]

theorem sound_of_blank {w : VideoWorld} (h : Blank domain w)
    : Sound domain .nothing { w with live := { w.live with domain := w.card.phase.domain } } := by
  obtain ⟨card, live, cfg, cancel, message, history⟩ := w
  obtain ⟨hcoherent, hengine, hhistory, supported, hlive⟩ := h
  simp only at hhistory hlive
  subst hhistory hlive
  exact {
    coherent := hcoherent
    engine := hengine
    agrees := hengine
    supported := fun _ => rfl
    crop := ⟨by simp [VideoLiveState.zero], by simp [VideoHistory.empty],
      by simp [VideoLiveState.zero]⟩
    phase := fun _ => ⟨by simp [VideoLiveState.zero], by simp [VideoHistory.empty],
      by simp [VideoLiveState.zero]⟩
    window := fun _ => ⟨by simp [VideoLiveState.zero], by simp [VideoHistory.empty],
      by simp [VideoLiveState.zero]⟩
    done := by
      intro htouched
      contradiction
    stagedCrop := by
      intro _ htouched
      contradiction
    stagedPhase := by
      intro _ htouched
      contradiction
    stagedWindow := by
      intro _ htouched
      contradiction }

/-- From here `video_init` makes the invariant true. -/
def Powered (domain : VcapPhaseDomain) (w : VideoWorld) : Prop :=
  w.card.geometry.Coherent ∧ w.card.phase.domain = domain

theorem triple_videoInit
    : Triple videoContract (Powered domain) videoInit (fun _ => Sound domain .nothing) := by
  apply triple_bind (J := fun _ => Blank domain)
  . apply triple_modify_solo
    intro w hw
    exact ⟨hw.1, hw.2, rfl, false, rfl⟩
  . intro _
    apply triple_bind (VcapIo.triple_read32 (keeps_of_stable stable_blank) _)
    intro capability
    apply triple_bind (J := fun _ => Blank domain)
    . apply triple_modify_solo
      intro w hw
      obtain ⟨hcoherent, hengine, hhistory, supported, hlive⟩ := hw
      refine ⟨hcoherent, hengine, hhistory,
        vcapLiveSupported w.card.fwVersion w.card.fwCaps capability, ?_⟩
      dsimp only
      rw [hlive]
    . intro _
      apply triple_bind (triple_readDomain_of stable_blank fun w hw => sound_of_blank hw)
      intro _
      apply triple_bind triple_refresh
      intro _
      apply triple_pure
      intro w hw
      exact hw.1

end Init

section SaveCheck

def CropSaves (w : VideoWorld) : Prop :=
  w.history.strayed = false → w.live.cropTouched = true →
    CropAt (vcapControlPack (stagedControl w.stagedPath w.cfg.edit)) w

def PhaseSaves (w : VideoWorld) : Prop :=
  w.history.strayed = false → w.live.phaseTouched = true →
    PhaseAt (stagedPhase w.live.domain w.cfg.edit) w

def WindowSaves (w : VideoWorld) : Prop :=
  w.history.strayed = false → w.live.geometryTouched = true →
    WindowAt (stagedWindow w.cfg.edit) w

theorem stable_cropSaves
    : Stable CropSaves := by
  intro w w' h hw hstrayed htouched
  rw [h.history] at hstrayed
  rw [h.live] at htouched
  have hcrop := stable_cropAt _ w w' h (hw hstrayed htouched)
  unfold stagedPath at hcrop ⊢
  rw [h.cfg]
  exact hcrop

theorem stable_phaseSaves
    : Stable PhaseSaves := by
  intro w w' h hw hstrayed htouched
  rw [h.history] at hstrayed
  rw [h.live] at htouched ⊢
  rw [h.cfg]
  exact stable_phaseAt _ w w' h (hw hstrayed htouched)

/-- What a part of the check says. -/
def Checked (domain : VcapPhaseDomain) (P : VideoWorld → Prop) (Q : VideoWorld → Prop) (r : Bool)
    (w : VideoWorld) : Prop :=
  (Sound domain .nothing w ∧ P w) ∧ (r = true → Q w)

theorem triple_refuse_check {P Q : VideoWorld → Prop} (hP : Stable P) (text : String)
    : Triple videoContract (fun w => Sound domain .nothing w ∧ P w) (refuse text)
        (Checked domain P Q) := by
  apply triple_refuse (stable_and stable_sound hP)
  intro w hw
  exact ⟨hw, by simp⟩

/-- A refresh has found a crop, and the edits are those of `s`. -/
def LiveAgain (s w : VideoWorld) : Prop :=
  edits s.live = edits w.live ∧ CropAt w.live.current.raw w

theorem cropSaves_of_live {s w : VideoWorld} {control : VcapControl}
    (h : Sound domain .nothing w) (hlive : LiveAgain s w)
    (hconfirmed : s.live.cropConfirmed = true) (hvalid : s.live.cropTargetValid = true)
    (htarget : w.live.current.raw = w.live.cropTarget)
    (hcontrol : vcapControlUnpack w.live.current.raw = some control)
    (hpath : w.stagedPath = controlPath control)
    : CropSaves w := by
  intro hstrayed htouched
  have hsame := hlive.1
  simp only [edits, VideoLiveState.mk.injEq] at hsame
  have hconfirmed' : w.live.cropConfirmed = true := by
    rw [← hconfirmed]
    exact hsame.2.2.1.symm
  have hvalid' : w.live.cropTargetValid = true := by
    rw [← hvalid]
    exact hsame.2.2.2.2.1.symm
  obtain ⟨asked, hasked, hpack, hstaged⟩ :=
    h.stagedCrop hstrayed htouched hconfirmed' hvalid'
  rw [htarget, hpack] at hcontrol
  have hfields := controlPath_of_pack hasked hcontrol
  have hpath' : w.stagedPath = controlPath asked := by
    rw [hpath]
    simp only [controlPath, hfields.1, hfields.2]
  rw [vcapControlPack_stagedControl hasked hpath' hstaged, ← hpack, ← htarget]
  exact hlive.2

theorem triple_saveCheckCrop
    : Triple videoContract (Sound domain .nothing) saveCheckCrop
        (Checked domain (fun _ => True) CropSaves) := by
  have hrefuse (text : String)
      : Triple videoContract (Sound domain .nothing) (refuse text)
        (Checked domain (fun _ => True) CropSaves) := by
    apply triple_of_pre _ (triple_refuse_check (fun _ _ _ h => h) text)
    intro w hw
    exact ⟨hw, trivial⟩
  apply triple_read_bind
  intro s
  apply triple_ite
  . intro huntouched
    apply triple_pure
    intro w hw
    refine ⟨⟨hw.1, trivial⟩, ?_⟩
    intro _ _ htouched
    rw [← hw.2] at htouched
    simp [htouched] at huntouched
  . intro htouched
    apply triple_ite
    . intro _
      apply triple_of_pre (K := Sound domain .nothing) fun w hw => hw.1
      apply hrefuse
    . intro hconfirmed
      simp only [Bool.or_eq_true, Bool.not_eq_true', not_or, Bool.not_eq_false]
        at htouched hconfirmed
      apply triple_bind (J := fun r w => Sound domain .nothing w ∧ (r = true → LiveAgain s w))
      . have hsame : Stable (fun w => edits s.live = edits w.live) := by
          intro w w' h hw
          rw [h.live]
          exact hw
        apply triple_mono (K := fun w => Sound domain .nothing w ∧ edits s.live = edits w.live)
          (triple_refreshLive hsame fun w live hlive hw => hw.trans hlive.symm)
        . intro w hw
          rw [hw.2]
          exact ⟨hw.1, rfl⟩
        . intro r w hw
          exact ⟨hw.1.1, fun hr => ⟨hw.1.2, (hw.2 hr).2.2⟩⟩
      . intro r
        apply triple_ite
        . intro _
          apply triple_of_pre (K := Sound domain .nothing) fun w hw => hw.1
          apply hrefuse
        . intro hrefreshed
          apply triple_read_bind
          intro s₁
          apply triple_read_bind
          intro s₂
          apply triple_ite
          . intro _
            apply triple_of_pre (K := Sound domain .nothing) fun w hw => hw.1.1.1
            apply hrefuse
          . intro htarget
            apply triple_bind triple_currentControl
            intro r'
            cases r' with
            | none =>
              apply triple_of_pre (K := Sound domain .nothing) fun w hw => hw.1.1.1.1
              apply hrefuse
            | some control =>
              apply triple_read_bind
              intro s₃
              apply triple_ite
              . intro _
                apply triple_of_pre (K := Sound domain .nothing) fun w hw => hw.1.1.1.1.1
                apply hrefuse
              . intro hpath
                apply triple_pure
                intro w hw
                obtain ⟨⟨⟨⟨⟨hsound, hlive⟩, heq₁⟩, heq₂⟩, hcontrol⟩, heq₃⟩ := hw
                refine ⟨⟨hsound, trivial⟩, fun _ => ?_⟩
                rw [heq₁, heq₂] at htarget
                rw [heq₃] at hpath
                exact cropSaves_of_live hsound (hlive (by simpa using hrefreshed)) hconfirmed.1
                  hconfirmed.2 (Decidable.not_not.mp htarget) hcontrol
                  (Decidable.not_not.mp hpath)

theorem triple_saveCheckPhase {P : VideoWorld → Prop} (hP : Stable P)
    : Triple videoContract (fun w => Sound domain .nothing w ∧ P w) saveCheckPhase
        (Checked domain P PhaseSaves) := by
  apply triple_read_bind
  intro s
  apply triple_ite
  . intro huntouched
    apply triple_pure
    intro w hw
    refine ⟨hw.1, ?_⟩
    intro _ _ htouched
    rw [← hw.2] at htouched
    simp [htouched] at huntouched
  . intro htouched
    apply triple_ite
    . intro _
      apply triple_of_pre (K := fun w => Sound domain .nothing w ∧ P w) fun w hw => hw.1
      exact triple_refuse_check hP _
    . intro hconfirmed
      simp only [Bool.not_eq_true', Bool.not_eq_false] at htouched hconfirmed
      have hstable : Stable (fun w => (Sound domain .nothing w ∧ P w) ∧ s.live = w.live) :=
        stable_of_live (Q := fun live => s.live = live) (stable_and stable_sound hP)
      apply triple_bind
      . apply triple_of_pre
          (K := fun w => (Sound domain .nothing w ∧ P w) ∧ s.live = w.live)
          fun w hw => ⟨hw.1, by rw [hw.2]⟩
        exact VcapIo.triple_phaseCheck (acknowledges_of_stable hstable) s.live.phaseTarget
      . intro result
        apply triple_ite
        . intro hok
          apply triple_pure
          intro w hw
          obtain ⟨⟨⟨hsound, hp⟩, hlive⟩, hphase⟩ := hw.1 hok
          refine ⟨⟨hsound, hp⟩, fun _ => ?_⟩
          intro hstrayed htouched'
          rw [hlive] at hconfirmed hphase
          rw [hsound.agrees, hsound.stagedPhase hstrayed htouched' hconfirmed]
          exact hphase
        . intro _
          apply triple_of_pre (K := fun w => Sound domain .nothing w ∧ P w) fun w hw => hw.2.1
          exact triple_refuse_check hP _

/-- A window that is done is the one that was applied last. -/
theorem windowAt_of_done {u : Undecided} {w : VideoWorld} {state : VcapGeometryState}
    {width height : UInt16} (h : Sound domain u w) (hdone : state.Done width height)
    (hstate : WindowIn state w)
    : WindowAt (width, height) w := by
  obtain ⟨hidle, heq⟩ := hstate
  have hsettled := hdone.settled
  have hrequests := hdone.requests
  simp only [VcapGeometryState.requests, Bool.and_eq_true, beq_iff_eq] at hrequests
  rw [← heq] at hsettled hidle
  refine ⟨hidle, ?_⟩
  rw [h.coherent hsettled, heq, hrequests.1, hrequests.2]

theorem triple_saveCheckGeometry {P : VideoWorld → Prop} (hP : Stable P)
    : Triple videoContract (fun w => Sound domain .nothing w ∧ P w) saveCheckGeometry
        (Checked domain P WindowSaves) := by
  apply triple_read_bind
  intro s
  apply triple_ite
  . intro huntouched
    apply triple_pure
    intro w hw
    refine ⟨hw.1, ?_⟩
    intro _ _ htouched
    rw [← hw.2] at htouched
    simp [htouched] at huntouched
  . intro htouched
    apply triple_ite
    . intro _
      apply triple_of_pre (K := fun w => Sound domain .nothing w ∧ P w) fun w hw => hw.1
      exact triple_refuse_check hP _
    . intro hconfirmed
      simp only [Bool.not_eq_true', Bool.not_eq_false] at htouched hconfirmed
      have hstable : Stable (fun w => (Sound domain .nothing w ∧ P w) ∧ s.live = w.live) :=
        stable_of_live (Q := fun live => s.live = live) (stable_and stable_sound hP)
      apply triple_bind
      . apply triple_of_pre
          (K := fun w => (Sound domain .nothing w ∧ P w) ∧ s.live = w.live)
          fun w hw => ⟨hw.1, by rw [hw.2]⟩
        exact VcapIo.triple_geometryCheck (triple_geometryRead hstable)
          s.live.geometryWidth s.live.geometryHeight
      . intro result
        apply triple_ite
        . intro hok
          apply triple_pure
          intro w hw
          obtain ⟨⟨⟨hsound, hp⟩, hlive⟩, hshown⟩ := hw
          obtain ⟨state, hdone, hstate⟩ := hshown hok
          refine ⟨⟨hsound, hp⟩, fun _ => ?_⟩
          intro hstrayed htouched'
          rw [hlive] at hconfirmed hdone
          have hstaged : stagedWindow w.cfg.edit = (w.live.geometryWidth, w.live.geometryHeight) :=
            hsound.stagedWindow hstrayed htouched' hconfirmed
          rw [hstaged]
          exact windowAt_of_done hsound hdone
            (hstate (VcapGeometryState.pending_of_settled hdone.settled))
        . intro _
          apply triple_of_pre (K := fun w => Sound domain .nothing w ∧ P w) fun w hw => hw.1.1
          exact triple_refuse_check hP _

/-- What a check that succeeds says. -/
def Saves (w : VideoWorld) : Prop := CropSaves w ∧ PhaseSaves w ∧ WindowSaves w

theorem triple_videoSaveCheck
    : Triple videoContract (Sound domain .nothing) videoSaveCheck
        (Checked domain (fun _ => True) Saves) := by
  have hfail : Triple videoContract (Sound domain .nothing) (pure false : Video Bool)
      (Checked domain (fun _ => True) Saves) := by
    apply triple_pure
    intro w hw
    exact ⟨⟨hw, trivial⟩, by simp⟩
  apply triple_bind triple_saveCheckCrop
  intro r
  apply triple_ite
  . intro hcrop
    apply triple_bind (J := Checked domain CropSaves PhaseSaves)
    . apply triple_of_pre _ (triple_saveCheckPhase stable_cropSaves)
      intro w hw
      exact ⟨hw.1.1, hw.2 hcrop⟩
    . intro r'
      apply triple_ite
      . intro hphase
        apply triple_mono (K := fun w => Sound domain .nothing w ∧ CropSaves w ∧ PhaseSaves w)
          (triple_saveCheckGeometry (stable_and stable_cropSaves stable_phaseSaves))
        . intro w hw
          exact ⟨hw.1.1, hw.1.2, hw.2 hphase⟩
        . intro r'' w hw
          exact ⟨⟨hw.1.1, trivial⟩, fun hr => ⟨hw.1.2.1, hw.1.2.2, hw.2 hr⟩⟩
      . intro _
        apply triple_of_pre (K := Sound domain .nothing) fun w hw => hw.1.1
        exact hfail
  . intro _
    apply triple_of_pre (K := Sound domain .nothing) fun w hw => hw.1.1
    exact hfail

end SaveCheck

section Saved

theorem steady_savedCrop
    : Steady domain savedCrop := by
  have hreturn : Steady domain (pure () : Video Unit) := by
    apply triple_pure
    intro w hw
    exact hw
  apply triple_read_bind
  intro s
  apply triple_of_pre (K := Sound domain .nothing) fun w hw => hw.1
  apply triple_ite
  . intro _
    apply triple_bind (J := fun r w => Sound domain .nothing w
      ∧ (r = true → CropAt w.live.current.raw w))
    . apply triple_mono (K := fun w => Sound domain .nothing w ∧ True)
        (triple_refreshLive (fun _ _ _ h => h) fun _ _ _ h => h)
      . intro w hw
        exact ⟨hw, trivial⟩
      . intro r w hw
        exact ⟨hw.1.1, fun hr => (hw.2 hr).2.2⟩
    . intro r
      apply triple_ite
      . intro hr
        apply triple_read_bind
        intro s'
        apply triple_ite
        . intro _
          apply triple_modify_solo
          intro w hw
          obtain ⟨⟨hsound, hcrop⟩, _⟩ := hw
          exact { hsound with
            supported := fun _ => rfl
            crop := .rebase (hcrop hr)
            stagedCrop := by
              intro _ htouched
              contradiction }
        . intro _
          apply triple_of_pre (K := Sound domain .nothing) fun w hw => hw.1.1
          exact hreturn
      . intro _
        apply triple_of_pre (K := Sound domain .nothing) fun w hw => hw.1
        exact hreturn
  . intro _
    exact hreturn

theorem steady_savedPhase
    : Steady domain savedPhase := by
  have hreturn : Steady domain (pure () : Video Unit) := by
    apply triple_pure
    intro w hw
    exact hw
  apply triple_read_bind
  intro s
  apply triple_ite
  . intro _
    have hstable : Stable (fun w => Sound domain .nothing w ∧ s.live = w.live) :=
      stable_of_live (Q := fun live => s.live = live) stable_sound
    apply triple_bind
    . apply triple_of_pre (K := fun w => Sound domain .nothing w ∧ s.live = w.live)
        fun w hw => ⟨hw.1, by rw [hw.2]⟩
      exact VcapIo.triple_phaseCheck (acknowledges_of_stable hstable) s.live.phaseTarget
    . intro result
      apply triple_ite
      . intro hok
        apply triple_modify_solo
        intro w hw
        obtain ⟨⟨hsound, hlive⟩, hphase⟩ := hw.1 hok
        rw [hlive] at hphase
        exact { hsound with
          phase := fun _ => .rebase hphase
          stagedPhase := by
            intro _ htouched
            contradiction }
      . intro _
        apply triple_of_pre (K := Sound domain .nothing) fun w hw => hw.2.1
        exact hreturn
  . intro _
    apply triple_of_pre (K := Sound domain .nothing) fun w hw => hw.1
    exact hreturn

/-- A state that was read is the one of the window that was confirmed, if it requests that. -/
def ReadBack (domain : VcapPhaseDomain) (live : VideoLiveState)
    (r : Except VcapResult VcapGeometryState) (w : VideoWorld) : Prop :=
  Sound domain .nothing w ∧ ∀ state, r = .ok state →
    state.requests live.geometryWidth live.geometryHeight = true →
      WindowAt (state.requestedWidth, state.requestedHeight) w

theorem triple_geometryRead_done (live : VideoLiveState) (state : VcapGeometryState)
    (hdone : state.Done live.geometryWidth live.geometryHeight)
    : Triple videoContract (fun w => Sound domain .nothing w ∧ WindowIn state w)
        cardIo.geometryRead (ReadBack domain live) := by
  have hrequests := hdone.requests
  simp only [VcapGeometryState.requests, Bool.and_eq_true, beq_iff_eq] at hrequests
  apply triple_mono (K := fun w => Sound domain .nothing w ∧ WindowIn state w)
    (triple_geometryRead_settled stable_sound state)
  . intro w hw
    exact hw
  . intro r w hr
    refine ⟨hr.1.1, ?_⟩
    intro state' hstate _
    rw [hstate] at hr
    rw [hr.2, hrequests.1, hrequests.2]
    exact windowAt_of_done hr.1.1 hdone hr.1.2

theorem triple_geometryRead_left (live : VideoLiveState) (width height : UInt16)
    (hleft : (width == live.geometryWidth && height == live.geometryHeight) = false)
    : Triple videoContract (fun w => Sound domain .nothing w
        ∧ w.card.geometry.state.requestedWidth = width
        ∧ w.card.geometry.state.requestedHeight = height) cardIo.geometryRead
        (ReadBack domain live) := by
  have hstable : Stable (fun w => Sound domain .nothing w
      ∧ w.card.geometry.state.requestedWidth = width
      ∧ w.card.geometry.state.requestedHeight = height) := by
    intro w w' h hw
    rw [h.card.requestedWidth, h.card.requestedHeight]
    exact ⟨stable_sound w w' h hw.1, hw.2⟩
  apply triple_mono (K := fun w => Sound domain .nothing w
      ∧ w.card.geometry.state.requestedWidth = width
      ∧ w.card.geometry.state.requestedHeight = height)
    (triple_geometryRead_requested hstable fun w hw => hw.2)
  . intro w hw
    exact hw
  . intro r w hr
    refine ⟨hr.1.1, ?_⟩
    intro state hstate hrequests
    rw [hstate] at hr
    unfold VcapGeometryState.requests at hrequests
    rw [hr.2.1, hr.2.2, hleft] at hrequests
    contradiction

theorem steady_savedGeometry
    : Steady domain savedGeometry := by
  have hreturn : Steady domain (pure () : Video Unit) := by
    apply triple_pure
    intro w hw
    exact hw
  apply triple_read_bind
  intro s
  apply triple_ite
  . intro hsaved
    simp only [Bool.and_eq_true] at hsaved
    apply triple_bind (J := ReadBack domain s.live)
    . apply triple_of_pre (K := fun w =>
        (∃ state : VcapGeometryState,
          (Sound domain .nothing w ∧ WindowIn state w)
            ∧ state.Done s.live.geometryWidth s.live.geometryHeight)
        ∨ ∃ size : UInt16 × UInt16, (Sound domain .nothing w
            ∧ w.card.geometry.state.requestedWidth = size.1
            ∧ w.card.geometry.state.requestedHeight = size.2)
            ∧ (size.1 == s.live.geometryWidth && size.2 == s.live.geometryHeight) = false)
      . intro w hw
        rw [hw.2] at hsaved ⊢
        cases hw.1.done hsaved.1 hsaved.2 with
        | inl hdone =>
          left
          exact ⟨w.card.geometry.state,
            ⟨hw.1, VcapGeometryState.pending_of_settled hdone.settled, rfl⟩, hdone⟩
        | inr hleft =>
          right
          exact ⟨(w.card.geometry.state.requestedWidth, w.card.geometry.state.requestedHeight),
            ⟨hw.1, rfl, rfl⟩, hleft.2.2⟩
      . apply triple_or
        . apply triple_exists
          intro state
          apply triple_of_fact (p := state.Done s.live.geometryWidth s.live.geometryHeight)
            fun w hw => hw.2
          intro hdone
          apply triple_of_pre (K := fun w => Sound domain .nothing w ∧ WindowIn state w)
            fun w hw => hw.1
          exact triple_geometryRead_done s.live state hdone
        . apply triple_exists
          intro size
          apply triple_of_fact
            (p := (size.1 == s.live.geometryWidth && size.2 == s.live.geometryHeight) = false)
            fun w hw => hw.2
          intro hleft
          apply triple_of_pre (K := fun w => Sound domain .nothing w
            ∧ w.card.geometry.state.requestedWidth = size.1
            ∧ w.card.geometry.state.requestedHeight = size.2) fun w hw => hw.1
          exact triple_geometryRead_left s.live size.1 size.2 hleft
    . intro r
      cases r with
      | error result =>
        apply triple_of_pre (K := Sound domain .nothing) fun w hw => hw.1
        exact hreturn
      | ok state =>
        apply triple_ite
        . intro hrequests
          simp only [Bool.and_eq_true] at hrequests
          apply triple_modify_solo
          intro w hw
          have hwindow := hw.2 state rfl hrequests.1
          exact { hw.1 with
            window := fun _ => .rebase hwindow
            done := by
              intro htouched
              contradiction
            stagedWindow := by
              intro _ htouched
              contradiction }
        . intro _
          apply triple_of_pre (K := Sound domain .nothing) fun w hw => hw.1
          exact hreturn
  . intro _
    apply triple_of_pre (K := Sound domain .nothing) fun w hw => hw.1
    exact hreturn

theorem steady_videoSaved
    : Steady domain videoSaved := by
  apply triple_bind steady_savedCrop
  intro _
  apply triple_bind steady_savedPhase
  intro _
  exact steady_savedGeometry

end Saved

section Revert

def touchedFlags (live : VideoLiveState) : Bool × Bool × Bool :=
  (live.cropTouched, live.phaseTouched, live.geometryTouched)

def CropBack (w : VideoWorld) : Prop :=
  w.live.cropTouched = true → CropAt w.live.cropAnchor.raw w

def PhaseBack (w : VideoWorld) : Prop :=
  w.live.phaseTouched = true → PhaseAt w.live.phaseAnchor w

def WindowBack (w : VideoWorld) : Prop :=
  w.live.geometryTouched = true → WindowAt (anchorSize w.live) w

theorem stable_cropBack
    : Stable CropBack := by
  intro w w' h hw htouched
  rw [h.live] at htouched ⊢
  exact stable_cropAt _ w w' h (hw htouched)

theorem stable_phaseBack
    : Stable PhaseBack := by
  intro w w' h hw htouched
  rw [h.live] at htouched ⊢
  exact stable_phaseAt _ w w' h (hw htouched)

/-- What Revert has reached; the flags are those from before. -/
def Reverting (domain : VcapPhaseDomain) (flags : Bool × Bool × Bool) (P : VideoWorld → Prop)
    (w : VideoWorld) : Prop :=
  (Sound domain .nothing w ∧ touchedFlags w.live = flags) ∧ P w

def Reached (domain : VcapPhaseDomain) (flags : Bool × Bool × Bool) (P Q : VideoWorld → Prop)
    (r : Bool) (w : VideoWorld) : Prop :=
  Reverting domain flags P w ∧ (r = true → Q w)

variable {flags : Bool × Bool × Bool}

theorem stable_reverting {P : VideoWorld → Prop} (hP : Stable P)
    : Stable (Reverting domain flags P) :=
  stable_and (stable_of_live (Q := fun live => touchedFlags live = flags) stable_sound) hP

theorem triple_revertCrop
    : Triple videoContract (Reverting domain flags fun _ => True) revertCrop
        (Reached domain flags (fun _ => True) CropBack) := by
  apply triple_read_bind
  intro s
  apply triple_ite
  . intro htouched
    apply triple_bind (J := fun r w => Reverting domain flags (fun _ => True) w
      ∧ (r.isSome = true → CropBack w))
    . apply triple_of_fact (p := touchedFlags s.live = flags)
      . intro w hw
        rw [hw.2]
        exact hw.1.1.2
      . intro hflags
        apply triple_mono (K := fun w => Sound domain .nothing w ∧ s.live = w.live)
          (triple_restoreCrop htouched)
        . intro w hw
          exact ⟨hw.1.1.1, by rw [hw.2]⟩
        . intro r w hw
          obtain ⟨⟨hsound, hlive⟩, hcrop⟩ := hw
          rw [hlive] at hflags hcrop
          exact ⟨⟨⟨hsound, hflags⟩, trivial⟩, fun hr _ => hcrop hr⟩
    . intro r
      cases r with
      | none =>
        apply triple_of_pre (K := Reverting domain flags fun _ => True) fun w hw => hw.1
        apply triple_refuse (stable_reverting fun _ _ _ h => h)
        intro w hw
        exact ⟨hw, by simp⟩
      | some applied =>
        apply triple_bind (J := fun _ w => Reverting domain flags (fun _ => True) w
          ∧ CropBack w)
        . apply triple_modify_solo
          intro w hw
          exact ⟨⟨⟨{ hw.1.1.1 with }, hw.1.1.2⟩, trivial⟩, hw.2 rfl⟩
        . intro _
          apply triple_pure
          intro w hw
          exact ⟨hw.1, fun _ => hw.2⟩
  . intro huntouched
    apply triple_pure
    intro w hw
    refine ⟨hw.1, ?_⟩
    intro _ htouched
    rw [← hw.2] at htouched
    contradiction

theorem triple_revertPhase
    : Triple videoContract (Reverting domain flags CropBack) revertPhase
        (Reached domain flags CropBack PhaseBack) := by
  apply triple_read_bind
  intro s
  apply triple_ite
  . intro htouched
    apply triple_ite
    . intro _
      have hstable : Stable (fun w => Reverting domain flags CropBack w ∧ s.live = w.live) :=
        stable_of_live (Q := fun live => s.live = live) (stable_reverting stable_cropBack)
      have hfree : PhaseFree (fun w => Reverting domain flags CropBack w ∧ s.live = w.live) := by
        intro w phase hsame hw
        obtain ⟨⟨⟨hsound, hflags⟩, hcrop⟩, hlive⟩ := hw
        refine ⟨⟨⟨hsound.withPhase ?_ hsame, hflags⟩, hcrop⟩, hlive⟩
        rw [← hlive]
        exact htouched
      apply triple_mono (K := fun w => Reverting domain flags CropBack w ∧ s.live = w.live)
        (VideoWorld.triple_phaseApply hstable hfree s.live.phaseAnchor true)
      . intro w hw
        exact ⟨hw.1, by rw [hw.2]⟩
      . intro r w hw
        refine ⟨hw.1.1, ?_⟩
        intro hr _
        rw [← hw.1.2]
        exact hw.2 hr
    . intro _
      apply triple_pure
      intro w hw
      exact ⟨hw.1, by simp⟩
  . intro huntouched
    apply triple_pure
    intro w hw
    refine ⟨hw.1, ?_⟩
    intro _ htouched
    rw [← hw.2] at htouched
    contradiction

/-- A window that is confirmed at its anchor needs no request, and any other may be left. -/
theorem triple_revertWindow {s : VideoWorld} (htouched : s.live.geometryTouched = true)
    (hvalid : s.live.geometryAnchorValid = true)
    : Triple videoContract (fun w => Reverting domain flags (fun w => CropBack w ∧ PhaseBack w) w
        ∧ s.live = w.live) (geometryApply (anchorSize s.live).1 (anchorSize s.live).2 true)
        (fun r w => (Reverting domain flags (fun w => CropBack w ∧ PhaseBack w) w
          ∧ s.live = w.live) ∧ (r = true → WindowAt (anchorSize s.live) w)) := by
  have hstable : Stable (fun w => Reverting domain flags (fun w => CropBack w ∧ PhaseBack w) w
      ∧ s.live = w.live) :=
    stable_of_live (Q := fun live => s.live = live)
      (stable_reverting (stable_and stable_cropBack stable_phaseBack))
  by_cases hsame : s.live.geometryConfirmed = true
      ∧ anchorSize s.live = (s.live.geometryWidth, s.live.geometryHeight)
  . apply triple_of_pre (K := fun w => ∃ state : VcapGeometryState,
      ((Reverting domain flags (fun w => CropBack w ∧ PhaseBack w) w ∧ s.live = w.live)
        ∧ WindowIn state w) ∧ state.Done (anchorSize s.live).1 (anchorSize s.live).2)
    . intro w hw
      have hlive := hw.2
      have hdone := hw.1.1.1.done
      unfold WindowDone at hdone
      rw [← hlive] at hdone
      cases hdone htouched hsame.1 with
      | inl hdone =>
        refine ⟨w.card.geometry.state,
          ⟨hw, VcapGeometryState.pending_of_settled hdone.settled, rfl⟩, ?_⟩
        rw [hsame.2]
        exact hdone
      | inr hleft => exact absurd hsame.2 hleft.2.1
    . apply triple_exists
      intro state
      apply triple_of_fact (p := state.Done (anchorSize s.live).1 (anchorSize s.live).2)
        fun w hw => hw.2
      intro hdone
      apply triple_mono (triple_geometryApply_done hstable hdone true) (fun w hw => hw.1)
      intro r w hw
      exact ⟨hw.1, fun _ => windowAt_of_done hw.1.1.1.1 hdone hw.2⟩
  . have hfree : WindowFree (anchorSize s.live).1 (anchorSize s.live).2
        (fun w => Reverting domain flags (fun w => CropBack w ∧ PhaseBack w) w
          ∧ s.live = w.live) := by
      intro w geometry hrequested hw
      obtain ⟨⟨⟨hsound, hflags⟩, hback⟩, hlive⟩ := hw
      refine ⟨⟨⟨hsound.withWindow ?_ hrequested ?_, hflags⟩, hback⟩, hlive⟩
      . rw [← hlive]
        exact htouched
      . rw [← hlive]
        intro hconfirmed
        exact ⟨hvalid, rfl, fun heq => hsame ⟨hconfirmed, heq⟩⟩
    apply triple_mono (triple_geometryApply hstable hfree true) (fun w hw => hw)
    intro r w hw
    refine ⟨hw.1, ?_⟩
    intro hr
    obtain ⟨state, hdone, hstate⟩ := hw.2 hr
    exact windowAt_of_done hw.1.1.1.1 hdone hstate

theorem triple_revertGeometry
    : Triple videoContract (Reverting domain flags fun w => CropBack w ∧ PhaseBack w)
        revertGeometry (Reached domain flags (fun w => CropBack w ∧ PhaseBack w) WindowBack) := by
  apply triple_read_bind
  intro s
  apply triple_ite
  . intro htouched
    apply triple_ite
    . intro hvalid
      apply triple_mono (triple_revertWindow htouched hvalid)
      . intro w hw
        exact ⟨hw.1, by rw [hw.2]⟩
      . intro r w hw
        refine ⟨hw.1.1, ?_⟩
        intro hr _
        rw [← hw.1.2]
        exact hw.2 hr
    . intro _
      apply triple_pure
      intro w hw
      exact ⟨hw.1, by simp⟩
  . intro huntouched
    apply triple_pure
    intro w hw
    refine ⟨hw.1, ?_⟩
    intro _ htouched
    rw [← hw.2] at htouched
    contradiction

/-- Every domain is where its edits began, as far as that was an anchor. -/
structure Restored (w : VideoWorld) : Prop where
  crop : ∀ raw, w.history.cropEntry = some raw → CropAt raw w
  phase : w.history.unanchored = false →
    ∀ phase, w.history.phaseEntry = some phase → PhaseAt phase w
  window : w.history.unanchored = false →
    ∀ size, w.history.windowEntry = some size → WindowAt size w

theorem stable_restored
    : Stable Restored := by
  intro w w' h hw
  constructor
  . intro raw hraw
    rw [h.history] at hraw
    exact stable_cropAt raw w w' h (hw.crop raw hraw)
  . intro hanchored phase hphase
    rw [h.history] at hanchored hphase
    exact stable_phaseAt phase w w' h (hw.phase hanchored phase hphase)
  . intro hanchored size hsize
    rw [h.history] at hanchored hsize
    exact stable_windowAt size w w' h (hw.window hanchored size hsize)

/-- Where a domain is back it is where its edits began. -/
theorem Anchored.back {touched valid : Bool} {entry : Option α} {anchor a : α}
    {applied : α → Prop} (h : Anchored touched valid entry anchor applied)
    (hback : touched = true → applied anchor) (hentry : entry = some a)
    : applied a := by
  obtain ⟨hvalid, heq⟩ := h.origin a hentry
  rw [← heq]
  cases htouched : touched with
  | true => exact hback htouched
  | false => exact h.kept htouched hvalid

theorem Anchored.atAnchor {touched valid : Bool} {entry : Option α} {anchor : α}
    {applied : α → Prop} (h : Anchored touched valid entry anchor applied)
    (hback : touched = true → applied anchor)
    : Anchored false valid entry anchor applied := by
  apply h.untouch
  intro hvalid
  cases htouched : touched with
  | true => exact hback htouched
  | false => exact h.kept htouched hvalid

theorem sound_untouched {w : VideoWorld} (h : Sound domain .nothing w) (hcrop : CropBack w)
    (hphase : PhaseBack w) (hwindow : WindowBack w)
    : Sound domain .nothing { w with live := w.live.untouched } :=
  { h with
    supported := fun _ => rfl
    crop := h.crop.atAnchor hcrop
    phase := fun hanchored => (h.phase hanchored).atAnchor hphase
    window := fun hanchored => (h.window hanchored).atAnchor hwindow
    done := by
      intro htouched
      contradiction
    stagedCrop := by
      intro _ htouched
      contradiction
    stagedPhase := by
      intro _ htouched
      contradiction
    stagedWindow := by
      intro _ htouched
      contradiction }

/-- What `video_revert` says. -/
def Reverted (domain : VcapPhaseDomain) (flags : Bool × Bool × Bool) (r : Bool) (w : VideoWorld)
    : Prop :=
  Sound domain .nothing w ∧
    if r then touchedFlags w.live = (false, false, false) ∧ Restored w
    else touchedFlags w.live = flags

theorem triple_videoRevert (flags : Bool × Bool × Bool)
    : Triple videoContract (fun w => Sound domain .nothing w ∧ touchedFlags w.live = flags)
        videoRevert (Reverted domain flags) := by
  have hfail : Triple videoContract
      (fun w => Sound domain .nothing w ∧ touchedFlags w.live = flags)
      (pure false : Video Bool) (Reverted domain flags) := by
    apply triple_pure
    intro w hw
    exact hw
  apply triple_of_pre (K := Reverting domain flags fun _ => True) fun w hw => ⟨hw, trivial⟩
  apply triple_bind triple_revertCrop
  intro r
  apply triple_ite
  . intro hr
    apply triple_bind (J := Reached domain flags CropBack PhaseBack)
    . apply triple_of_pre _ triple_revertPhase
      intro w hw
      exact ⟨hw.1.1, hw.2 hr⟩
    . intro r'
      apply triple_ite
      . intro hr'
        apply triple_bind
          (J := Reached domain flags (fun w => CropBack w ∧ PhaseBack w) WindowBack)
        . apply triple_of_pre _ triple_revertGeometry
          intro w hw
          exact ⟨hw.1.1, hw.1.2, hw.2 hr'⟩
        . intro r''
          apply triple_ite
          . intro hr''
            let ended (w : VideoWorld) : Prop :=
              touchedFlags w.live = (false, false, false) ∧ Restored w
            apply triple_bind (J := fun _ w => Sound domain .nothing w ∧ ended w)
            . apply triple_modify_solo
              intro w hw
              obtain ⟨⟨⟨hsound, _⟩, hcrop, hphase⟩, hwindow⟩ := hw
              refine ⟨sound_untouched hsound hcrop hphase (hwindow hr''), rfl, ?_⟩
              constructor
              . intro raw hraw
                exact hsound.crop.back hcrop hraw
              . intro hanchored phase hentry
                exact (hsound.phase hanchored).back hphase hentry
              . intro hanchored size hsize
                exact (hsound.window hanchored).back (hwindow hr'') hsize
            . intro _
              have hended : Stable ended := by
                intro w w' h hw
                refine ⟨?_, stable_restored w w' h hw.2⟩
                rw [h.live]
                exact hw.1
              have hfree : RefreshFree ended := by
                intro w live hlive hw
                refine ⟨?_, hw.2.crop, hw.2.phase, hw.2.window⟩
                have hflags := hw.1
                simp only [edits, VideoLiveState.mk.injEq] at hlive
                unfold touchedFlags at hflags ⊢
                rw [hlive.2.1, hlive.2.2.2.2.2.1, hlive.2.2.2.2.2.2.2.2.1]
                exact hflags
              apply triple_bind (triple_refreshLive hended hfree)
              intro _
              apply triple_pure
              intro w hw
              exact hw.1
          . intro _
            apply triple_of_pre (K := fun w => Sound domain .nothing w ∧ touchedFlags w.live = flags)
              fun w hw => hw.1.1
            exact hfail
      . intro _
        apply triple_of_pre (K := fun w => Sound domain .nothing w ∧ touchedFlags w.live = flags)
          fun w hw => hw.1.1
        exact hfail
  . intro _
    apply triple_of_pre (K := fun w => Sound domain .nothing w ∧ touchedFlags w.live = flags)
      fun w hw => hw.1.1
    exact hfail

end Revert

section Run

theorem steady_videoRevert
    : Steady domain videoRevert := by
  apply triple_of_pre (K := fun w => ∃ flags, Sound domain .nothing w
    ∧ touchedFlags w.live = flags) fun w hw => ⟨_, hw, rfl⟩
  apply triple_exists
  intro flags
  apply triple_mono (triple_videoRevert flags) (fun w hw => hw)
  intro r w hw
  exact hw.1

theorem steady_discard {c : Video α} (hc : Steady domain c)
    : Steady domain (discard c) :=
  triple_map hc

theorem steady_videoStep (step : VideoStep)
    : Steady domain (videoStep step) := by
  cases step with
  | init =>
    apply triple_of_pre (K := Powered domain) fun w hw => ⟨hw.coherent, hw.engine⟩
    exact triple_videoInit
  | snapshot =>
    apply steady_discard
    apply triple_mono triple_videoSnapshot (fun w hw => hw)
    intro r w hw
    exact hw.1
  | currentPathMatches =>
    apply steady_discard
    apply triple_mono triple_videoCurrentPathMatches (fun w hw => hw)
    intro r w hw
    exact hw.1
  | phaseState => exact steady_discard steady_videoPhaseState
  | alignReady => exact steady_discard steady_videoAlignReady
  | findPhaseReady =>
    apply steady_discard
    apply triple_mono triple_videoFindPhaseReady (fun w hw => hw)
    intro r w hw
    exact hw.1
  | setCrop h hp v vp => exact steady_discard (steady_videoSetCrop h hp v vp)
  | setSample sample => exact steady_discard (steady_videoSetSample sample)
  | setPhase phase present => exact steady_discard (steady_videoSetPhase phase present)
  | setGeometry width height => exact steady_discard (steady_videoSetGeometry width height)
  | setProfile profile => exact steady_discard (steady_videoSetProfile profile)
  | resetAutomatic => exact steady_discard steady_videoResetAutomatic
  | align => exact steady_discard steady_videoAlign
  | findPhase => exact steady_discard steady_videoFindPhase
  | saveCheck =>
    apply steady_discard
    apply triple_mono triple_videoSaveCheck (fun w hw => hw)
    intro r w hw
    exact hw.1.1
  | saved => exact steady_videoSaved
  | revert => exact steady_discard steady_videoRevert

/-- A run of the application since it has initialized the live control. -/
def videoRun (xs : List VideoStep) : Video Unit := do
  videoInit
  steps videoStep xs

theorem triple_videoRun (xs : List VideoStep)
    : Triple videoContract (Powered domain) (videoRun xs) (fun _ => Sound domain .nothing) := by
  apply triple_bind triple_videoInit
  intro _
  exact triple_steps steady_videoStep xs

/-- The crop that is applied is the one that is staged. -/
def CropStaged (w : VideoWorld) : Prop :=
  CropAt (vcapControlPack (stagedControl w.stagedPath w.cfg.edit)) w

def PhaseStaged (w : VideoWorld) : Prop :=
  PhaseAt (stagedPhase w.card.phase.domain w.cfg.edit) w

def WindowStaged (w : VideoWorld) : Prop := WindowAt (stagedWindow w.cfg.edit) w

/-- A run of the application that comes to Save. -/
def saveRun (xs : List VideoStep) : Video Bool := do
  videoRun xs
  videoSaveCheck

/-- If nothing has strayed, what may be saved is what is applied. -/
theorem video_save_check_staged {xs : List VideoStep} {w w' : VideoWorld}
    {answers : List VideoAnswer} {marks : Trace VideoWorld Empty}
    (hcoherent : w.card.geometry.Coherent)
    (hrun : (saveRun xs).exec w answers = some (marks, w', .done true))
    (hstrayed : w'.history.strayed = false)
    : (w'.live.cropTouched = true → CropStaged w')
        ∧ (w'.live.phaseTouched = true → PhaseStaged w')
        ∧ (w'.live.geometryTouched = true → WindowStaged w') := by
  have htriple : Triple videoContract (Powered w.card.phase.domain) (saveRun xs)
      (Checked w.card.phase.domain (fun _ => True) Saves) := by
    apply triple_bind (triple_videoRun xs)
    intro _
    exact triple_videoSaveCheck
  have hended := exec_of_triple htriple ⟨hcoherent, rfl⟩ hrun fun _ _ => trivial
  obtain ⟨r, hr, ⟨hsound, _⟩, hsaves⟩ := hended.2
  simp only [Stop.done.injEq] at hr
  obtain ⟨hcrop, hphase, hwindow⟩ := hsaves hr.symm
  refine ⟨hcrop hstrayed, ?_, hwindow hstrayed⟩
  intro htouched
  have := hphase hstrayed htouched
  unfold PhaseStaged
  rw [hsound.engine, ← hsound.agrees]
  exact this

/-- The settings of a card without a file. -/
def plainSettings : SettingsState where
  supported := true
  readStatus := 0
  fileBytes := 0
  saved := defaultValues true 0 0 0 100
  edit := defaultValues true 0 0 0 100
  dirty := fun _ => false
  fastRamState := .unavailable
  fastRamOutcome := 0
  saveValues := defaultValues true 0 0 0 100

/-- A card with an automatic picture, whose phase engine is done with phase 0. -/
def plainCard (clockRaw : UInt32) : VideoCard where
  fwVersion := 0x0300
  fwCaps := 0x0502
  liveCapability := vcapLiveCapabilityValue
  metadataCap := captureMetadataCap
  crop := {
    commits := 0
    completed := 0
    request := none
    appliedRaw := vcapControlPack ⟨0, 1, 0, 0, 0, 0⟩
    effectiveCrop := 0
    stagedHi := 0
    stagedLo := 0
    standardValid := true
    ntsc := false
    rejected := false
    appliedValid := true
    replaces := false }
  phase := {
    capability := captureCapC28
    clockRaw
    target := 0
    status := 0xa000 }
  geometry := {
    present := true
    regsAbi := 1
    key := 0
    stagedWidth := 0
    feature := 0
    regWidth := 0
    regStaged := false
    state := ⟨0, 0, 720, 576, 0, 0, 1⟩
    window := (0, 0) }

def plainWorld (clockRaw : UInt32) : VideoWorld where
  card := plainCard clockRaw
  live := .zero
  cfg := plainSettings
  cancel := false
  message := ""
  history := .empty

/-- The hardware applies a crop at once, and the user goes on, or does not. -/
def promptly (running : Bool) : VideoAnswer where
  events := [.cropApply 0]
  running := running
  align := .restored ""
  sampling := .unknown 0

theorem plainWorld_coherent (clockRaw : UInt32)
    : (plainWorld clockRaw).card.geometry.Coherent := by
  intro _
  rfl

theorem video_save_check_staged_crop
    : ∃ answers marks w, (saveRun [.setCrop 10 true 20 true]).exec (plainWorld 0x17) answers
        = some (marks, w, .done true) ∧ w.live.cropTouched = true ∧ CropStaged w := by
  have hends : (saveRun [.setCrop 10 true 20 true]).ends (plainWorld 0x17)
      (List.replicate 400 (promptly true))
      (fun r w => r && w.live.cropTouched && !w.history.strayed) = true := by
    decide +kernel
  obtain ⟨marks, w, r, hrun, htest⟩ := exists_of_ends hends
  simp only [Bool.and_eq_true, Bool.not_eq_true'] at htest
  obtain ⟨⟨rfl, htouched⟩, hstrayed⟩ := htest
  have h := video_save_check_staged (plainWorld_coherent 0x17) hrun hstrayed
  exact ⟨_, marks, w, hrun, htouched, h.1 htouched⟩

/-- The cancelled crop is applied later, and the confirmed sample mode takes it with it. -/
theorem video_save_check_overlooks_cancelled_crop
    : (CropStaged (plainWorld 0x17) ∧ PhaseStaged (plainWorld 0x17)
          ∧ WindowStaged (plainWorld 0x17))
        ∧ ∃ answers marks w, (saveRun [.setCrop 10 true 20 true, .setSample 1]).exec
          (plainWorld 0x17) answers = some (marks, w, .done true)
          ∧ w.live.cropTouched = true ∧ ¬CropStaged w := by
  refine ⟨⟨?_, ?_, ?_⟩, ?_⟩
  . exact ⟨rfl, by decide +kernel⟩
  . exact ⟨by decide +kernel, by decide +kernel⟩
  . exact ⟨by decide +kernel, by decide +kernel⟩
  . have hends : (saveRun [.setCrop 10 true 20 true, .setSample 1]).ends (plainWorld 0x17)
        (List.replicate 62 (promptly true) ++ promptly false
          :: List.replicate 300 (promptly true))
        (fun r w => r && w.live.cropTouched && w.card.crop.appliedRaw
          != vcapControlPack (stagedControl w.stagedPath w.cfg.edit)) = true := by
      decide +kernel
    obtain ⟨marks, w, r, hrun, htest⟩ := exists_of_ends hends
    simp only [Bool.and_eq_true, bne_iff_ne] at htest
    obtain ⟨⟨rfl, htouched⟩, hraw⟩ := htest
    exact ⟨_, marks, w, hrun, htouched, fun hstaged => hraw hstaged.2⟩

/-- If every domain had an anchor when its first edit began, Revert finds back to there. -/
theorem video_revert_restored {xs : List VideoStep} {w w₁ w₂ : VideoWorld}
    {answers answers' : List VideoAnswer} {marks marks' : Trace VideoWorld Empty} {r : Bool}
    (hcoherent : w.card.geometry.Coherent)
    (hrun : (videoRun xs).exec w answers = some (marks, w₁, .done ()))
    (hrevert : videoRevert.exec w₁ answers' = some (marks', w₂, .done r))
    (hanchored : w₂.history.unanchored = false)
    : if r then
        touchedFlags w₂.live = (false, false, false)
          ∧ (∀ raw, w₂.history.cropEntry = some raw → CropAt raw w₂)
          ∧ (∀ phase, w₂.history.phaseEntry = some phase → PhaseAt phase w₂)
          ∧ ∀ size, w₂.history.windowEntry = some size → WindowAt size w₂
      else
        touchedFlags w₂.live = touchedFlags w₁.live := by
  have hended := exec_of_triple (triple_videoRun xs) (s := w) ⟨hcoherent, rfl⟩ hrun
    fun _ _ => trivial
  obtain ⟨_, _, hsound⟩ := hended.2
  have hended' := exec_of_triple (triple_videoRevert (touchedFlags w₁.live))
    ⟨hsound, rfl⟩ hrevert fun _ _ => trivial
  obtain ⟨r', hr, _, hreverted⟩ := hended'.2
  simp only [Stop.done.injEq] at hr
  rw [← hr] at hreverted
  cases r with
  | false => exact hreverted
  | true =>
    exact ⟨hreverted.1, hreverted.2.crop, hreverted.2.phase hanchored,
      hreverted.2.window hanchored⟩

theorem video_revert_restored_crop
    : ∃ answers answers' marks marks' w₁ w₂,
        (videoRun [.setCrop 10 true 20 true]).exec (plainWorld 0x17) answers
            = some (marks, w₁, .done ())
          ∧ videoRevert.exec w₁ answers' = some (marks', w₂, .done true)
          ∧ w₁.card.crop.appliedRaw ≠ (plainWorld 0x17).card.crop.appliedRaw
          ∧ CropAt (plainWorld 0x17).card.crop.appliedRaw w₂ := by
  have hends : (videoRun [.setCrop 10 true 20 true]).ends (plainWorld 0x17)
      (List.replicate 200 (promptly true))
      (fun _ w => w.card.crop.appliedRaw != (plainWorld 0x17).card.crop.appliedRaw
        && videoRevert.ends w (List.replicate 200 (promptly true)) fun r w => r
          && !w.history.unanchored
          && w.history.cropEntry == some (plainWorld 0x17).card.crop.appliedRaw) = true := by
    decide +kernel
  obtain ⟨marks, w₁, _, hrun, htest⟩ := exists_of_ends hends
  simp only [Bool.and_eq_true, bne_iff_ne] at htest
  obtain ⟨marks', w₂, r, hrevert, htest'⟩ := exists_of_ends htest.2
  simp only [Bool.and_eq_true, Bool.not_eq_true', beq_iff_eq] at htest'
  obtain ⟨⟨rfl, hanchored⟩, hentry⟩ := htest'
  have h := video_revert_restored (plainWorld_coherent 0x17) hrun hrevert hanchored
  exact ⟨_, _, marks, marks', w₁, w₂, hrun, hrevert, htest.1, h.2.1 _ hentry⟩

/-- The hardware does this before an access, and the user goes on. -/
def lateClock (events : List VideoEvent) : VideoAnswer where
  events := events
  running := true
  align := .restored ""
  sampling := .unknown 0

/-- Without a qualified clock the first edit of the phase has no anchor, and gets a later one. -/
theorem video_revert_misses_late_anchor
    : ∃ answers marks w, (do videoRun [.setPhase 5 true, .snapshot]; videoRevert : Video Bool).exec
        (plainWorld 0) answers = some (marks, w, .done true)
          ∧ w.history.phaseEntry = some 0 ∧ ¬PhaseAt 0 w := by
  have hends : (do videoRun [.setPhase 5 true, .snapshot]; videoRevert : Video Bool).ends
      (plainWorld 0)
      (List.replicate 47 (lateClock []) ++ List.replicate 8 (lateClock [.clock 0x17])
        ++ List.replicate 400 (lateClock [.clock 0x17, .phase 0xa005]))
      (fun r w => r && w.history.phaseEntry == some 0 && w.card.phase.state.applied != 0)
      = true := by
    decide +kernel
  obtain ⟨marks, w, r, hrun, htest⟩ := exists_of_ends hends
  simp only [Bool.and_eq_true, beq_iff_eq, bne_iff_ne] at htest
  obtain ⟨⟨rfl, hentry⟩, happlied⟩ := htest
  exact ⟨_, marks, w, hrun, hentry, fun hphase => happlied hphase.2⟩

end Run

end ZZTop
