import ZZ9000.ZZTop.VideoLemmas

/-!
This module contains the edits of the live native video: what an edit stages after its request is
confirmed is what it asked for, and every edit keeps the invariant.
-/

namespace ZZTop

open Concurrency ZZVcap ZZCfg
open Concurrency.Coroutine
open VideoWorld

variable {domain : VcapPhaseDomain} {u : Undecided}

section Staging

open SettingsState

theorem toUword_toNat (value : UInt16)
    : toUword value.toNat = value := by
  have hvalue := value.toNat_lt
  unfold toUword UInt16.ofInt
  rw [← UInt16.toNat_inj, UInt16.toNat_ofNat']
  omega

theorem toInt_toWord {value : Int} (h : -0x8000 ≤ value) (h' : value < 0x8000)
    : (toWord value).toInt = value := by
  unfold toWord
  rw [Int16.toInt_ofInt]
  apply Int.bmod_eq_of_le <;> simp [Int16.size] <;> omega

/-- An edit of the configuration that is about none of the live domains. -/
structure SameStaging (cfg cfg' : SettingsState) : Prop where
  crop : ∀ control, cropStagedAs control cfg'.edit = cropStagedAs control cfg.edit
  phase : ∀ domain, stagedPhase domain cfg'.edit = stagedPhase domain cfg.edit
  window : stagedWindow cfg'.edit = stagedWindow cfg.edit

theorem sameStaging_sample (cfg : SettingsState) (value : Int)
    : SameStaging cfg (cfg.settingsSet .sample value) where
  crop := fun _ => rfl
  phase := fun _ => rfl
  window := rfl

theorem sameStaging_profile (cfg : SettingsState) (value : Int)
    : SameStaging cfg (cfg.settingsSet .profile value) where
  crop := fun _ => rfl
  phase := fun _ => rfl
  window := rfl

theorem presence_ne_zero (present : Bool)
    : (presence present != 0) = present := by
  cases present <;> rfl

/-- What `stageCrop` stages. -/
def stagedCrop (h : UInt16) (hp : Bool) (v : UInt16) (vp : Bool) (cfg : SettingsState)
    : SettingsState :=
  let cfg := if hp then cfg.settingsSet .cropH h.toNat else cfg.settingsClear .cropH
  if vp then cfg.settingsSet .cropV v.toNat else cfg.settingsClear .cropV

theorem cropStagedAs_stagedCrop {control : VcapControl} {h v : UInt16} {hp vp : Bool}
    (cfg : SettingsState) (hh : control.cropH = h) (hv : control.cropV = v)
    (hhp : (control.cropHPresent != 0) = hp) (hvp : (control.cropVPresent != 0) = vp)
    : cropStagedAs control (stagedCrop h hp v vp cfg).edit = true := by
  have hH := toUword_toNat h
  have hV := toUword_toNat v
  unfold cropStagedAs stagedCrop
  rw [hh, hv, hhp, hvp]
  cases hp <;> cases vp <;>
    simp [settingsSet, settingsClear, edited, setField, clearField, updateDirty, hH, hV]

theorem stagedCrop_rest (h : UInt16) (hp : Bool) (v : UInt16) (vp : Bool) (cfg : SettingsState)
    : (∀ domain, stagedPhase domain (stagedCrop h hp v vp cfg).edit = stagedPhase domain cfg.edit)
        ∧ stagedWindow (stagedCrop h hp v vp cfg).edit = stagedWindow cfg.edit := by
  cases hp <;> cases vp <;> exact ⟨fun _ => rfl, rfl⟩

theorem stagedWindow_stageWindow (width height : UInt16) (cfg : SettingsState)
    : stagedWindow (stageWindow width height cfg).edit = (width, height) := by
  have hwidth := toUword_toNat width
  have hheight := toUword_toNat height
  unfold stagedWindow stageWindow
  by_cases hw : width = 0 <;> by_cases hh : height = 0 <;>
    simp [settingsSet, settingsClear, edited, setField, clearField, updateDirty, hw, hh, hwidth,
      hheight]

theorem stageWindow_rest (width height : UInt16) (cfg : SettingsState)
    : (∀ control, cropStagedAs control (stageWindow width height cfg).edit
          = cropStagedAs control cfg.edit)
        ∧ ∀ domain, stagedPhase domain (stageWindow width height cfg).edit
          = stagedPhase domain cfg.edit := by
  unfold stageWindow
  by_cases hw : width = 0 <;> by_cases hh : height = 0 <;>
    simp only [ne_eq, hw, hh, not_true_eq_false, not_false_eq_true, if_true, if_false] <;>
    exact ⟨fun _ => rfl, fun _ => rfl⟩

theorem stagedPhase_set {phase : Int} (cfg : SettingsState)
    (hvalid : vcapPhaseValid phase domain = true)
    : stagedPhase domain (cfg.settingsSet (phaseField domain) phase).edit = phase := by
  cases domain with
  | none => contradiction
  | e7m =>
    simp only [vcapPhaseValid, Bool.and_eq_true, decide_eq_true_eq] at hvalid
    exact toInt_toWord (by omega) (by omega)
  | c28 =>
    simp only [vcapPhaseValid, Bool.and_eq_true, decide_eq_true_eq] at hvalid
    exact toInt_toWord (by omega) (by omega)

theorem stagedPhase_clear (cfg : SettingsState)
    : stagedPhase domain (cfg.settingsClear (phaseField domain)).edit = 0 := by
  cases domain <;> rfl

theorem phaseField_rest (domain : VcapPhaseDomain) (phase : Int) (cfg : SettingsState)
    : (∀ control, cropStagedAs control (cfg.settingsSet (phaseField domain) phase).edit
          = cropStagedAs control cfg.edit)
        ∧ stagedWindow (cfg.settingsSet (phaseField domain) phase).edit = stagedWindow cfg.edit
        ∧ (∀ control, cropStagedAs control (cfg.settingsClear (phaseField domain)).edit
          = cropStagedAs control cfg.edit)
        ∧ stagedWindow (cfg.settingsClear (phaseField domain)).edit = stagedWindow cfg.edit := by
  cases domain <;> exact ⟨fun _ => rfl, rfl, fun _ => rfl, rfl⟩

theorem stageAutomatic_staged (domain : VcapPhaseDomain) (control : VcapControl)
    (cfg : SettingsState)
    : cropStagedAs (automatic control) (stageAutomatic domain cfg).edit = true
        ∧ stagedPhase domain (stageAutomatic domain cfg).edit = 0
        ∧ stagedWindow (stageAutomatic domain cfg).edit = (0, 0) := by
  cases domain <;> exact ⟨rfl, rfl, rfl⟩

end Staging

namespace Sound

variable {w : VideoWorld}

theorem withCfg (h : Sound domain u w) {cfg : SettingsState} (hsame : SameStaging w.cfg cfg)
    : Sound domain u { w with cfg } :=
  { h with
    stagedCrop := by
      have hstaged := h.stagedCrop
      cases hu : u.crop with
      | some control => simpa only [hu] using hstaged
      | none =>
        simp only [hu] at hstaged
        intro hstrayed htouched hconfirmed hvalid
        obtain ⟨control, hcontrol, hpack, hedit⟩ := hstaged hstrayed htouched hconfirmed hvalid
        exact ⟨control, hcontrol, hpack, by rw [hsame.crop]; exact hedit⟩
    stagedPhase := by
      have hstaged := h.stagedPhase
      cases hu : u.phase with
      | some phase => simpa only [hu] using hstaged
      | none =>
        simp only [hu] at hstaged
        intro hstrayed htouched hconfirmed
        rw [hsame.phase]
        exact hstaged hstrayed htouched hconfirmed
    stagedWindow := by
      have hstaged := h.stagedWindow
      cases hu : u.window with
      | some size => simpa only [hu] using hstaged
      | none =>
        simp only [hu] at hstaged
        intro hstrayed htouched hconfirmed
        show ZZTop.stagedWindow cfg.edit = _
        rw [hsame.window]
        exact hstaged hstrayed htouched hconfirmed }

/-- The crop that was asked for is staged. -/
theorem stageCrop {control : VcapControl} {cfg : SettingsState}
    (h : Sound domain { Undecided.nothing with crop := some control } w)
    (hvalid : control.valid = true) (hcrop : cropStagedAs control cfg.edit = true)
    (hphase : ∀ domain, ZZTop.stagedPhase domain cfg.edit = ZZTop.stagedPhase domain w.cfg.edit)
    (hwindow : ZZTop.stagedWindow cfg.edit = ZZTop.stagedWindow w.cfg.edit)
    : Sound domain .nothing { w with cfg } :=
  { h with
    stagedCrop := fun _ _ _ _ => ⟨control, hvalid, h.stagedCrop, hcrop⟩
    stagedPhase := by
      intro hstrayed htouched hconfirmed
      rw [hphase]
      exact h.stagedPhase hstrayed htouched hconfirmed
    stagedWindow := by
      intro hstrayed htouched hconfirmed
      show ZZTop.stagedWindow cfg.edit = _
      rw [hwindow]
      exact h.stagedWindow hstrayed htouched hconfirmed }

/-- A crop that is not touched may be staged in any way. -/
theorem stageUntouched {cfg : SettingsState} (h : Sound domain .nothing w)
    (huntouched : w.live.cropTouched = false)
    (hphase : ∀ domain, ZZTop.stagedPhase domain cfg.edit = ZZTop.stagedPhase domain w.cfg.edit)
    (hwindow : ZZTop.stagedWindow cfg.edit = ZZTop.stagedWindow w.cfg.edit)
    : Sound domain .nothing { w with cfg } :=
  { h with
    stagedCrop := by
      intro _ htouched
      rw [huntouched] at htouched
      contradiction
    stagedPhase := by
      intro hstrayed htouched hconfirmed
      rw [hphase]
      exact h.stagedPhase hstrayed htouched hconfirmed
    stagedWindow := by
      intro hstrayed htouched hconfirmed
      show ZZTop.stagedWindow cfg.edit = _
      rw [hwindow]
      exact h.stagedWindow hstrayed htouched hconfirmed }

end Sound

/-- A function keeps the invariant. -/
abbrev Steady (domain : VcapPhaseDomain) (c : Video α) : Prop :=
  Triple videoContract (Sound domain .nothing) c (fun _ => Sound domain .nothing)

theorem triple_refuse_sound (text : String)
    : Steady domain (refuse text) := by
  apply triple_refuse stable_sound
  intro w hw
  exact hw

theorem triple_accept_sound (text : String)
    : Steady domain (accept text) := by
  apply triple_accept stable_sound
  intro w hw
  exact hw

/-- What a successful refresh says. -/
def Refreshed (domain : VcapPhaseDomain) (u : Undecided) (r : Bool) (w : VideoWorld) : Prop :=
  Sound domain u w ∧ (r = true → w.live.supported = true ∧ w.live.cropAnchorValid = true)

theorem triple_refresh
    : Triple videoContract (Sound domain u) refreshLive (Refreshed domain u) := by
  apply triple_mono (K := fun w => Sound domain u w ∧ True)
    (triple_refreshLive (P := fun _ => True) (fun _ _ _ h => h) fun _ _ _ h => h)
  . intro w hw
    exact ⟨hw, trivial⟩
  . intro r w hw
    exact ⟨hw.1.1, fun hr => ⟨(hw.2 hr).1, (hw.2 hr).2.1⟩⟩

theorem triple_currentControl {P : VideoWorld → Prop}
    : Triple videoContract P currentControl
        (fun r w => P w ∧ vcapControlUnpack w.live.current.raw = r) := by
  apply triple_bind (J := fun s w => P w ∧ s = w)
  . apply triple_read
    intro w hw
    exact ⟨hw, rfl⟩
  . intro s
    apply triple_pure
    intro w hw
    rw [hw.2]
    exact ⟨hw.1, rfl⟩

theorem triple_videoCurrentPathMatches
    : Triple videoContract (Sound domain u) videoCurrentPathMatches (Refreshed domain u) := by
  apply triple_bind triple_refresh
  intro r
  apply triple_ite
  . intro hr
    apply triple_bind triple_currentControl
    intro control
    cases control with
    | none =>
      apply triple_pure
      intro w hw
      exact ⟨hw.1.1, by simp⟩
    | some control =>
      apply triple_bind (J := fun _ => Refreshed domain u r)
      . apply triple_read
        intro w hw
        exact hw.1
      . intro s
        apply triple_pure
        intro w hw
        exact ⟨hw.1, fun _ => hw.2 hr⟩
  . intro _
    apply triple_pure
    intro w hw
    exact ⟨hw.1, by simp⟩

/-- Read the state, and go on knowing it. -/
theorem triple_read_bind {P : VideoWorld → Prop} {f : VideoWorld → Video α}
    {J : α → VideoWorld → Prop}
    (hf : ∀ s, Triple videoContract (fun w => P w ∧ s = w) (f s) J)
    : Triple videoContract P (Coroutine.read >>= f) J := by
  apply triple_bind (J := fun s w => P w ∧ s = w)
  . apply triple_read
    intro w hw
    exact ⟨hw, rfl⟩
  . exact hf

theorem valid_of_crop {control : VcapControl} {raw : UInt32} {h v : UInt16} (hp vp : Bool)
    (hcontrol : vcapControlUnpack raw = some control) (hh : h ≤ vcapCropMax)
    (hv : v ≤ vcapCropMax)
    : VcapControl.valid { control with
        cropH := h, cropV := v, cropHPresent := presence hp, cropVPresent := presence vp }
        = true := by
  have hvalid := valid_of_vcapControlUnpack hcontrol
  simp only [VcapControl.valid, Bool.and_eq_true, decide_eq_true_eq] at hvalid ⊢
  refine ⟨⟨⟨⟨hvalid.1.1.1.1, hh⟩, hv⟩, ?_⟩, ?_⟩
  . cases hp <;> decide
  . cases vp <;> decide

theorem triple_stageCrop_untouched (h : UInt16) (hp : Bool) (v : UInt16) (vp : Bool)
    : Triple videoContract (fun w => Sound domain .nothing w ∧ w.live.cropTouched = false)
        (stageCrop h hp v vp) (fun _ => Sound domain .nothing) := by
  apply triple_modify_solo
  intro w hw
  have hrest := stagedCrop_rest h hp v vp w.cfg
  exact hw.1.stageUntouched hw.2 hrest.1 hrest.2

theorem triple_stageCrop {control : VcapControl} {h v : UInt16} {hp vp : Bool}
    (hvalid : control.valid = true) (hh : control.cropH = h) (hv : control.cropV = v)
    (hhp : (control.cropHPresent != 0) = hp) (hvp : (control.cropVPresent != 0) = vp)
    : Triple videoContract (Sound domain { Undecided.nothing with crop := some control })
        (stageCrop h hp v vp) (fun _ => Sound domain .nothing) := by
  apply triple_modify_solo
  intro w hw
  have hrest := stagedCrop_rest h hp v vp w.cfg
  exact hw.stageCrop hvalid (cropStagedAs_stagedCrop w.cfg hh hv hhp hvp) hrest.1 hrest.2

theorem triple_forgetSweep
    : Triple videoContract (Sound domain u)
        (onLive fun live => { live with sweepValid := false }) (fun _ => Sound domain u) := by
  apply triple_modify_solo
  intro w hw
  exact { hw with }

theorem steady_videoSetCrop (h : UInt16) (hp : Bool) (v : UInt16) (vp : Bool)
    : Steady domain (videoSetCrop h hp v vp) := by
  apply triple_ite
  . intro _
    apply triple_refuse_sound
  . intro hlarge
    simp only [Bool.or_eq_true, decide_eq_true_eq, not_or, UInt16.not_lt] at hlarge
    apply triple_read_bind
    intro s
    apply triple_ite
    . intro hsupported
      apply triple_bind (J := fun _ => Sound domain .nothing)
      . apply triple_of_pre _ (triple_stageCrop_untouched h hp v vp)
        intro w hw
        refine ⟨hw.1, hw.1.supported ?_⟩
        rw [← hw.2]
        simpa using hsupported
      . intro _
        apply triple_accept_sound
    . intro _
      apply triple_of_pre (K := Sound domain .nothing) fun w hw => hw.1
      apply triple_bind triple_videoCurrentPathMatches
      intro matched
      apply triple_ite
      . intro _
        apply triple_of_pre (K := Sound domain .nothing) fun w hw => hw.1
        apply triple_refuse_sound
      . intro hmatched
        apply triple_bind triple_currentControl
        intro control
        cases control with
        | none =>
          apply triple_of_pre (K := Sound domain .nothing) fun w hw => hw.1.1
          apply triple_refuse_sound
        | some control =>
          apply triple_of_fact (p := ∃ raw, vcapControlUnpack raw = some control)
          . intro w hw
            exact ⟨_, hw.2⟩
          . intro hcontrol
            obtain ⟨raw, hraw⟩ := hcontrol
            have hvalid := valid_of_crop hp vp hraw hlarge.1 hlarge.2
            apply triple_bind (J := CropEnds domain .nothing _)
            . apply triple_of_pre _ (triple_requestCrop _ _ rfl)
              intro w hw
              exact ⟨hw.1.1, hw.1.2 (by simpa using hmatched)⟩
            . intro r
              cases r with
              | false =>
                apply triple_pure
                intro w hw
                exact hw
              | true =>
                apply triple_bind
                . exact triple_stageCrop hvalid rfl rfl (presence_ne_zero hp)
                    (presence_ne_zero vp)
                . intro _
                  apply triple_bind triple_forgetSweep
                  intro _
                  apply triple_accept_sound

theorem triple_stageSample (sample : UInt16) (text : String)
    : Steady domain (stageSample sample text) := by
  apply triple_bind (J := fun _ => Sound domain .nothing)
  . apply triple_modify_solo
    intro w hw
    exact hw.withCfg (sameStaging_sample w.cfg _)
  . intro _
    apply triple_bind triple_forgetSweep
    intro _
    apply triple_accept_sound

/-- A crop that is not the staged one strays. -/
theorem triple_stray_crop {control : VcapControl} (hvalid : control.valid = true)
    : Triple videoContract (Sound domain { Undecided.nothing with crop := some control })
        (stray fun w => !cropStagedAs control w.cfg.edit) (fun _ => Sound domain .nothing) := by
  apply triple_modify_solo
  intro w hw
  exact { hw with
    stagedCrop := by
      intro hstrayed _ _ _
      simp only [Bool.or_eq_false_iff, Bool.not_eq_false'] at hstrayed
      exact ⟨control, hvalid, hw.stagedCrop, hstrayed.2⟩
    stagedPhase := by
      intro hstrayed
      simp only [Bool.or_eq_false_iff] at hstrayed
      exact hw.stagedPhase hstrayed.1
    stagedWindow := by
      intro hstrayed
      simp only [Bool.or_eq_false_iff] at hstrayed
      exact hw.stagedWindow hstrayed.1 }

theorem steady_videoSetSample (sample : UInt16)
    : Steady domain (videoSetSample sample) := by
  apply triple_ite
  . intro _
    apply triple_refuse_sound
  . intro hsample
    simp only [UInt16.not_lt] at hsample
    apply triple_read_bind
    intro s
    apply triple_of_pre (K := Sound domain .nothing) fun w hw => hw.1
    apply triple_ite
    . intro _
      apply triple_stageSample
    . intro _
      apply triple_bind triple_refresh
      intro refreshed
      apply triple_ite
      . intro _
        apply triple_of_pre (K := Sound domain .nothing) fun w hw => hw.1
        apply triple_refuse_sound
      . intro hrefreshed
        apply triple_bind triple_currentControl
        intro control
        cases control with
        | none =>
          apply triple_of_pre (K := Sound domain .nothing) fun w hw => hw.1.1
          apply triple_refuse_sound
        | some control =>
          apply triple_read_bind
          intro s
          apply triple_ite
          . intro _
            apply triple_of_pre (K := Sound domain .nothing) fun w hw => hw.1.1.1
            apply triple_stageSample
          . intro _
            apply triple_of_fact (p := ∃ raw, vcapControlUnpack raw = some control)
            . intro w hw
              exact ⟨_, hw.1.2⟩
            . intro hcontrol
              obtain ⟨raw, hraw⟩ := hcontrol
              have hvalid := valid_of_vcapControlUnpack hraw
              apply triple_bind (J := CropEnds domain .nothing { control with sample })
              . apply triple_of_pre _ (triple_requestCrop _ _ rfl)
                intro w hw
                exact ⟨hw.1.1.1, hw.1.1.2 (by simpa using hrefreshed)⟩
              . intro r
                cases r with
                | false =>
                  apply triple_pure
                  intro w hw
                  exact hw
                | true =>
                  apply triple_bind (J := fun _ => Sound domain .nothing)
                  . apply triple_stray_crop
                    simp only [VcapControl.valid, Bool.and_eq_true, decide_eq_true_eq]
                      at hvalid ⊢
                    exact ⟨⟨⟨⟨⟨hsample, hvalid.1.1.1.1.2⟩, hvalid.1.1.1.2⟩, hvalid.1.1.2⟩,
                      hvalid.1.2⟩, hvalid.2⟩
                  . intro _
                    apply triple_stageSample

/-- The phase that was asked for is staged, or strays. -/
theorem triple_stagePhase {phase : Int} (present : Bool)
    (hvalid : vcapPhaseValid phase domain = true)
    : Triple videoContract (Sound domain { Undecided.nothing with phase := some phase })
        (stagePhase domain phase present) (fun _ => Sound domain .nothing) := by
  apply triple_ite
  . intro _
    apply triple_modify_solo
    intro w hw
    have hrest := phaseField_rest domain phase w.cfg
    exact { hw with
      stagedCrop := by
        intro hstrayed htouched hconfirmed htarget
        obtain ⟨control, hcontrol, hpack, hedit⟩ :=
          hw.stagedCrop hstrayed htouched hconfirmed htarget
        exact ⟨control, hcontrol, hpack, by rw [hrest.1]; exact hedit⟩
      stagedPhase := by
        intro _ _ _
        have htarget : w.live.phaseTarget = phase := hw.stagedPhase
        rw [stagedPhase_set w.cfg hvalid]
        exact htarget.symm
      stagedWindow := by
        intro hstrayed htouched hconfirmed
        show ZZTop.stagedWindow (w.cfg.settingsSet (phaseField domain) phase).edit = _
        rw [hrest.2.1]
        exact hw.stagedWindow hstrayed htouched hconfirmed }
  . intro _
    apply triple_bind (J := fun _ w => ∃ v : VideoWorld,
      Sound domain { Undecided.nothing with phase := some phase } v
        ∧ w = { v with cfg := v.cfg.settingsClear (phaseField domain) })
    . apply triple_modify_solo
      intro w hw
      exact ⟨w, hw, rfl⟩
    . intro _
      apply triple_modify_solo
      intro w hw
      obtain ⟨v, hv, rfl⟩ := hw
      have hrest := phaseField_rest domain phase v.cfg
      exact { hv with
        stagedCrop := by
          intro hstrayed htouched hconfirmed htarget
          simp only [Bool.or_eq_false_iff] at hstrayed
          obtain ⟨control, hcontrol, hpack, hedit⟩ :=
            hv.stagedCrop hstrayed.1 htouched hconfirmed htarget
          exact ⟨control, hcontrol, hpack, by rw [hrest.2.2.1]; exact hedit⟩
        stagedPhase := by
          intro hstrayed _ _
          simp only [Bool.or_eq_false_iff, bne_eq_false_iff_eq] at hstrayed
          have htarget : v.live.phaseTarget = phase := hv.stagedPhase
          rw [stagedPhase_clear, ← hstrayed.2]
          exact htarget.symm
        stagedWindow := by
          intro hstrayed htouched hconfirmed
          simp only [Bool.or_eq_false_iff] at hstrayed
          show ZZTop.stagedWindow (v.cfg.settingsClear (phaseField domain)).edit = _
          rw [hrest.2.2.2]
          exact hv.stagedWindow hstrayed.1 htouched hconfirmed }

theorem triple_videoSetPhase_of {P : VideoWorld → Prop} {phase : Int} (present : Bool)
    (hvalid : vcapPhaseValid phase domain = true) (hdomain : ∀ w, P w → w.live.domain = domain)
    (htouch : Triple videoContract P (touchPhase phase)
      (fun _ => PhaseAsked domain { Undecided.nothing with phase := some phase }))
    : Triple videoContract P (videoSetPhase phase present) (fun _ => Sound domain .nothing) := by
  apply triple_read_bind
  intro s
  apply triple_of_fact (p := s.live.domain = domain)
  . intro w hw
    rw [hw.2]
    exact hdomain w hw.1
  . intro heq
    dsimp only
    rw [heq]
    apply triple_of_pre (K := P) fun w hw => hw.1
    apply triple_ite
    . intro hinvalid
      rw [hvalid] at hinvalid
      simp only [Bool.not_true, Bool.or_false, decide_eq_true_eq] at hinvalid
      rw [hinvalid] at hvalid
      contradiction
    . intro _
      apply triple_bind (triple_requestPhase_of htouch rfl)
      intro r
      cases r with
      | false =>
        apply triple_pure
        intro w hw
        exact hw
      | true =>
        apply triple_bind (triple_stagePhase present hvalid)
        intro _
        apply triple_bind triple_forgetSweep
        intro _
        apply triple_accept_sound

theorem steady_videoSetPhase (phase : Int) (present : Bool)
    : Steady domain (videoSetPhase phase present) := by
  by_cases hvalid : vcapPhaseValid phase domain = true
  . apply triple_videoSetPhase_of present hvalid (fun w hw => hw.agrees)
    exact triple_touchPhase phase
  . apply triple_read_bind
    intro s
    apply triple_of_fact (p := s.live.domain = domain)
    . intro w hw
      rw [hw.2]
      exact hw.1.agrees
    . intro hdomain
      dsimp only
      rw [hdomain, if_pos (by simp [hvalid])]
      apply triple_of_pre (K := Sound domain .nothing) fun w hw => hw.1
      apply triple_refuse_sound

theorem steady_videoSetGeometry (width height : UInt16)
    : Steady domain (videoSetGeometry width height) := by
  apply triple_ite
  . intro _
    apply triple_refuse_sound
  . intro _
    apply triple_bind (triple_geometrySupported stable_sound)
    intro supported
    apply triple_ite
    . intro _
      apply triple_refuse_sound
    . intro _
      apply triple_bind (triple_requestGeometry width height rfl)
      intro r
      cases r with
      | false =>
        apply triple_pure
        intro w hw
        exact hw
      | true =>
        apply triple_bind (J := fun _ => Sound domain .nothing)
        . apply triple_modify_solo
          intro w hw
          have hrest := stageWindow_rest width height w.cfg
          exact { hw with
            stagedCrop := by
              intro hstrayed htouched hconfirmed htarget
              obtain ⟨control, hcontrol, hpack, hedit⟩ :=
                hw.stagedCrop hstrayed htouched hconfirmed htarget
              exact ⟨control, hcontrol, hpack, by rw [hrest.1]; exact hedit⟩
            stagedPhase := by
              intro hstrayed htouched hconfirmed
              rw [hrest.2]
              exact hw.stagedPhase hstrayed htouched hconfirmed
            stagedWindow := by
              intro _ _ _
              have hsize : (w.live.geometryWidth, w.live.geometryHeight) = (width, height) :=
                hw.stagedWindow
              show ZZTop.stagedWindow (stageWindow width height w.cfg).edit = _
              rw [stagedWindow_stageWindow]
              exact hsize.symm }
        . intro _
          apply triple_accept_sound

/-- The framing goes with a path that is left only while no crop is touched. -/
theorem triple_stageProfile (profile : UInt16) (moved : Bool)
    : Triple videoContract
        (fun w => Sound domain .nothing w ∧ (moved = true → w.live.cropTouched = false))
        (stageProfile profile moved) (fun _ => Sound domain .nothing) := by
  apply triple_bind
    (J := fun _ w => Sound domain .nothing w ∧ (moved = true → w.live.cropTouched = false))
  . apply triple_modify_solo
    intro w hw
    exact ⟨hw.1.withCfg (sameStaging_profile w.cfg _), hw.2⟩
  . intro _
    apply triple_read_bind
    intro s
    apply triple_of_pre
      (K := fun w => Sound domain .nothing w ∧ (moved = true → w.live.cropTouched = false))
      fun w hw => hw.1
    apply triple_ite
    . intro hmoved
      simp only [Bool.and_eq_true] at hmoved
      apply triple_bind (J := fun _ => Sound domain .nothing)
      . apply triple_modify_solo
        intro w hw
        exact hw.1.stageUntouched (hw.2 hmoved.2) (fun _ => rfl) rfl
      . intro _
        apply triple_accept_sound
    . intro _
      apply triple_of_pre (K := Sound domain .nothing) fun w hw => hw.1
      apply triple_accept_sound

/-- The crop is back at its anchor, or still touched; the state is the one from before. -/
def CropRestored (domain : VcapPhaseDomain) (u : Undecided) (live : VideoLiveState)
    (r : Option VcapSnapshot) (w : VideoWorld) : Prop :=
  (Sound domain u w ∧ live = w.live) ∧ (r.isSome = true → CropAt live.cropAnchor.raw w)

theorem triple_restoreCrop {live : VideoLiveState} (htouched : live.cropTouched = true)
    : Triple videoContract (fun w => Sound domain u w ∧ live = w.live) restoreCrop
        (CropRestored domain u live) := by
  have hstable : Stable (fun w => Sound domain u w ∧ live = w.live) :=
    stable_of_live (Q := fun live' => live = live') stable_sound
  have hfree : CropFree (fun w => Sound domain u w ∧ live = w.live) := by
    intro w crop hw
    refine ⟨hw.1.withCrop ?_, hw.2⟩
    rw [← hw.2]
    exact htouched
  apply triple_read_bind
  intro s
  apply triple_of_fact (p := s.live = live)
  . intro w hw
    rw [hw.2]
    exact hw.1.2.symm
  . intro hlive
    dsimp only
    rw [hlive]
    apply triple_of_pre (K := fun w => Sound domain u w ∧ live = w.live) fun w hw => hw.1
    apply triple_ite
    . intro _
      apply triple_mono (K := fun w => Sound domain u w ∧ live = w.live)
        (triple_applyRaw hstable hfree live.cropAnchor.raw false)
      . intro w hw
        exact hw
      . intro r w hw
        refine ⟨hw.1, ?_⟩
        intro hr
        obtain ⟨out, hout⟩ := Option.isSome_iff_exists.mp hr
        exact (hw.2 out hout).2
    . intro _
      apply triple_pure
      intro w hw
      exact ⟨hw, by simp⟩

theorem steady_videoSetProfile (profile : UInt16)
    : Steady domain (videoSetProfile profile) := by
  apply triple_read_bind
  intro s
  apply triple_ite
  . intro _
    apply triple_of_pre (K := Sound domain .nothing) fun w hw => hw.1
    apply triple_refuse_sound
  . intro _
    apply triple_ite
    . intro htouched
      simp only [Bool.and_eq_true] at htouched
      apply triple_bind (J := CropRestored domain .nothing s.live)
      . apply triple_of_pre _ (triple_restoreCrop htouched.1.2)
        intro w hw
        exact ⟨hw.1, by rw [hw.2]⟩
      . intro r
        cases r with
        | none =>
          apply triple_of_pre (K := Sound domain .nothing) fun w hw => hw.1.1
          apply triple_refuse_sound
        | some applied =>
          apply triple_bind (J := fun _ w => Sound domain .nothing w
            ∧ (_ → w.live.cropTouched = false))
          . apply triple_modify_solo
            intro w hw
            refine ⟨?_, fun _ => rfl⟩
            have hcrop := hw.2 rfl
            rw [hw.1.2] at hcrop
            exact { hw.1.1 with
              supported := fun _ => rfl
              crop := hw.1.1.crop.untouch fun _ => hcrop
              stagedCrop := by
                intro _ htouched
                contradiction }
          . intro _
            apply triple_stageProfile
    . intro huntouched
      apply triple_of_pre _ (triple_stageProfile profile _)
      intro w hw
      refine ⟨hw.1, ?_⟩
      intro hmoved
      simp only [Bool.and_eq_true, not_and, hmoved] at huntouched
      cases hsupported : w.live.supported with
      | false => exact hw.1.supported hsupported
      | true =>
        cases htouched : w.live.cropTouched with
        | false => rfl
        | true =>
          rw [← hw.2] at hsupported htouched
          have := huntouched ⟨hsupported, htouched⟩
          contradiction

/-- What a reset has asked for before the window. -/
def resetAsked (domain : VcapPhaseDomain) (control : VcapControl) : Undecided where
  crop := some (automatic control)
  phase := if domain = .none then none else some 0
  window := none

theorem valid_automatic {control : VcapControl} (h : control.valid = true)
    : (automatic control).valid = true := by
  simp only [VcapControl.valid, Bool.and_eq_true] at h
  simp only [VcapControl.valid, automatic, Bool.and_eq_true]
  exact ⟨⟨⟨⟨h.1.1.1.1, rfl⟩, rfl⟩, rfl⟩, rfl⟩

theorem triple_resetPhase {control : VcapControl}
    : Triple videoContract
        (Sound domain { Undecided.nothing with crop := some (automatic control) }) resetPhase
        (fun r => Sound domain (if r then resetAsked domain control
          else { Undecided.nothing with crop := some (automatic control) })) := by
  apply triple_read_bind
  intro s
  apply triple_of_fact (p := s.live.domain = domain)
  . intro w hw
    rw [hw.2]
    exact hw.1.agrees
  . intro hdomain
    rw [hdomain]
    apply triple_ite
    . intro hnone
      apply triple_pure
      intro w hw
      unfold resetAsked
      rw [if_pos hnone]
      exact hw.1
    . intro hsome
      apply triple_of_pre
        (K := Sound domain { Undecided.nothing with crop := some (automatic control) })
        fun w hw => hw.1
      apply triple_mono (triple_requestPhase 0 rfl) (fun w hw => hw)
      intro r w hw
      cases r with
      | false => exact hw
      | true =>
        unfold resetAsked
        rw [if_neg hsome]
        exact hw

/-- A reset that stops before the window was set leaves a crop, and maybe a phase. -/
theorem triple_stray_reset {control : VcapControl} (hvalid : control.valid = true)
    : Triple videoContract (Sound domain (resetAsked domain control))
        (stray fun w => !cropStagedAs (automatic control) w.cfg.edit
          || stagedPhase w.live.domain w.cfg.edit != 0)
        (fun _ => Sound domain .nothing) := by
  apply triple_modify_solo
  intro w hw
  exact { hw with
    stagedCrop := by
      intro hstrayed _ _ _
      simp only [Bool.or_eq_false_iff, Bool.not_eq_false'] at hstrayed
      exact ⟨automatic control, valid_automatic hvalid, hw.stagedCrop, hstrayed.2.1⟩
    stagedPhase := by
      intro hstrayed htouched hconfirmed
      simp only [Bool.or_eq_false_iff, bne_eq_false_iff_eq] at hstrayed
      have hasked := hw.stagedPhase
      unfold resetAsked at hasked
      by_cases hnone : domain = .none
      . simp only [hnone, if_true] at hasked
        rw [hnone]
        exact hasked hstrayed.1 htouched hconfirmed
      . simp only [hnone, if_false] at hasked
        show ZZTop.stagedPhase domain w.cfg.edit = w.live.phaseTarget
        rw [hasked, ← hw.agrees]
        exact hstrayed.2.2
    stagedWindow := by
      intro hstrayed
      simp only [Bool.or_eq_false_iff] at hstrayed
      exact hw.stagedWindow hstrayed.1 }

theorem triple_stageAutomatic {control : VcapControl} (hvalid : control.valid = true)
    : Triple videoContract
        (Sound domain { resetAsked domain control with window := some (0, 0) })
        (onCfg (stageAutomatic domain)) (fun _ => Sound domain .nothing) := by
  apply triple_modify_solo
  intro w hw
  have hstaged := stageAutomatic_staged domain control w.cfg
  exact { hw with
    stagedCrop := fun _ _ _ _ =>
      ⟨automatic control, valid_automatic hvalid, hw.stagedCrop, hstaged.1⟩
    stagedPhase := by
      intro hstrayed htouched hconfirmed
      have hasked := hw.stagedPhase
      unfold resetAsked at hasked
      by_cases hnone : domain = .none
      . simp only [hnone, if_true] at hasked
        rw [hnone]
        exact hasked hstrayed htouched hconfirmed
      . simp only [hnone, if_false] at hasked
        show ZZTop.stagedPhase domain (stageAutomatic domain w.cfg).edit = w.live.phaseTarget
        rw [hasked]
        exact hstaged.2.1
    stagedWindow := by
      intro _ _ _
      have hsize : (w.live.geometryWidth, w.live.geometryHeight) = (0, 0) := hw.stagedWindow
      show ZZTop.stagedWindow (stageAutomatic domain w.cfg).edit = _
      rw [hstaged.2.2]
      exact hsize.symm }

theorem triple_resetRest {control : VcapControl} (hvalid : control.valid = true)
    : Triple videoContract
        (Sound domain { Undecided.nothing with crop := some (automatic control) })
        (resetRest control) (fun _ => Sound domain .nothing) := by
  apply triple_bind triple_resetPhase
  intro r
  cases r with
  | false =>
    apply triple_bind (triple_stray_crop (valid_automatic hvalid))
    intro _
    apply triple_pure
    intro w hw
    exact hw
  | true =>
    apply triple_bind (triple_requestGeometry 0 0 rfl)
    intro r
    cases r with
    | false =>
      apply triple_bind (triple_stray_reset hvalid)
      intro _
      apply triple_pure
      intro w hw
      exact hw
    | true =>
      apply triple_read_bind
      intro s
      apply triple_of_fact (p := s.live.domain = domain)
      . intro w hw
        rw [hw.2]
        exact hw.1.agrees
      . intro hdomain
        dsimp only
        rw [hdomain]
        apply triple_bind
        . apply triple_of_pre _ (triple_stageAutomatic hvalid)
          intro w hw
          exact hw.1
        . intro _
          apply triple_bind triple_forgetSweep
          intro _
          apply triple_accept_sound

/-- The configuration has become automatic, but nothing was asked for. -/
def StagedOnly (domain : VcapPhaseDomain) (w : VideoWorld) : Prop :=
  ∃ v : VideoWorld, (Sound domain .nothing v ∧ v.live.supported = false)
    ∧ w = { v with cfg := stageAutomatic domain v.cfg }

theorem triple_stray_unsupported
    : Triple videoContract (StagedOnly domain)
        (stray fun w => (w.live.phaseTouched && w.live.phaseTarget != 0)
          || (w.live.geometryTouched
            && (w.live.geometryWidth, w.live.geometryHeight) != (0, 0)))
        (fun _ => Sound domain .nothing) := by
  apply triple_modify_solo
  intro w hw
  obtain ⟨v, ⟨hv, hsupported⟩, rfl⟩ := hw
  have hstaged := stageAutomatic_staged domain ⟨0, 0, 0, 0, 0, 0⟩ v.cfg
  exact { hv with
    stagedCrop := by
      intro _ htouched
      have huntouched := hv.supported hsupported
      rw [huntouched] at htouched
      contradiction
    stagedPhase := by
      intro hstrayed htouched _
      have htouched' : v.live.phaseTouched = true := htouched
      simp only [Bool.or_eq_false_iff, htouched', Bool.true_and, bne_eq_false_iff_eq]
        at hstrayed
      rw [hstaged.2.1, hstrayed.2.1]
    stagedWindow := by
      intro hstrayed htouched _
      have htouched' : v.live.geometryTouched = true := htouched
      simp only [Bool.or_eq_false_iff, htouched', Bool.true_and, bne_eq_false_iff_eq]
        at hstrayed
      show ZZTop.stagedWindow (stageAutomatic domain v.cfg).edit = _
      rw [hstaged.2.2]
      exact hstrayed.2.2.symm }

theorem steady_videoResetAutomatic
    : Steady domain videoResetAutomatic := by
  apply triple_read_bind
  intro s
  apply triple_ite
  . intro hsupported
    apply triple_read_bind
    intro s'
    apply triple_of_fact (p := s'.live.domain = domain)
    . intro w hw
      rw [hw.2]
      exact hw.1.1.agrees
    . intro hdomain
      dsimp only
      rw [hdomain]
      apply triple_bind (J := fun _ => StagedOnly domain)
      . apply triple_modify_solo
        intro w hw
        refine ⟨w, ⟨hw.1.1, ?_⟩, rfl⟩
        rw [← hw.1.2]
        simpa using hsupported
      . intro _
        apply triple_bind triple_stray_unsupported
        intro _
        apply triple_accept_sound
  . intro _
    apply triple_of_pre (K := Sound domain .nothing) fun w hw => hw.1
    apply triple_bind (triple_geometrySupported stable_sound)
    intro supported
    apply triple_ite
    . intro _
      apply triple_refuse_sound
    . intro _
      apply triple_bind triple_refresh
      intro refreshed
      apply triple_ite
      . intro _
        apply triple_of_pre (K := Sound domain .nothing) fun w hw => hw.1
        apply triple_refuse_sound
      . intro hrefreshed
        apply triple_bind triple_currentControl
        intro control
        cases control with
        | none =>
          apply triple_of_pre (K := Sound domain .nothing) fun w hw => hw.1.1
          apply triple_refuse_sound
        | some control =>
          apply triple_of_fact (p := control.valid = true)
          . intro w hw
            exact valid_of_vcapControlUnpack hw.2
          . intro hvalid
            apply triple_bind (J := CropEnds domain .nothing (automatic control))
            . apply triple_of_pre _ (triple_requestCrop _ _ rfl)
              intro w hw
              exact ⟨hw.1.1, hw.1.2 (by simpa using hrefreshed)⟩
            . intro r
              cases r with
              | false =>
                apply triple_pure
                intro w hw
                exact hw
              | true => exact triple_resetRest hvalid

theorem triple_videoSnapshot
    : Triple videoContract (Sound domain u) videoSnapshot (Refreshed domain u) := by
  apply triple_read_bind
  intro s
  apply triple_of_pre (K := Sound domain u) fun w hw => hw.1
  apply triple_ite
  . intro _
    exact triple_refresh
  . intro _
    apply triple_pure
    intro w hw
    exact ⟨hw, by simp⟩

theorem steady_videoAlignReady
    : Steady domain videoAlignReady := by
  apply triple_read_bind
  intro s
  apply triple_of_pre (K := Sound domain .nothing) fun w hw => hw.1
  apply triple_ite
  . intro _
    apply triple_refuse_sound
  . intro _
    apply triple_bind triple_refresh
    intro r
    apply triple_of_pre (K := Sound domain .nothing) fun w hw => hw.1
    apply triple_ite
    . intro _
      apply triple_refuse_sound
    . intro _
      apply triple_bind triple_videoCurrentPathMatches
      intro r
      apply triple_of_pre (K := Sound domain .nothing) fun w hw => hw.1
      apply triple_ite
      . intro _
        apply triple_refuse_sound
      . intro _
        apply triple_accept_sound

theorem steady_videoPhaseState
    : Steady domain videoPhaseState := by
  apply triple_bind (triple_phaseRead stable_sound)
  intro r
  cases r with
  | error result =>
    apply triple_of_pre (K := Sound domain .nothing) fun w hw => hw.1
    apply triple_bind (triple_writeMessage stable_sound _)
    intro _
    apply triple_pure
    intro w hw
    exact hw
  | ok state =>
    apply triple_of_fact (p := state.domain = domain)
    . intro w hw
      rw [hw.2.1]
      exact hw.1.engine
    . intro hdomain
      apply triple_bind (J := fun _ => Sound domain .nothing)
      . apply triple_mono (K := Sound domain .nothing)
          (VcapIo.triple_phaseCheck (acknowledges_of_stable stable_sound) state.applied)
        . intro w hw
          exact hw.1
        . intro result w hw
          exact hw.2
      . intro result
        apply triple_ite
        . intro _
          apply triple_bind (J := fun _ => Sound domain .nothing)
          . apply triple_modify_solo
            intro w hw
            exact { hw with agrees := hdomain }
          . intro _
            apply triple_pure
            intro w hw
            exact hw
        . intro _
          apply triple_bind (triple_writeMessage stable_sound _)
          intro _
          apply triple_pure
          intro w hw
          exact hw

/-- A calibration is only begun on such an engine. -/
def CanCalibrate (domain : VcapPhaseDomain) (r : Bool) (w : VideoWorld) : Prop :=
  Sound domain .nothing w ∧ (r = true → domain = .c28)

theorem triple_videoFindPhaseReady
    : Triple videoContract (Sound domain .nothing) videoFindPhaseReady
        (CanCalibrate domain) := by
  have hrefuse (text : String)
      : Triple videoContract (Sound domain .nothing) (refuse text) (CanCalibrate domain) := by
    apply triple_refuse stable_sound
    intro w hw
    exact ⟨hw, by simp⟩
  apply triple_bind steady_videoAlignReady
  intro ready
  apply triple_ite
  . intro _
    apply triple_pure
    intro w hw
    exact ⟨hw, by simp⟩
  . intro _
    apply triple_read_bind
    intro s
    apply triple_of_fact (p := s.live.domain = domain)
    . intro w hw
      rw [hw.2]
      exact hw.1.agrees
    . intro hdomain
      apply triple_of_pre (K := Sound domain .nothing) fun w hw => hw.1
      apply triple_ite
      . intro _
        apply hrefuse
      . intro hc28
        have hdomain' : domain = .c28 := by
          rw [← hdomain]
          exact Decidable.not_not.mp hc28
        apply triple_bind (VcapIo.triple_read32 (keeps_of_stable stable_sound) _)
        intro capability
        apply triple_ite
        . intro _
          apply hrefuse
        . intro _
          apply triple_bind steady_videoPhaseState
          intro r
          cases r with
          | none =>
            apply triple_pure
            intro w hw
            exact ⟨hw, by simp⟩
          | some phase =>
            apply triple_accept stable_sound
            intro w hw
            exact ⟨hw, fun _ => hdomain'⟩

/-- The editor has left such a crop, and this entry was applied before. -/
def LeftCrop (domain : VcapPhaseDomain) (entry appliedRaw : UInt32) (request : Option LiveRequest)
    (w : VideoWorld) : Prop :=
  ∃ v : VideoWorld, Sound domain .nothing v ∧ v.live.supported = true
    ∧ v.live.cropAnchorValid = true ∧ v.card.crop.appliedRaw = entry
    ∧ w = leaveCrop appliedRaw request v

/-- A crop of the editor is an edit like any other. -/
theorem sound_takeAligned {v : VideoWorld} {target appliedRaw : UInt32} {confirmed : Bool}
    {request : Option LiveRequest} (h : Sound domain .nothing v)
    (hsupported : v.live.supported = true) (hvalid : v.live.cropAnchorValid = true)
    (hstaged :
      match u.crop with
      | none => confirmed = false
      | some control => confirmed = true ∧ target = vcapControlPack control)
    (hphase : u.phase = none) (hwindow : u.window = none)
    : Sound domain u
        (takeAligned v.card.crop.appliedRaw target confirmed (leaveCrop appliedRaw request v)) :=
  { h with
    supported := by
      intro hnot
      have hnot' : v.live.supported = false := hnot
      rw [hsupported] at hnot'
      contradiction
    crop := h.crop.touch (fun _ => hvalid) fun raw hraw => hraw.2.symm
    stagedCrop := by
      cases hu : u.crop with
      | none =>
        simp only [hu] at hstaged
        rw [hstaged]
        intro _ _ hconfirmed
        contradiction
      | some control =>
        simp only [hu] at hstaged
        simp only [takeAligned, hstaged.1, if_true]
        exact hstaged.2
    stagedPhase := by
      rw [hphase]
      exact h.stagedPhase
    stagedWindow := by
      rw [hwindow]
      exact h.stagedWindow }

theorem steady_videoAlign
    : Steady domain videoAlign := by
  have hreturn : Steady domain (pure false : Video Bool) := by
    apply triple_pure
    intro w hw
    exact hw
  apply triple_bind steady_videoAlignReady
  intro ready
  apply triple_ite
  . intro _
    exact hreturn
  . intro _
    apply triple_bind triple_videoSnapshot
    intro snapshot
    apply triple_ite
    . intro _
      apply triple_of_pre (K := Sound domain .nothing) fun w hw => hw.1
      exact hreturn
    . intro hsnapshot
      apply triple_read_bind
      intro s
      dsimp only
      apply triple_bind (J := fun _ w => Refreshed domain .nothing snapshot w ∧ s = w)
      . apply triple_answer
        intro w _ hw
        exact hw
      . intro r
        have hleave (appliedRaw : UInt32) (request : Option LiveRequest)
            : Triple videoContract (fun w => Refreshed domain .nothing snapshot w ∧ s = w)
              (modify (leaveCrop appliedRaw request) : Video Unit)
              (fun _ => LeftCrop domain s.card.crop.appliedRaw appliedRaw request) := by
          apply triple_modify_solo
          intro w hw
          have hlive := hw.1.2 (by simpa using hsnapshot)
          exact ⟨w, hw.1.1, hlive.1, hlive.2, by rw [hw.2], rfl⟩
        cases r.align with
        | restored text =>
          apply triple_bind (J := fun _ => Sound domain .nothing)
          . apply triple_modify_solo
            intro w hw
            rw [hw.2]
            exact { hw.1.1 with
              crop := hw.1.1.crop.mono fun raw hraw => ⟨rfl, hraw.2⟩ }
          . intro _
            apply triple_refuse_sound
        | unknown appliedRaw request =>
          apply triple_bind (hleave appliedRaw request)
          intro _
          apply triple_bind (J := fun _ => Sound domain .nothing)
          . apply triple_modify_solo
            intro w hw
            obtain ⟨v, hv, hsupported, hvalid, hentry, rfl⟩ := hw
            rw [← hentry]
            exact sound_takeAligned hv hsupported hvalid rfl rfl rfl
          . intro _
            apply triple_refuse_sound
        | accepted control =>
          apply triple_ite
          . intro hcontrol
            apply triple_bind (hleave _ none)
            intro _
            apply triple_bind
              (J := fun _ => Sound domain { Undecided.nothing with crop := some control })
            . apply triple_modify_solo
              intro w hw
              obtain ⟨v, hv, hsupported, hvalid, hentry, rfl⟩ := hw
              rw [← hentry]
              exact sound_takeAligned hv hsupported hvalid ⟨rfl, rfl⟩ rfl rfl
            . intro _
              apply triple_bind triple_videoSnapshot
              intro _
              apply triple_bind (J := fun _ => Sound domain .nothing)
              . apply triple_of_pre _ (triple_stageCrop hcontrol rfl rfl rfl rfl)
                intro w hw
                exact hw.1
              . intro _
                apply triple_bind triple_forgetSweep
                intro _
                apply triple_accept_sound
          . intro _
            apply triple_of_pre (K := Sound domain .nothing) fun w hw => hw.1.1
            exact hreturn

theorem phaseAt_of_leavesAt {phase : Int} {status : UInt16} {w : VideoWorld}
    (h : leavesAt phase status w = true)
    : PhaseAt phase (leavePhase status w) := by
  simp only [leavesAt, Bool.and_eq_true, Bool.not_eq_true', beq_iff_eq] at h
  exact h

/-- The calibration has left the phase engine, and this entry was applied before. -/
def LeftPhase (domain : VcapPhaseDomain) (entry : Int) (status : UInt16) (w : VideoWorld)
    : Prop :=
  ∃ v : VideoWorld, Sound domain .nothing v ∧ PhaseAt entry v ∧ w = leavePhase status v

/-- The calibration has begun an edit of the phase. -/
def EnteredPhase (domain : VcapPhaseDomain) (entry : Int) (status : UInt16) (w : VideoWorld)
    : Prop :=
  ∃ v : VideoWorld, Sound domain .nothing v ∧ PhaseAt entry v
    ∧ ∃ sweep sweepValid, w = { enterPhase entry (leavePhase status v) with
      live := { v.live with sweep, sweepValid } }

/-- A phase of the calibration is an edit like any other. -/
theorem sound_enterPhase {v : VideoWorld} {entry : Int} {status : UInt16}
    (h : Sound domain .nothing v) (hentry : PhaseAt entry v)
    (hanchored : (enterPhase entry (leavePhase status v)).history.unanchored = false)
    : Anchored true v.live.phaseAnchorValid (v.history.phaseEntry.or (some entry))
        v.live.phaseAnchor (fun phase => PhaseAt phase (leavePhase status v)) := by
  simp only [enterPhase, leavePhase, Bool.or_eq_false_iff, Bool.and_eq_false_imp] at hanchored
  apply (h.phase hanchored.1).touch
  . intro hnone
    simpa [hnone] using hanchored.2
  . intro b hb
    rw [← hb.2]
    exact hentry.2

theorem unanchored_of_enterPhase {entry : Int} {w : VideoWorld}
    (h : (enterPhase entry w).history.unanchored = false)
    : w.history.unanchored = false := by
  simp only [enterPhase, Bool.or_eq_false_iff] at h
  exact h.1

theorem triple_touchPhase_entered {entry : Int} {status : UInt16} (phase : Int)
    : Triple videoContract (EnteredPhase domain entry status) (touchPhase phase)
        (fun _ => PhaseAsked domain { Undecided.nothing with phase := some phase }) := by
  apply triple_modify_solo
  intro w hw
  obtain ⟨v, hv, hentry, sweep, sweepValid, rfl⟩ := hw
  have hsome : (v.history.phaseEntry.or (some entry)).isNone = false := by
    cases v.history.phaseEntry <;> rfl
  have hkept (applied : Int)
      : (v.history.phaseEntry.or (some entry)).or (some applied)
        = v.history.phaseEntry.or (some entry) := by
    cases v.history.phaseEntry <;> rfl
  refine ⟨{ hv with
    phase := ?_
    window := ?_
    stagedPhase := rfl }, rfl, rfl⟩
  . intro hanchored
    have hanchored' := unanchored_of_enterPhase hanchored
    have := sound_enterPhase hv hentry hanchored'
    simp only [enterPhase, leavePhase, hkept]
    exact { this with kept := by simp }
  . intro hanchored
    have hanchored' := unanchored_of_enterPhase hanchored
    exact hv.window (unanchored_of_enterPhase hanchored')

theorem steady_videoFindPhaseFrom (entry : Int) (hdomain : domain = .c28)
    : Steady domain (videoFindPhaseFrom entry) := by
  have hreturn : Steady domain (pure false : Video Bool) := by
    apply triple_pure
    intro w hw
    exact hw
  apply triple_read_bind
  intro s
  apply triple_ite
  . intro _
    apply triple_of_pre (K := Sound domain .nothing) fun w hw => hw.1
    apply triple_bind triple_forgetSweep
    intro _
    apply triple_refuse_sound
  . intro hcheck
    have hcurrent : ∀ w, s = w → PhaseAt entry w := by
      intro w hw
      have hsettled := VcapIo.settledAt_of_check (Decidable.not_not.mp hcheck)
      simp only [VcapPhaseState.settledAt, Bool.and_eq_true, Bool.not_eq_true', beq_iff_eq]
        at hsettled
      rw [← hw]
      exact ⟨hsettled.1.1.2, hsettled.2⟩
    apply triple_bind (J := fun _ w => Sound domain .nothing w ∧ s = w)
    . apply triple_answer
      intro w _ hw
      exact hw
    . intro r
      have hleave (status : UInt16)
          : Triple videoContract (fun w => Sound domain .nothing w ∧ s = w)
            (modify (leavePhase status) : Video Unit)
            (fun _ => LeftPhase domain entry status) := by
        apply triple_modify_solo
        intro w hw
        exact ⟨w, hw.1, hcurrent w hw.2, rfl⟩
      cases r.sampling with
      | restored cancelled text status =>
        apply triple_ite
        . intro hleaves
          have hphase := phaseAt_of_leavesAt hleaves
          apply triple_bind (J := fun _ => Sound domain .nothing)
          . apply triple_modify_solo
            intro w hw
            have hentry := hcurrent w hw.2
            rw [hw.2] at hphase
            exact { hw.1 with
              phase := fun hanchored => (hw.1.phase hanchored).mono fun b hb => by
                rw [← hb.2, hentry.2]
                exact hphase }
          . intro _
            apply triple_bind triple_forgetSweep
            intro _
            apply triple_refuse_sound
        . intro _
          apply triple_of_pre (K := Sound domain .nothing) fun w hw => hw.1
          exact hreturn
      | unknown status =>
        apply triple_bind (hleave status)
        intro _
        apply triple_bind (J := fun _ => Sound domain .nothing)
        . apply triple_modify_solo
          intro w hw
          obtain ⟨v, hv, hentry, rfl⟩ := hw
          exact { hv with
            phase := by
              intro hanchored
              exact { sound_enterPhase hv hentry hanchored with kept := by simp [losePhase] }
            window := fun hanchored => hv.window (unanchored_of_enterPhase hanchored)
            stagedPhase := by
              intro _ _ hconfirmed
              contradiction }
        . intro _
          apply triple_refuse_sound
      | selected chosen sweep status =>
        apply triple_ite
        . intro hchosen
          simp only [Bool.and_eq_true] at hchosen
          have hvalid : vcapPhaseValid chosen domain = true := by
            rw [hdomain]
            exact hchosen.2
          apply triple_bind (hleave status)
          intro _
          apply triple_bind (J := fun _ => EnteredPhase domain entry status)
          . apply triple_modify_solo
            intro w hw
            obtain ⟨v, hv, hentry, rfl⟩ := hw
            exact ⟨v, hv, hentry, v.live.sweep, v.live.sweepValid, rfl⟩
          . intro _
            apply triple_bind (J := fun _ => EnteredPhase domain entry status)
            . apply triple_modify_solo
              intro w hw
              obtain ⟨v, hv, hentry, _, _, rfl⟩ := hw
              exact ⟨v, hv, hentry, sweep, true, rfl⟩
            . intro _
              apply triple_bind
              . apply triple_videoSetPhase_of true hvalid _ (triple_touchPhase_entered chosen)
                intro w hw
                obtain ⟨v, hv, _, _, _, rfl⟩ := hw
                exact hv.agrees
              . intro set
                apply triple_ite
                . intro _
                  apply triple_bind (J := fun _ => Sound domain .nothing)
                  . apply triple_modify_solo
                    intro w hw
                    exact { hw with }
                  . intro _
                    apply triple_pure
                    intro w hw
                    exact hw
                . intro _
                  exact hreturn
        . intro _
          apply triple_of_pre (K := Sound domain .nothing) fun w hw => hw.1
          exact hreturn

theorem steady_videoFindPhase
    : Steady domain videoFindPhase := by
  apply triple_bind triple_videoFindPhaseReady
  intro ready
  apply triple_ite
  . intro _
    apply triple_pure
    intro w hw
    exact hw.1
  . intro hready
    apply triple_of_fact (p := domain = .c28)
    . intro w hw
      exact hw.2 (by simpa using hready)
    . intro hdomain
      apply triple_bind (J := PhaseReads (Sound domain .nothing))
      . apply triple_of_pre _ (triple_phaseRead stable_sound)
        intro w hw
        exact hw.1
      . intro r
        cases r with
        | error result =>
          apply triple_pure
          intro w hw
          exact hw.1
        | ok phase =>
          apply triple_of_pre (K := Sound domain .nothing) fun w hw => hw.1
          apply triple_bind triple_refresh
          intro refreshed
          apply triple_of_pre (K := Sound domain .nothing) fun w hw => hw.1
          apply triple_ite
          . intro _
            apply triple_bind (triple_videoElapse stable_sound)
            intro _
            exact steady_videoFindPhaseFrom phase.applied hdomain
          . intro _
            apply triple_pure
            intro w hw
            exact hw

end ZZTop
