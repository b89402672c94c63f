import ZZ9000.ZZTop.AudioEditsLemmas

/-!
This module contains what `audio_revert` restores after a run of edits: the calls keep what they
wrote safe, and the steps of the revert leave no parameter pending.
-/

namespace ZZTop

variable {abi : AudioControlAbi}

section Runs

open AudioState

variable {s s' s'' : AudioState} {target : AudioTarget}

/-- The saved values stay, and so does what is kept of every parameter. -/
structure AudioState.Advances (abi : AudioControlAbi) (s s' : AudioState) : Prop where
  anchor : s'.revertAnchor = s.revertAnchor
  tried : ∀ target, s.fw.tried target = true → s'.fw.tried target = true
  good : (∀ target, s.Good abi target) → ∀ target, s'.Good abi target

theorem AudioState.Advances.refl : s.Advances abi s where
  anchor := rfl
  tried := fun _ h => h
  good := fun h => h

theorem AudioState.Advances.trans (h : s.Advances abi s') (h' : s'.Advances abi s'')
    : s.Advances abi s'' where
  anchor := h'.anchor.trans h.anchor
  tried := fun target htried => h'.tried target (h.tried target htried)
  good := fun hgood => h'.good (h.good hgood)

/-- A call advances the state, from what it does to the parameter it is about and what it does to
the others. -/
theorem advances_of_sameAt (target : AudioTarget)
    (hother : ∀ other, other ≠ target → s.SameAt abi other s')
    (hanchor : s'.revertAnchor = s.revertAnchor)
    (htried : s.fw.tried target = true → s'.fw.tried target = true)
    (hgood : s.Good abi target → s'.Good abi target)
    : s.Advances abi s' where
  anchor := hanchor
  tried := by
    intro other hother'
    by_cases h : other = target
    . subst h
      exact htried hother'
    . rw [(hother other h).tried]
      exact hother'
  good := by
    intro hall other
    by_cases h : other = target
    . subst h
      exact hgood (hall other)
    . exact (hother other h).good (hall other)

theorem audioInstallLiveState_fw (abi : AudioControlAbi) (s : AudioState)
    : (audioInstallLiveState abi s).2.fw = s.fw := by
  obtain ⟨boundary, model, hstate, _⟩ := audioInstallLiveState_snd abi s
  rw [hstate]

theorem advances_install : s.Advances abi (audioInstallLiveState abi s).2 where
  anchor := by
    obtain ⟨boundary, model, hstate, _⟩ := audioInstallLiveState_snd abi s
    rw [hstate]
  tried := by
    intro target htried
    rw [audioInstallLiveState_fw]
    exact htried
  good := fun hgood target => good_install (hgood target)

theorem advances_settled (text : String)
    : s.Advances abi (audioText text { s with calibrationPending := false }) where
  anchor := rfl
  tried := fun _ h => h
  good := fun hgood target => good_settled text (hgood target)

theorem advances_tick : s.Advances abi (audioTick abi s) := by
  unfold audioTick
  split
  next => exact Advances.refl
  next =>
    dsimp only
    split
    next => exact advances_install.trans (advances_settled _)
    next => exact advances_install

/-- A call whose outcome keeps what it writes safe. -/
theorem advances_run (call : AudioCall) (hkeeps : call.Keeps abi s)
    : s.Advances abi (call.run abi s) := by
  cases call with
  | selectScene scene =>
    have hother := fun other h => @sameAt_selectScene abi other scene s h
    exact advances_of_sameAt .active hother (hother .baseline (by simp)).anchor
      (tried_selectScene scene) (fun hgood => good_selectScene scene hgood hkeeps)
  | setBaseline paula ax =>
    have hother := fun other h => @sameAt_setBaseline abi other paula ax s h
    exact advances_of_sameAt .baseline hother (hother .active (by simp)).anchor
      (tried_setBaseline paula ax) (fun hgood => good_setBaseline paula ax hgood hkeeps)
  | setCalibration paula ax =>
    have hother := fun other h => @sameAt_setCalibration abi other paula ax s h
    exact advances_of_sameAt .calibration hother (hother .active (by simp)).anchor
      (tried_setCalibration paula ax) (fun hgood => good_setCalibration paula ax hgood hkeeps)
  | setSceneValue scene param value =>
    have hother := fun other h => @sameAt_setSceneValue abi other scene param value s h
    exact advances_of_sameAt (.value scene param) hother (hother .active (by simp)).anchor
      (tried_setSceneValue scene param value)
      (fun hgood => good_setSceneValue scene param value hgood hkeeps)
  | renameScene scene name =>
    have hother := fun other h => @sameAt_renameScene abi other scene name s h
    exact advances_of_sameAt (.name scene) hother (hother .active (by simp)).anchor
      (tried_renameScene scene name) (fun hgood => good_renameScene scene name hgood hkeeps)
  | tick => exact advances_tick

variable (abi) in
/-- The outcomes of the calls of a run under which all that they write stays safe. -/
def KeepsAll : List AudioCall → AudioState → Prop
  | [], _ => True
  | call :: calls, s => call.Keeps abi s ∧ KeepsAll calls (call.run abi s)

theorem advances_after (calls : List AudioCall) (hkeeps : KeepsAll abi calls s)
    : s.Advances abi (s.after abi calls) := by
  induction calls generalizing s with
  | nil => exact Advances.refl
  | cons call calls ih => exact (advances_run call hkeeps.1).trans (ih hkeeps.2)

theorem advances_wait (paula ax : UInt16) (polls : Nat) (s : AudioState)
    : s.Advances abi (audioWaitCalibration abi paula ax polls s).2 := by
  induction polls generalizing s with
  | zero =>
    unfold audioWaitCalibration
    dsimp only
    split
    next => exact advances_install.trans (advances_settled _)
    next => exact advances_install
  | succ polls ih =>
    unfold audioWaitCalibration
    dsimp only
    split
    next => exact advances_install.trans (advances_settled _)
    next => exact advances_install.trans (ih _)

theorem audioWaitCalibration_fw (abi : AudioControlAbi) (paula ax : UInt16) (polls : Nat)
    (s : AudioState)
    : (audioWaitCalibration abi paula ax polls s).2.fw = s.fw := by
  induction polls generalizing s with
  | zero =>
    unfold audioWaitCalibration
    dsimp only
    split
    next => exact audioInstallLiveState_fw abi s
    next => exact audioInstallLiveState_fw abi s
  | succ polls ih =>
    unfold audioWaitCalibration
    dsimp only
    split
    next => exact audioInstallLiveState_fw abi s
    next => rw [ih, audioInstallLiveState_fw]

end Runs

section Reverting

open AudioState

variable {s s' s'' : AudioState} {target : AudioTarget}

/-- A step of a revert: it leaves no parameter pending that was not, and the calibration alone. -/
structure AudioState.Settles (abi : AudioControlAbi) (s s' : AudioState) : Prop
    extends s.Advances abi s' where
  pends : ∀ target, s'.Pends abi target → s.Pends abi target
  calibration : s'.fw.held .calibration = s.fw.held .calibration

theorem AudioState.Settles.refl : s.Settles abi s where
  toAdvances := Advances.refl
  pends := fun _ h => h
  calibration := rfl

theorem AudioState.Settles.trans (h : s.Settles abi s') (h' : s'.Settles abi s'')
    : s.Settles abi s'' where
  toAdvances := h.toAdvances.trans h'.toAdvances
  pends := fun target hpends => h.pends target (h'.pends target hpends)
  calibration := h'.calibration.trans h.calibration

/-- A setter that returned `TRUE` with the saved value. -/
theorem settles_of_sameAt (target : AudioTarget) (hcalibration : target ≠ .calibration)
    (hother : ∀ other, other ≠ target → s.SameAt abi other s')
    (hadvances : s.Advances abi s') (hsettled : ¬s'.Differs abi target)
    : s.Settles abi s' where
  toAdvances := hadvances
  pends := by
    intro other hpends
    by_cases h : other = target
    . subst h
      exact absurd hpends.differs hsettled
    . exact (hother other h).pends.mp hpends
  calibration := (hother .calibration hcalibration.symm).held

/-- A baseline write that returned `TRUE` was accepted, and the model shows it. -/
theorem audioSetBaseline_true {paula ax : UInt16} (h : (audioSetBaseline abi paula ax s).1 = true)
    : (s.replies s.asked).accepted = true
        ∧ (audioSetBaseline abi paula ax s).2.model.basePaula = paula
        ∧ (audioSetBaseline abi paula ax s).2.model.baseAx = ax := by
  unfold audioSetBaseline at *
  dsimp only at *
  split at h
  next => cases h
  next hidle =>
    rw [if_neg hidle]
    split at h
    next => cases h
    next haccepted =>
      rw [if_neg haccepted]
      rw [audioSceneWriteCommit, audioWriteAccepted_fst] at haccepted
      exact ⟨by simpa using haccepted, rfl, rfl⟩

theorem settles_setBaseline {wanted : AudioModel} (hwanted : s.revertAnchor = wanted)
    (h : (audioSetBaseline abi wanted.basePaula wanted.baseAx s).1 = true)
    : s.Settles abi (audioSetBaseline abi wanted.basePaula wanted.baseAx s).2
        ∧ ¬(audioSetBaseline abi wanted.basePaula wanted.baseAx s).2.Pends abi .baseline := by
  have htrue := audioSetBaseline_true h
  have hadvances : s.Advances abi (audioSetBaseline abi wanted.basePaula wanted.baseAx s).2 :=
    advances_run (.setBaseline _ _) (fun _ => Or.inl htrue.1)
  have hsettled : ¬(audioSetBaseline abi wanted.basePaula wanted.baseAx s).2.Differs abi
      .baseline := by
    simp only [Differs, hadvances.anchor, hwanted, htrue, ne_eq, not_true_eq_false, or_self,
      not_false_eq_true]
  refine ⟨?_, fun hpends => hsettled hpends.differs⟩
  exact settles_of_sameAt .baseline (by simp)
    (fun other hother => sameAt_setBaseline _ _ s hother) hadvances hsettled

theorem audioSelectScene_true {scene : UInt16} (h : (audioSelectScene abi scene s).1 = true)
    : ((s.replies s.asked).status = .ok
          ∨ ((s.replies s.asked).status = .timeout ∧ (s.replies (s.asked + 1)).answers = true))
        ∧ (audioSelectScene abi scene s).2.model.active = scene := by
  unfold audioSelectScene at *
  dsimp only at *
  split at h
  next => cases h
  next hidle =>
    rw [if_neg hidle]
    split at h
    next hok => exact ⟨Or.inl hok, rfl⟩
    next htimeout =>
      split at h
      next => cases h
      next live hlive =>
        split at h
        next => cases h
        next hactive =>
          rw [if_neg hactive]
          rw [audioControlStateGet_fst] at hlive
          split at hlive
          next hanswers => exact ⟨Or.inr ⟨htimeout, hanswers⟩, rfl⟩
          next => cases hlive
    next => cases h

theorem settles_selectScene {wanted : AudioModel} (hwanted : s.revertAnchor = wanted)
    (h : (audioSelectScene abi wanted.active s).1 = true)
    : s.Settles abi (audioSelectScene abi wanted.active s).2
        ∧ ¬(audioSelectScene abi wanted.active s).2.Pends abi .active := by
  have htrue := audioSelectScene_true h
  have hadvances : s.Advances abi (audioSelectScene abi wanted.active s).2 :=
    advances_run (.selectScene _) (fun _ _ => or_assoc.mp (Or.inl htrue.1))
  have hsettled : ¬(audioSelectScene abi wanted.active s).2.Differs abi .active := by
    simp only [Differs, hadvances.anchor, hwanted, htrue, ne_eq, not_true_eq_false,
      not_false_eq_true]
  refine ⟨?_, fun hpends => hsettled hpends.differs⟩
  exact settles_of_sameAt .active (by simp)
    (fun other hother => sameAt_selectScene _ s hother) hadvances hsettled

theorem audioSetSceneValue_true {scene param value : UInt16} {field : AudioField}
    (hfield : audioSceneValue abi param = some field)
    (h : (audioSetSceneValue abi scene param value s).1 = true)
    : (s.replies s.asked).accepted = true
        ∧ ((audioSetSceneValue abi scene param value s).2.model.scenes scene).read field
          = value := by
  unfold audioSetSceneValue at *
  rw [hfield] at *
  dsimp only at *
  split at h
  next => cases h
  next hidle =>
    rw [if_neg hidle]
    split at h
    next => split at h <;> cases h
    next haccepted =>
      rw [if_neg haccepted]
      rw [audioSceneWriteCommit, audioWriteAccepted_fst] at haccepted
      refine ⟨by simpa using haccepted, ?_⟩
      simp [audioRecordValue, audioMarkDirty]

theorem settles_setSceneValue {wanted : AudioModel} {scene param : UInt16} {field : AudioField}
    (hwanted : s.revertAnchor = wanted) (hfield : audioSceneValue abi param = some field)
    (h : (audioSetSceneValue abi scene param ((wanted.scenes scene).read field) s).1 = true)
    : s.Settles abi
          (audioSetSceneValue abi scene param ((wanted.scenes scene).read field) s).2
        ∧ ¬(audioSetSceneValue abi scene param ((wanted.scenes scene).read field) s).2.Pends abi
          (.value scene param) := by
  have htrue := audioSetSceneValue_true hfield h
  have hadvances : s.Advances abi
      (audioSetSceneValue abi scene param ((wanted.scenes scene).read field) s).2 :=
    advances_run (.setSceneValue _ _ _) (fun _ _ _ => Or.inl htrue.1)
  have hsettled : ¬(audioSetSceneValue abi scene param ((wanted.scenes scene).read field)
      s).2.Differs abi (.value scene param) := by
    simp only [Differs, hfield, Option.elim_some, hadvances.anchor, hwanted, htrue, ne_eq,
      not_true_eq_false, not_false_eq_true]
  refine ⟨?_, fun hpends => hsettled hpends.differs⟩
  exact settles_of_sameAt (.value scene param) (by simp)
    (fun other hother => sameAt_setSceneValue _ _ _ s hother) hadvances hsettled

theorem audioRenameScene_true {scene : UInt16} {name : List UInt8}
    (h : (audioRenameScene scene name s).1 = true)
    : (audioBurst s.replies audioNameChunks s.asked).1.accepted = true
        ∧ ((audioRenameScene scene name s).2.model.scenes scene).name
          = audioNewName scene name := by
  unfold audioRenameScene at *
  dsimp only at *
  split at h
  next => cases h
  next hidle =>
    rw [if_neg hidle]
    split at h
    next => cases h
    next haccepted =>
      rw [if_neg haccepted]
      rw [audioSceneRenameCall, audioWriteAccepted_fst] at haccepted
      refine ⟨by simpa using haccepted, ?_⟩
      simp [audioMarkDirty]

theorem settles_renameScene {wanted : AudioModel} {scene : UInt16}
    (hwanted : s.revertAnchor = wanted) (hkept : NameKept scene (wanted.scenes scene).name)
    (h : (audioRenameScene scene (wanted.scenes scene).name s).1 = true)
    : s.Settles abi (audioRenameScene scene (wanted.scenes scene).name s).2
        ∧ ¬(audioRenameScene scene (wanted.scenes scene).name s).2.Pends abi (.name scene) := by
  have htrue := audioRenameScene_true h
  have hadvances : s.Advances abi (audioRenameScene scene (wanted.scenes scene).name s).2 := by
    apply advances_run (.renameScene _ _)
    intro _ _
    dsimp only
    rw [if_pos htrue.1, hwanted]
    exact hkept
  have hsettled : ¬(audioRenameScene scene (wanted.scenes scene).name s).2.Differs abi
      (.name scene) := by
    rw [NameKept] at hkept
    simp only [Differs, hadvances.anchor, hwanted, htrue, hkept, ne_eq, not_true_eq_false,
      not_false_eq_true]
  refine ⟨?_, fun hpends => hsettled hpends.differs⟩
  exact settles_of_sameAt (.name scene) (by simp)
    (fun other hother => sameAt_renameScene _ _ s hother) hadvances hsettled

theorem audioRevertParams_ok {wanted : AudioModel} {scene : UInt16} {params : List UInt16}
    {ok : Bool} (h : (audioRevertParams abi wanted scene params (ok, s)).1 = true)
    : ok = true := by
  induction params generalizing ok s with
  | nil => exact h
  | cons param params ih =>
    unfold audioRevertParams at h
    split at h
    next => exact ih h
    next =>
      split at h
      next => exact ih h
      next =>
        dsimp only at h
        split at h
        next => exact ih h
        next => exact Bool.and_elim_left (ih h)

/-- The loop over the parameters leaves none of them pending. -/
theorem settles_params {wanted : AudioModel} {scene : UInt16} {params : List UInt16} {ok : Bool}
    (hwanted : s.revertAnchor = wanted)
    (h : (audioRevertParams abi wanted scene params (ok, s)).1 = true)
    : s.Settles abi (audioRevertParams abi wanted scene params (ok, s)).2
        ∧ ∀ param ∈ params, ¬(audioRevertParams abi wanted scene params (ok, s)).2.Pends abi
          (.value scene param) := by
  induction params generalizing ok s with
  | nil => exact ⟨Settles.refl, fun _ hmem => absurd hmem List.not_mem_nil⟩
  | cons param params ih =>
    -- a parameter that is passed over is not pending, and the rest of the loop keeps it so
    have hskip : ∀ ok, (audioRevertParams abi wanted scene params (ok, s)).1 = true
        → ¬s.Pends abi (.value scene param)
        → s.Settles abi (audioRevertParams abi wanted scene params (ok, s)).2
          ∧ ∀ param' ∈ param :: params, ¬(audioRevertParams abi wanted scene params
            (ok, s)).2.Pends abi (.value scene param') := by
      intro ok h hparam
      have ih := ih hwanted h
      refine ⟨ih.1, ?_⟩
      intro param' hmem hpends
      cases List.mem_cons.mp hmem with
      | inl heq =>
        rw [heq] at hpends
        exact hparam (ih.1.pends _ hpends)
      | inr hmem => exact ih.2 param' hmem hpends
    unfold audioRevertParams at h ⊢
    split at h
    next hbit =>
      rw [if_pos hbit]
      exact hskip ok h (fun hpends => hpends.changed hbit)
    next hbit =>
      rw [if_neg hbit]
      split at h
      next hnone =>
        apply hskip ok h
        intro hpends
        exact audioSceneValue_eq_none_iff.mp hnone hpends.revertible.2
      next field hfield =>
        dsimp only at h ⊢
        split at h
        next heq =>
          rw [if_pos heq]
          apply hskip ok h
          intro hpends
          have hdiffers := hpends.differs
          simp only [Differs, hfield, Option.elim_some, hwanted] at hdiffers
          exact hdiffers heq
        next hne =>
          rw [if_neg hne]
          have hset := Bool.and_elim_right (audioRevertParams_ok h)
          have hstep := settles_setSceneValue hwanted hfield hset
          have ih := ih (hstep.1.anchor.trans hwanted) h
          refine ⟨hstep.1.trans ih.1, ?_⟩
          intro param' hmem hpends
          cases List.mem_cons.mp hmem with
          | inl heq =>
            rw [heq] at hpends
            exact hstep.2 (ih.1.pends _ hpends)
          | inr hmem => exact ih.2 param' hmem hpends

theorem audioRevertScenes_ok {wanted : AudioModel} {scenes : List UInt16} {ok : Bool}
    (h : (audioRevertScenes abi wanted scenes (ok, s)).1 = true)
    : ok = true := by
  cases ok with
  | true => rfl
  | false =>
    cases scenes with
    | nil => exact h
    | cons scene scenes => exact h

/-- A parameter of one of the scenes. -/
def AudioTarget.Of (scenes : List UInt16) : AudioTarget → Prop
  | .value scene _ => scene ∈ scenes
  | .name scene => scene ∈ scenes
  | _ => False

/-- The name of a scene after its parameters: sent, or not pending. -/
theorem settles_name {wanted : AudioModel} {scene : UInt16} {ok : Bool} {r : Bool × AudioState}
    (hwanted : s.revertAnchor = wanted) (hgood : s.Good abi (.name scene))
    (hr : r = if ok && s.changedNames scene
      && (s.model.scenes scene).name != (wanted.scenes scene).name then
        audioRenameScene scene (wanted.scenes scene).name s else (ok, s))
    (h : r.1 = true)
    : s.Settles abi r.2 ∧ ¬r.2.Pends abi (.name scene) := by
  split at hr
  next hsent =>
    subst hr
    simp only [Bool.and_eq_true] at hsent
    have hkept := hgood.named scene rfl hsent.1.2
    rw [hwanted] at hkept
    exact settles_renameScene hwanted hkept h
  next hskipped =>
    subst hr
    have hok : ok = true := h
    refine ⟨Settles.refl, ?_⟩
    intro hpends
    have hchanged : s.changedNames scene = true := hpends.changed
    have hdiffers : (s.model.scenes scene).name ≠ (s.revertAnchor.scenes scene).name :=
      hpends.differs
    rw [hwanted] at hdiffers
    simp only [hok, hchanged, Bool.and_self, Bool.true_and, bne_iff_ne, ne_eq] at hskipped
    exact hskipped hdiffers

/-- The loop over the scenes leaves no parameter of theirs pending. -/
theorem settles_scenes {wanted : AudioModel} {scenes : List UInt16} {ok : Bool}
    (hwanted : s.revertAnchor = wanted) (hgood : ∀ target, s.Good abi target)
    (h : (audioRevertScenes abi wanted scenes (ok, s)).1 = true)
    : s.Settles abi (audioRevertScenes abi wanted scenes (ok, s)).2
        ∧ ∀ target : AudioTarget, target.Of scenes
          → ¬(audioRevertScenes abi wanted scenes (ok, s)).2.Pends abi target := by
  induction scenes generalizing ok s with
  | nil =>
    refine ⟨Settles.refl, ?_⟩
    intro target hof
    cases target with
    | value scene param => exact absurd hof List.not_mem_nil
    | name scene => exact absurd hof List.not_mem_nil
    | _ => exact absurd hof not_false
  | cons scene scenes ih =>
    have hok := audioRevertScenes_ok h
    subst hok
    unfold audioRevertScenes at h ⊢
    simp only [Bool.not_true, Bool.false_eq_true, if_false, ← apply_ite] at h ⊢
    have hparams := @settles_params abi s wanted scene (audioRevertRange abi) true hwanted
    generalize audioRevertParams abi wanted scene (audioRevertRange abi) (true, s) = params at *
    generalize hr : (if (params.1 && params.2.changedNames scene
        && (params.2.model.scenes scene).name != (wanted.scenes scene).name) = true then
        audioRenameScene scene (wanted.scenes scene).name params.2 else params) = r at h ⊢
    have hr_ok : r.1 = true := audioRevertScenes_ok h
    have hok : params.1 = true := by
      split at hr
      next hsent => exact Bool.and_elim_left (Bool.and_elim_left hsent)
      next => rw [hr, hr_ok]
    have hparams := hparams hok
    have hgood := hparams.1.good hgood
    have hwanted := hparams.1.anchor.trans hwanted
    have hname := settles_name hwanted (hgood (.name scene)) hr.symm hr_ok
    have ih := ih (hname.1.anchor.trans hwanted) (hname.1.good hgood) h
    refine ⟨hparams.1.trans (hname.1.trans ih.1), ?_⟩
    intro target hof hpends
    cases target with
    | value scene' param =>
      cases List.mem_cons.mp hof with
      | inl hscene =>
        subst hscene
        have hmem := mem_audioRevertRange hpends.revertible.2
        exact hparams.2 param hmem (hname.1.pends _ (ih.1.pends _ hpends))
      | inr hmem => exact ih.2 (.value scene' param) hmem hpends
    | name scene' =>
      cases List.mem_cons.mp hof with
      | inl hscene =>
        subst hscene
        exact hname.2 (ih.1.pends _ hpends)
      | inr hmem => exact ih.2 (.name scene') hmem hpends
    | _ => exact hof

theorem audioSetCalibration_true {paula ax : UInt16}
    (h : (audioSetCalibration abi paula ax s).1 = true)
    : (s.replies s.asked).accepted = true
        ∧ (audioSetCalibration abi paula ax s).2.fw.held .calibration
          = abi.calibrationPack paula ax := by
  unfold audioSetCalibration at *
  dsimp only at *
  split at h
  next => cases h
  next hidle =>
    rw [if_neg hidle]
    split at h
    next => cases h
    next haccepted =>
      rw [if_neg haccepted]
      rw [audioSceneWriteCommit, audioWriteAccepted_fst] at haccepted
      have haccepted : (s.replies s.asked).accepted = true := by simpa using haccepted
      exact ⟨haccepted, held_taken _ _ _ _ s haccepted⟩

/-- A calibration that was tried is sent again where it was accepted, and else is as saved. -/
theorem advances_calibrated {wanted : AudioModel} {polls : Nat} {ok : Bool}
    {r : Bool × AudioState} (hwanted : s.revertAnchor = wanted)
    (hgood : ∀ target, s.Good abi target)
    (hr : r = if ok && s.changedCalibration then
        if (audioSetCalibration abi wanted.ceilingPaula wanted.ceilingAx s).1 then
          audioWaitCalibration abi wanted.ceilingPaula wanted.ceilingAx polls
            (audioSetCalibration abi wanted.ceilingPaula wanted.ceilingAx s).2
        else
          audioSetCalibration abi wanted.ceilingPaula wanted.ceilingAx s
      else (ok, s))
    (h : r.1 = true)
    : s.Advances abi r.2
        ∧ (s.fw.tried .calibration = true
          → r.2.fw.held .calibration = wanted.datum abi .calibration) := by
  split at hr
  next hchanged =>
    split at hr
    next hset =>
      subst hr
      have htrue := audioSetCalibration_true hset
      have hadvances : s.Advances abi
          (audioSetCalibration abi wanted.ceilingPaula wanted.ceilingAx s).2 :=
        advances_run (.setCalibration _ _) (fun _ => Or.inl htrue.1)
      refine ⟨hadvances.trans (advances_wait _ _ _ _), ?_⟩
      intro _
      rw [audioWaitCalibration_fw]
      exact htrue.2
    next hset =>
      subst hr
      exact absurd h hset
  next hchanged =>
    subst hr
    have hok : ok = true := h
    refine ⟨Advances.refl, ?_⟩
    intro htried
    rw [← hwanted]
    cases (hgood .calibration).safe htried with
    | inl hsafe => exact hsafe
    | inr hpends =>
      have hpending : s.changedCalibration = true := hpends.changed
      simp [hok, hpending] at hchanged

theorem settles_balanced {wanted : AudioModel} {ok : Bool} {r : Bool × AudioState}
    (hwanted : s.revertAnchor = wanted)
    (hr : r = if ok && s.changedBaseline
        && (s.model.basePaula != wanted.basePaula || s.model.baseAx != wanted.baseAx) then
        audioSetBaseline abi wanted.basePaula wanted.baseAx s else (ok, s))
    (h : r.1 = true)
    : s.Settles abi r.2 ∧ ¬r.2.Pends abi .baseline := by
  split at hr
  next hsent =>
    subst hr
    exact settles_setBaseline hwanted h
  next hskipped =>
    subst hr
    have hok : ok = true := h
    refine ⟨Settles.refl, ?_⟩
    intro hpends
    have hchanged : s.changedBaseline = true := hpends.changed
    have hdiffers := hpends.differs
    simp only [Differs, hwanted] at hdiffers
    simp only [hok, hchanged, Bool.and_self, Bool.true_and, Bool.or_eq_true, bne_iff_ne]
      at hskipped
    exact hskipped hdiffers

theorem settles_selected {wanted : AudioModel} {ok : Bool} {r : Bool × AudioState}
    (hwanted : s.revertAnchor = wanted)
    (hr : r = if ok && s.changedActive && s.model.active != wanted.active then
        audioSelectScene abi wanted.active s else (ok, s))
    (h : r.1 = true)
    : s.Settles abi r.2 ∧ ¬r.2.Pends abi .active := by
  split at hr
  next hsent =>
    subst hr
    exact settles_selectScene hwanted h
  next hskipped =>
    subst hr
    have hok : ok = true := h
    refine ⟨Settles.refl, ?_⟩
    intro hpends
    have hchanged : s.changedActive = true := hpends.changed
    have hdiffers := hpends.differs
    simp only [Differs, hwanted] at hdiffers
    simp only [hok, hchanged, Bool.and_self, Bool.true_and, bne_iff_ne] at hskipped
    exact hskipped hdiffers

theorem ok_of_step {ok sent : Bool} {r other : Bool × AudioState}
    (hr : r = if ok && sent then other else (ok, s)) (h : r.1 = true)
    : ok = true := by
  split at hr
  next hsent => exact Bool.and_elim_left hsent
  next =>
    subst hr
    exact h

/-- The steps before the scenes leave the levels and the active scene at what was saved. -/
theorem advances_levels {wanted : AudioModel} {polls : Nat × Nat}
    (hwanted : s.revertAnchor = wanted) (hgood : ∀ target, s.Good abi target)
    (h : (audioRevertLevels abi polls wanted s).1 = true)
    : s.Advances abi (audioRevertLevels abi polls wanted s).2
        ∧ (s.fw.tried .calibration = true
          → (audioRevertLevels abi polls wanted s).2.fw.held .calibration
            = wanted.datum abi .calibration)
        ∧ ¬(audioRevertLevels abi polls wanted s).2.Pends abi .baseline
        ∧ ¬(audioRevertLevels abi polls wanted s).2.Pends abi .active := by
  unfold audioRevertLevels at *
  dsimp only at *
  generalize hwaited : (if s.calibrationPending then
    audioWaitCalibration abi s.calibrationPaula s.calibrationAx polls.1 s else (true, s)) = waited
    at *
  generalize hcalibrated : (if waited.1 && waited.2.changedCalibration then
    if (audioSetCalibration abi wanted.ceilingPaula wanted.ceilingAx waited.2).1 then
      audioWaitCalibration abi wanted.ceilingPaula wanted.ceilingAx polls.2
        (audioSetCalibration abi wanted.ceilingPaula wanted.ceilingAx waited.2).2
    else audioSetCalibration abi wanted.ceilingPaula wanted.ceilingAx waited.2 else waited)
    = calibrated at *
  generalize hbalanced : (if calibrated.1 && calibrated.2.changedBaseline
    && (calibrated.2.model.basePaula != wanted.basePaula
      || calibrated.2.model.baseAx != wanted.baseAx) then
    audioSetBaseline abi wanted.basePaula wanted.baseAx calibrated.2 else calibrated)
    = balanced at *
  generalize hselected : (if balanced.1 && balanced.2.changedActive
    && balanced.2.model.active != wanted.active then audioSelectScene abi wanted.active balanced.2
    else balanced) = selected at *
  have hbalanced_ok : balanced.1 = true := by
    rw [Bool.and_assoc] at hselected
    exact ok_of_step hselected.symm h
  have hcalibrated_ok : calibrated.1 = true := by
    rw [Bool.and_assoc] at hbalanced
    exact ok_of_step hbalanced.symm hbalanced_ok
  have hwait : s.Advances abi waited.2 := by
    subst hwaited
    split
    next => exact advances_wait _ _ _ s
    next => exact Advances.refl
  have hgood := hwait.good hgood
  have hwanted := hwait.anchor.trans hwanted
  have hcalibrate := advances_calibrated hwanted hgood hcalibrated.symm hcalibrated_ok
  have hwanted := hcalibrate.1.anchor.trans hwanted
  have hbalance := settles_balanced hwanted hbalanced.symm hbalanced_ok
  have hwanted := hbalance.1.anchor.trans hwanted
  have hselect := settles_selected hwanted hselected.symm h
  refine ⟨?_, ?_, ?_, hselect.2⟩
  . exact hwait.trans (hcalibrate.1.trans (hbalance.1.trans hselect.1).toAdvances)
  . intro htried
    rw [hselect.1.calibration, hbalance.1.calibration]
    exact hcalibrate.2 (hwait.tried _ htried)
  . intro hpends
    exact hbalance.2 (hselect.1.pends _ hpends)

theorem audioRevert_settles {polls : Nat × Nat} (hgood : ∀ target, s.Good abi target)
    (h : (audioRevert abi polls s).1 = true)
    (htried : s.fw.tried target = true)
    : (audioRevert abi polls s).2.2.fw.held target = s.revertAnchor.datum abi target := by
  unfold audioRevert at *
  dsimp only at *
  split at h
  next => cases h
  next havailable =>
    rw [if_neg havailable]
    split at h
    next hok =>
      rw [if_pos hok]
      have hlevels := @advances_levels abi s s.revertAnchor polls rfl hgood
      generalize audioRevertLevels abi polls s.revertAnchor s = levels at *
      have hlevels := hlevels (audioRevertScenes_ok hok)
      have hscenes := settles_scenes hlevels.1.anchor (hlevels.1.good hgood) hok
      have hend := hlevels.1.trans hscenes.1.toAdvances
      generalize audioRevertScenes abi s.revertAnchor audioScenes levels = reverted at *
      have hsafe := (hend.good hgood target).safe (hend.tried target htried)
      rw [Safe, hend.anchor] at hsafe
      cases hsafe with
      | inl hsafe => exact hsafe
      | inr hpends =>
        -- nothing is pending after the loops, and a calibration was sent
        cases target with
        | active => exact absurd (hscenes.1.pends _ hpends) hlevels.2.2.2
        | baseline => exact absurd (hscenes.1.pends _ hpends) hlevels.2.2.1
        | calibration => exact hscenes.1.calibration.trans (hlevels.2.1 htried)
        | value scene param =>
          exact absurd hpends (hscenes.2 (.value scene param)
            (mem_audioScenes hpends.revertible.1))
        | name scene =>
          exact absurd hpends (hscenes.2 (.name scene) (mem_audioScenes hpends.revertible.1))
    next => cases h

/-- The editor as a save or a revert leaves it, with no write since. -/
structure AudioState.Clean (s : AudioState) : Prop where
  model : s.model = s.revertAnchor
  params : ∀ scene, s.changedParams scene = 0
  names : ∀ scene, s.changedNames scene = false
  active : s.changedActive = false
  baseline : s.changedBaseline = false
  calibration : s.changedCalibration = false
  tried : ∀ target, s.fw.tried target = false

/-- What the firmware reports of itself: a scene, and a baseline in its packed form. -/
structure AudioFirmware.Encoded (abi : AudioControlAbi) (fw : AudioFirmware) : Prop where
  active : ∃ scene : UInt16, fw.held .active = scene.toUInt32
  baseline : ∃ paula ax, fw.held .baseline = abi.balancePack paula ax

theorem AudioState.Clean.good (hclean : s.Clean) (hfw : s.fw.Encoded abi) (target : AudioTarget)
    : s.Good abi target where
  safe := by
    intro htried
    rw [hclean.tried] at htried
    cases htried
  recorded := by
    intro _ hdiffers
    cases target with
    | active => simp
    | baseline => simp
    | calibration => simp
    | value scene param =>
      simp only [Differs, hclean.model] at hdiffers
      cases hfield : audioSceneValue abi param with
      | none => simp [hfield] at hdiffers
      | some field => simp [hfield] at hdiffers
    | name scene => simp [Differs, hclean.model] at hdiffers
  named := by
    intro scene htarget hchanged
    subst htarget
    simp [Changed, hclean.names] at hchanged
  encoded := by
    intro htarget
    cases htarget with
    | inl htarget =>
      subst htarget
      obtain ⟨scene, hscene⟩ := hfw.active
      exact ⟨{ s.model with active := scene }, hscene⟩
    | inr htarget =>
      subst htarget
      obtain ⟨paula, ax, hbaseline⟩ := hfw.baseline
      exact ⟨{ s.model with basePaula := paula, baseAx := ax }, hbaseline⟩

/--
A revert that returns `TRUE` after any calls since the last save or revert, each of which kept what
it wrote safe, leaves every parameter that one of them was about at its saved value.
-/
theorem audioRevert_restores (calls : List AudioCall) (polls : Nat × Nat) (hclean : s.Clean)
    (hfw : s.fw.Encoded abi) (hkeeps : KeepsAll abi calls s)
    (h : (audioRevert abi polls (s.after abi calls)).1 = true)
    (htried : (s.after abi calls).fw.tried target = true)
    : (audioRevert abi polls (s.after abi calls)).2.2.fw.held target
        = s.revertAnchor.datum abi target := by
  have hafter := advances_after calls hkeeps
  rw [← hafter.anchor]
  exact audioRevert_settles (hafter.good (hclean.good hfw)) h htried

end Reverting

section Example

/-- An interface with both legs of the baseline in bytes. -/
def byteAbi : AudioControlAbi where
  paramLpf := 0
  paramEqBand1 := 1
  paramEqBand10 := 10
  paramPrefactor := 11
  paramVolume := 12
  paramPan := 13
  ceilingMin := 1
  ceilingMax := 4095
  balancePack paula ax := UInt32.ofNat (paula.toNat % 256 * 256 + ax.toNat % 256)
  balanceCh1 word := UInt16.ofNat (word.toNat / 256 % 256)
  balanceCh2 word := UInt16.ofNat (word.toNat % 256)
  calibrationPack paula ax := UInt32.ofNat (paula.toNat * 65536 + ax.toNat)
  lpf_le := by
    intro param _
    exact UInt16.zero_le
  le_pan := by
    intro param h
    rw [UInt16.le_iff_toNat_le]
    simp only [← UInt16.toNat_inj, UInt16.le_iff_toNat_le] at h
    simp at h ⊢
    omega
  pan_lt := by decide
  balance_repack paula ax := by
    apply UInt32.toNat_inj.mp
    simp only [UInt32.toNat_ofNat', UInt16.toNat_ofNat']
    omega

def savedModel : AudioModel where
  scenes scene := ⟨23900, fun _ => 50, 50, 100, 50, audioSceneLabel scene⟩
  active := 0
  basePaula := 36
  baseAx := 72
  ceilingPaula := 48
  ceilingAx := 80

/-- The editor after a save, with the answers that it is going to get. -/
def savedState (replies : Nat → AudioReply) : AudioState where
  model := savedModel
  revertAnchor := savedModel
  boundary := 160
  editGeneration := 0
  changedParams _ := 0
  changedNames _ := false
  changedActive := false
  changedBaseline := false
  changedCalibration := false
  available := true
  dirty := false
  savePending := false
  calibrationPending := false
  calibrationPaula := 0
  calibrationAx := 0
  unavailable := ""
  lastError := ""
  fw := ⟨savedModel.datum byteAbi, fun _ => false⟩
  replies := replies
  asked := 0

theorem savedState_clean (replies : Nat → AudioReply) : (savedState replies).Clean where
  model := rfl
  params := fun _ => rfl
  names := fun _ => rfl
  active := rfl
  baseline := rfl
  calibration := rfl
  tried := fun _ => rfl

theorem savedState_encoded (replies : Nat → AudioReply)
    : (savedState replies).fw.Encoded byteAbi where
  active := ⟨0, rfl⟩
  baseline := ⟨36, 72, rfl⟩

/-- The value that a lost rollback may have left is recorded, and the revert sends the saved one. -/
theorem audioRevert_restores_lost_value
    : (audioRevert byteAbi (0, 0) ((savedState fun n =>
          if n = 1 ∨ n = 2 then ⟨.other 5, true, 0, 0, 0⟩ else ⟨.ok, false, 0, 0, 0⟩).after byteAbi
        [.setBaseline 40 80, .setSceneValue 2 12 90])).2.2.fw.held (.value 2 12) = 100 :=
  @audioRevert_restores byteAbi _ (.value 2 12) [.setBaseline 40 80, .setSceneValue 2 12 90] (0, 0)
    (savedState_clean _) (savedState_encoded _)
    ⟨fun _ => Or.inl rfl, fun _ _ _ => Or.inr (Or.inr (Or.inl (by decide))), trivial⟩
    (by decide) (by decide)

/-- A baseline that took effect although it was refused, with its rollback lost, is not restored. -/
theorem audioRevert_misses_baseline
    : ¬∀ (abi : AudioControlAbi) (s : AudioState) (calls : List AudioCall) (polls : Nat × Nat)
        (target : AudioTarget), s.Clean → s.fw.Encoded abi
        → (audioRevert abi polls (s.after abi calls)).1 = true
        → (s.after abi calls).fw.tried target = true
        → (audioRevert abi polls (s.after abi calls)).2.2.fw.held target
          = s.revertAnchor.datum abi target := by
  intro h
  have hbaseline := h byteAbi
    (savedState fun n => ⟨.other 5, n == 0, 0, 0, 0⟩) [.setBaseline 40 80] (0, 0) .baseline
    (savedState_clean _) (savedState_encoded _) (by decide) (by decide)
  revert hbaseline
  decide

end Example

end ZZTop
