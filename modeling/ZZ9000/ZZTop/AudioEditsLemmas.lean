import ZZ9000.ZZTop.AudioEdits

/-!
This module contains what the setters of the audio editor keep of a parameter. It is safe while the
firmware holds the saved value or a revert is going to write it; a refused write whose rollback is
lost too leaves neither, unless the editor records the value it attempted.
-/

namespace ZZTop

variable {abi : AudioControlAbi}

section Parameters

/-- The parameters of a scene that `audio_scene_value` maps to a field. -/
def AudioControlAbi.Editable (abi : AudioControlAbi) (param : UInt16) : Prop :=
  param = abi.paramLpf ∨ (abi.paramEqBand1 ≤ param ∧ param ≤ abi.paramEqBand10)
    ∨ param = abi.paramPrefactor ∨ param = abi.paramVolume ∨ param = abi.paramPan

theorem audioSceneValue_eq_none_iff {param : UInt16}
    : audioSceneValue abi param = none ↔ ¬abi.Editable param := by
  unfold audioSceneValue AudioControlAbi.Editable
  simp only [ge_iff_le]
  split
  next h => simp [h]
  next hlpf =>
    split
    next h => simp [h]
    next hband =>
      split
      next h => simp [h]
      next hprefactor =>
        split
        next h => simp [h]
        next hvolume =>
          split
          next h => simp [h]
          next hpan =>
            simp only [hlpf, hband, hprefactor, hvolume, hpan, or_self, not_false_eq_true]

theorem editable_of_audioSceneValue {param : UInt16} {field : AudioField}
    (h : audioSceneValue abi param = some field)
    : abi.Editable param := by
  false_or_by_contra
  next hnot =>
    rw [audioSceneValue_eq_none_iff.mpr hnot] at h
    cases h

theorem audioSceneValue_band {param : UInt16} {band : Nat}
    (h : audioSceneValue abi param = some (.eq band))
    : param.toNat = abi.paramEqBand1.toNat + band := by
  unfold audioSceneValue at h
  split at h
  next => cases h
  next =>
    split at h
    next hband =>
      cases h
      have hle : abi.paramEqBand1.toNat ≤ param.toNat := hband.1
      rw [UInt16.toNat_sub_of_le _ _ hband.1]
      omega
    next => split at h <;> [cases h; split at h <;> [cases h; split at h <;> cases h]]

theorem audioSceneValue_inj {param other : UInt16} {field : AudioField}
    (h : audioSceneValue abi param = some field) (h' : audioSceneValue abi other = some field)
    : param = other := by
  cases field with
  | eq band =>
    apply UInt16.toNat_inj.mp
    rw [audioSceneValue_band h, audioSceneValue_band h']
  | _ => grind [audioSceneValue]

namespace AudioScene

@[simp]
theorem read_store (scene : AudioScene) (field : AudioField) (value : UInt16)
    : (scene.store field value).read field = value := by
  cases field <;> simp [store, read]

theorem read_store_ne (scene : AudioScene) {field other : AudioField} (value : UInt16)
    (h : other ≠ field)
    : (scene.store field value).read other = scene.read other := by
  cases field with
  | eq band =>
    cases other with
    | eq band' =>
      apply Function.update_of_ne
      intro heq
      exact h (by rw [heq])
    | _ => rfl
  | _ => cases other <;> first | rfl | contradiction

@[simp]
theorem store_name (scene : AudioScene) (field : AudioField) (value : UInt16)
    : (scene.store field value).name = scene.name := by
  cases field <;> rfl

end AudioScene

theorem paramBit_and_fin
    : ∀ param other : Fin 32, param ≠ other
        → paramBit (UInt16.ofNat param) &&& paramBit (UInt16.ofNat other) = 0 := by
  decide +kernel

theorem paramBit_ne_zero_fin : ∀ param : Fin 32, paramBit (UInt16.ofNat param) ≠ 0 := by
  decide +kernel

theorem paramBit_and {param other : UInt16} (hparam : param < 32) (hother : other < 32)
    (h : param ≠ other)
    : paramBit param &&& paramBit other = 0 := by
  have hne : (⟨param.toNat, hparam⟩ : Fin 32) ≠ ⟨other.toNat, hother⟩ := by
    intro heq
    exact h (UInt16.toNat_inj.mp (Fin.mk.inj heq))
  simpa using paramBit_and_fin _ _ hne

theorem paramBit_ne_zero {param : UInt16} (h : param < 32) : paramBit param ≠ 0 := by
  simpa using paramBit_ne_zero_fin ⟨param.toNat, h⟩

theorem or_and_eq (mask bit other : UInt32)
    : (mask ||| bit) &&& other = (mask &&& other) ||| (bit &&& other) := by
  apply UInt32.toBitVec_inj.mp
  simp only [UInt32.toBitVec_and, UInt32.toBitVec_or]
  ext i hi
  simp only [BitVec.getElem_and, BitVec.getElem_or]
  cases mask.toBitVec[i] <;> cases bit.toBitVec[i] <;> cases other.toBitVec[i] <;> rfl

theorem AudioControlAbi.Editable.lt {param : UInt16} (h : abi.Editable param) : param < 32 :=
  UInt16.lt_of_le_of_lt (abi.le_pan param h) abi.pan_lt

theorem mem_audioRevertRange {param : UInt16} (h : abi.Editable param)
    : param ∈ audioRevertRange abi := by
  have hle : abi.paramLpf.toNat ≤ param.toNat := abi.lpf_le param h
  have hle' : param.toNat ≤ abi.paramPan.toNat := abi.le_pan param h
  unfold audioRevertRange
  simp only [List.mem_map, List.mem_range'_1]
  refine ⟨param.toNat, ?_, UInt16.ofNat_toNat⟩
  omega

theorem mem_audioScenes {scene : UInt16} (h : scene < audioSceneCount) : scene ∈ audioScenes := by
  have hmem : ∀ n : Fin 8, UInt16.ofNat n ∈ audioScenes := by decide
  simpa using hmem ⟨scene.toNat, h⟩

end Parameters

section Safety

variable (abi)

/-- A parameter as a model sends it. -/
def AudioModel.datum (model : AudioModel) : (target : AudioTarget) → target.Datum
  | .active => model.active.toUInt32
  | .baseline => abi.balancePack model.basePaula model.baseAx
  | .calibration => abi.calibrationPack model.ceilingPaula model.ceilingAx
  | .value scene param => ((audioSceneValue abi param).elim 0 (model.scenes scene).read).toUInt32
  | .name scene => audioNameWords (model.scenes scene).name

/-- A name that the editor sends as it is. -/
def NameKept (scene : UInt16) (name : List UInt8) : Prop :=
  audioNewName scene name = name

/-- What `audio_set_scene_value` lets through. -/
def AudioTarget.Known : AudioTarget → Prop
  | .value _ param => abi.Editable param
  | _ => True

namespace AudioState

variable (s : AudioState)

/-- The edit of a parameter is recorded. -/
def Changed : AudioTarget → Prop
  | .active => s.changedActive = true
  | .baseline => s.changedBaseline = true
  | .calibration => s.changedCalibration = true
  | .value scene param => s.changedParams scene &&& paramBit param ≠ 0
  | .name scene => s.changedNames scene = true

/-- The model does not show the saved value; a calibration is sent in any case. -/
def Differs : AudioTarget → Prop
  | .active => s.model.active ≠ s.revertAnchor.active
  | .baseline => s.model.basePaula ≠ s.revertAnchor.basePaula
      ∨ s.model.baseAx ≠ s.revertAnchor.baseAx
  | .calibration => True
  | .value scene param => (audioSceneValue abi param).elim False fun field =>
      (s.model.scenes scene).read field ≠ (s.revertAnchor.scenes scene).read field
  | .name scene => (s.model.scenes scene).name ≠ (s.revertAnchor.scenes scene).name

/-- A revert can send the saved value of a parameter. -/
def Revertible : AudioTarget → Prop
  | .value scene param => scene < audioSceneCount ∧ abi.Editable param
  | .name scene => scene < audioSceneCount ∧ NameKept scene (s.revertAnchor.scenes scene).name
  | _ => True

/-- A revert is going to send the saved value of a parameter. -/
structure Pends (target : AudioTarget) : Prop where
  changed : s.Changed target
  differs : s.Differs abi target
  revertible : s.Revertible abi target

/-- A parameter that the firmware holds at `datum` is at its saved value or going to be. -/
def Safe (target : AudioTarget) (datum : target.Datum) : Prop :=
  datum = s.revertAnchor.datum abi target ∨ s.Pends abi target

/-- What the run keeps of a parameter. -/
structure Good (target : AudioTarget) : Prop where
  safe : s.fw.tried target = true → s.Safe abi target (s.fw.held target)
  recorded : target.Known abi → s.Differs abi target → s.Changed target ∨ target = .active
    ∨ target = .baseline ∨ target = .calibration
  named : ∀ scene, target = .name scene → s.Changed target
    → NameKept scene (s.revertAnchor.scenes scene).name
  encoded : target = .active ∨ target = .baseline
    → ∃ model : AudioModel, s.fw.held target = model.datum abi target

/-- Nothing of a parameter has changed from `s` to `s'`. -/
structure SameAt (target : AudioTarget) (s' : AudioState) : Prop where
  anchor : s'.revertAnchor = s.revertAnchor
  held : s'.fw.held target = s.fw.held target
  tried : s'.fw.tried target = s.fw.tried target
  changed : target.Known abi → (s'.Changed target ↔ s.Changed target)
  differs : s'.Differs abi target ↔ s.Differs abi target

end AudioState

end Safety

section Frames

open AudioState

variable {s s' s'' : AudioState} {target other : AudioTarget}

theorem AudioState.Pends.known (h : s.Pends abi target) : target.Known abi := by
  have hrevertible := h.revertible
  cases target with
  | value scene param => exact hrevertible.2
  | _ => trivial

namespace AudioState.SameAt

theorem refl : s.SameAt abi target s where
  anchor := rfl
  held := rfl
  tried := rfl
  changed := fun _ => Iff.rfl
  differs := Iff.rfl

theorem trans (h : s.SameAt abi target s') (h' : s'.SameAt abi target s'')
    : s.SameAt abi target s'' where
  anchor := h'.anchor.trans h.anchor
  held := h'.held.trans h.held
  tried := h'.tried.trans h.tried
  changed := fun hknown => (h'.changed hknown).trans (h.changed hknown)
  differs := h'.differs.trans h.differs

theorem revertible (h : s.SameAt abi target s')
    : s'.Revertible abi target ↔ s.Revertible abi target := by
  unfold Revertible
  rw [h.anchor]

theorem pends (h : s.SameAt abi target s') : s'.Pends abi target ↔ s.Pends abi target := by
  constructor
  . intro hpends
    have hknown := hpends.known
    exact ⟨(h.changed hknown).mp hpends.changed, h.differs.mp hpends.differs,
      h.revertible.mp hpends.revertible⟩
  . intro hpends
    have hknown := hpends.known
    exact ⟨(h.changed hknown).mpr hpends.changed, h.differs.mpr hpends.differs,
      h.revertible.mpr hpends.revertible⟩

theorem good (h : s.SameAt abi target s') (hgood : s.Good abi target) : s'.Good abi target where
  safe := by
    intro htried
    rw [h.tried] at htried
    unfold Safe
    rw [h.held, h.anchor, h.pends]
    exact hgood.safe htried
  recorded := by
    intro hknown hdiffers
    rw [h.changed hknown]
    exact hgood.recorded hknown (h.differs.mp hdiffers)
  named := by
    intro scene htarget hchanged
    have hknown : target.Known abi := by
      rw [htarget]
      trivial
    rw [h.anchor]
    exact hgood.named scene htarget ((h.changed hknown).mp hchanged)
  encoded := by
    intro htarget
    rw [h.held]
    exact hgood.encoded htarget

end AudioState.SameAt

namespace AudioFirmware

variable {fw : AudioFirmware} {datum : target.Datum} {lands : Bool}

@[simp]
theorem held_receive
    : (fw.receive target datum lands).held target = if lands then datum else fw.held target := by
  unfold receive
  cases lands <;> simp

@[simp]
theorem tried_receive : (fw.receive target datum lands).tried target = true := by
  simp [receive]

theorem held_receive_of_ne (h : other ≠ target)
    : (fw.receive target datum lands).held other = fw.held other := by
  unfold receive
  cases lands <;> simp [Function.update_of_ne h]

theorem tried_receive_of_ne (h : other ≠ target)
    : (fw.receive target datum lands).tried other = fw.tried other := by
  simp [receive, Function.update_of_ne h]

end AudioFirmware

theorem sameAt_receive (datum : target.Datum) (lands : Bool) (asked : Nat) (s : AudioState)
    (h : other ≠ target)
    : s.SameAt abi other { s with asked, fw := s.fw.receive target datum lands } where
  anchor := rfl
  held := AudioFirmware.held_receive_of_ne h
  tried := AudioFirmware.tried_receive_of_ne h
  changed := fun _ => by cases other <;> rfl
  differs := by cases other <;> rfl

theorem sameAt_write (datum : target.Datum) (s : AudioState) (h : other ≠ target)
    : s.SameAt abi other (audioSceneWriteCommit target datum s).2 :=
  sameAt_receive datum _ _ s h

theorem sameAt_rename (scene : UInt16) (name : List UInt8) (s : AudioState)
    (h : other ≠ .name scene)
    : s.SameAt abi other (audioSceneRenameCall scene name s).2 :=
  sameAt_receive _ _ _ s h

theorem sameAt_text (text : String) (s : AudioState) : s.SameAt abi other (audioText text s) where
  anchor := rfl
  held := rfl
  tried := rfl
  changed := fun _ => by cases other <;> rfl
  differs := by cases other <;> rfl

theorem sameAt_dirty (s : AudioState) : s.SameAt abi other (audioMarkDirty s) where
  anchor := rfl
  held := rfl
  tried := rfl
  changed := fun _ => by cases other <;> rfl
  differs := by cases other <;> rfl

theorem audioWriteAccepted_snd (status : AudioStatus) (ok pending failed : String) (s : AudioState)
    : ∃ text, (audioWriteAccepted status ok pending failed s).2 = audioText text s := by
  cases status <;> exact ⟨_, rfl⟩

@[simp]
theorem audioWriteAccepted_fw (status : AudioStatus) (ok pending failed : String) (s : AudioState)
    : (audioWriteAccepted status ok pending failed s).2.fw = s.fw := by
  cases status <;> rfl

@[simp]
theorem audioWriteAccepted_replies (status : AudioStatus) (ok pending failed : String)
    (s : AudioState)
    : (audioWriteAccepted status ok pending failed s).2.replies = s.replies := by
  cases status <;> rfl

@[simp]
theorem audioWriteAccepted_asked (status : AudioStatus) (ok pending failed : String)
    (s : AudioState)
    : (audioWriteAccepted status ok pending failed s).2.asked = s.asked := by
  cases status <;> rfl

theorem sameAt_accepted (status : AudioStatus) (ok pending failed : String) (s : AudioState)
    : s.SameAt abi other (audioWriteAccepted status ok pending failed s).2 := by
  have htext := audioWriteAccepted_snd status ok pending failed s
  cases htext with
  | intro text htext =>
    rw [htext]
    exact sameAt_text text s

/-- A write with the text about its outcome. -/
theorem sameAt_taken (datum : target.Datum) (ok pending failed : String) (s : AudioState)
    (h : other ≠ target)
    : s.SameAt abi other (audioWriteAccepted (audioSceneWriteCommit target datum s).1 ok pending
        failed (audioSceneWriteCommit target datum s).2).2 :=
  (sameAt_write datum s h).trans (sameAt_accepted _ _ _ _ _)

theorem audioControlStateGet_snd (abi : AudioControlAbi) (out : AudioModel) (s : AudioState)
    : ∃ boundary, (audioControlStateGet abi out s).2
        = { s with asked := s.asked + 1, boundary := boundary } := by
  unfold audioControlStateGet
  dsimp only
  split
  next => exact ⟨_, rfl⟩
  next => exact ⟨s.boundary, rfl⟩

theorem sameAt_polled (asked : Nat) (boundary : UInt32) (s : AudioState)
    : s.SameAt abi other { s with asked, boundary } where
  anchor := rfl
  held := rfl
  tried := rfl
  changed := fun _ => by cases other <;> rfl
  differs := by cases other <;> rfl

theorem sameAt_get (out : AudioModel) (s : AudioState)
    : s.SameAt abi other (audioControlStateGet abi out s).2 := by
  have hget := audioControlStateGet_snd abi out s
  cases hget with
  | intro boundary hget =>
    rw [hget]
    exact sameAt_polled _ _ s

theorem sameAt_selected (scene : UInt16) (s : AudioState) (h : other ≠ .active)
    : s.SameAt abi other
        { s with model := { s.model with active := scene }, changedActive := true } := by
  constructor
  . rfl
  . rfl
  . rfl
  . intro _
    cases other with
    | active => contradiction
    | _ => rfl
  . cases other with
    | active => contradiction
    | _ => rfl

theorem sameAt_selectScene (scene : UInt16) (s : AudioState) (h : other ≠ .active)
    : s.SameAt abi other (audioSelectScene abi scene s).2 := by
  unfold audioSelectScene
  split
  next => exact SameAt.refl
  next =>
    have hsent := @sameAt_write abi _ _ scene.toUInt32 s h
    dsimp only
    generalize audioSceneWriteCommit .active scene.toUInt32 s = sent at hsent
    split
    next =>
      apply hsent.trans
      exact ((sameAt_selected scene _ h).trans (sameAt_dirty _)).trans (sameAt_text _ _)
    next =>
      have hgot := hsent.trans (sameAt_get sent.2.model sent.2)
      generalize audioControlStateGet abi sent.2.model sent.2 = got at hgot
      apply hgot.trans
      split
      next => exact sameAt_text _ _
      next =>
        split
        next => exact sameAt_text _ _
        next => exact ((sameAt_selected scene _ h).trans (sameAt_dirty _)).trans (sameAt_text _ _)
    next => exact hsent.trans (sameAt_text _ _)

theorem sameAt_balanced (paula ax : UInt16) (s : AudioState) (h : other ≠ .baseline)
    : s.SameAt abi other { s with
        model := { s.model with basePaula := paula, baseAx := ax }, changedBaseline := true } := by
  constructor
  . rfl
  . rfl
  . rfl
  . intro _
    cases other with
    | baseline => contradiction
    | _ => rfl
  . cases other with
    | baseline => contradiction
    | _ => rfl

theorem sameAt_setBaseline (paula ax : UInt16) (s : AudioState) (h : other ≠ .baseline)
    : s.SameAt abi other (audioSetBaseline abi paula ax s).2 := by
  unfold audioSetBaseline
  split
  next => exact SameAt.refl
  next =>
    dsimp only
    split
    next => exact (sameAt_taken _ _ _ _ s h).trans (sameAt_write _ _ h)
    next =>
      exact (sameAt_taken _ _ _ _ s h).trans ((sameAt_balanced _ _ _ h).trans (sameAt_dirty _))

theorem sameAt_calibrating (paula ax : UInt16) (s : AudioState) (h : other ≠ .calibration)
    : s.SameAt abi other { s with
        calibrationPaula := paula, calibrationAx := ax, calibrationPending := true
        changedCalibration := true } := by
  constructor
  . rfl
  . rfl
  . rfl
  . intro _
    cases other with
    | calibration => contradiction
    | _ => rfl
  . cases other <;> rfl

theorem sameAt_setCalibration (paula ax : UInt16) (s : AudioState) (h : other ≠ .calibration)
    : s.SameAt abi other (audioSetCalibration abi paula ax s).2 := by
  unfold audioSetCalibration
  split
  next => exact sameAt_text _ s
  next =>
    dsimp only
    split
    next => exact (sameAt_taken _ _ _ _ s h).trans (sameAt_write _ _ h)
    next =>
      exact (sameAt_taken _ _ _ _ s h).trans
        ((sameAt_calibrating _ _ _ h).trans (sameAt_dirty _))

theorem changedParams_record {scene param : UInt16} (hparam : abi.Editable param)
    {scene' param' : UInt16} (hparam' : abi.Editable param')
    (h : AudioTarget.value scene' param' ≠ .value scene param)
    : Function.update s.changedParams scene (s.changedParams scene ||| paramBit param) scene'
          &&& paramBit param'
        = s.changedParams scene' &&& paramBit param' := by
  by_cases hscene : scene' = scene
  . have hne : param ≠ param' := by
      intro heq
      rw [hscene, heq] at h
      contradiction
    rw [hscene, Function.update_self, or_and_eq, paramBit_and hparam.lt hparam'.lt hne]
    simp
  . rw [Function.update_of_ne hscene]

theorem sameAt_recordValue {scene param : UInt16} (value : UInt16) {field : AudioField}
    (s : AudioState) (hfield : audioSceneValue abi param = some field)
    (h : other ≠ .value scene param)
    : s.SameAt abi other (audioRecordValue scene param value field s) := by
  refine SameAt.trans ?_ (sameAt_dirty _)
  constructor
  . rfl
  . rfl
  . rfl
  . intro hknown
    cases other with
    | value scene' param' =>
      have hchanged := @changedParams_record abi s scene param
        (editable_of_audioSceneValue hfield) _ _ hknown h
      simp only [Changed, hchanged]
    | _ => rfl
  . cases other with
    | value scene' param' =>
      simp only [Differs]
      cases hfield' : audioSceneValue abi param' with
      | none => rfl
      | some field' =>
        simp only [Option.elim_some]
        by_cases hscene : scene' = scene
        . have hne : field' ≠ field := by
            intro heq
            rw [heq] at hfield'
            rw [hscene, audioSceneValue_inj hfield' hfield] at h
            contradiction
          rw [hscene, Function.update_self, AudioScene.read_store_ne _ value hne]
        . rw [Function.update_of_ne hscene]
    | name scene' =>
      simp only [Differs]
      by_cases hscene : scene' = scene
      . rw [hscene, Function.update_self, AudioScene.store_name]
      . rw [Function.update_of_ne hscene]
    | _ => rfl

theorem sameAt_setSceneValue (scene param value : UInt16) (s : AudioState)
    (h : other ≠ .value scene param)
    : s.SameAt abi other (audioSetSceneValue abi scene param value s).2 := by
  unfold audioSetSceneValue
  split
  next => exact SameAt.refl
  next =>
    split
    next => exact SameAt.refl
    next field hfield =>
      dsimp only
      split
      next =>
        split
        next =>
          exact ((sameAt_taken _ _ _ _ s h).trans (sameAt_write _ _ h)).trans
            ((sameAt_recordValue value _ hfield h).trans (sameAt_text _ _))
        next => exact (sameAt_taken _ _ _ _ s h).trans (sameAt_write _ _ h)
      next => exact (sameAt_taken _ _ _ _ s h).trans (sameAt_recordValue value _ hfield h)

theorem read_update_name (scenes : UInt16 → AudioScene) (scene scene' : UInt16)
    (name : List UInt8) (field : AudioField)
    : (Function.update scenes scene { scenes scene with name } scene').read field
        = (scenes scene').read field := by
  by_cases hscene : scene' = scene
  . rw [hscene, Function.update_self]
    cases field <;> rfl
  . rw [Function.update_of_ne hscene]

theorem sameAt_renamed (scene : UInt16) (name : List UInt8) (s : AudioState)
    (h : other ≠ .name scene)
    : s.SameAt abi other { s with
        model := { s.model with
          scenes := Function.update s.model.scenes scene { s.model.scenes scene with name } }
        changedNames := Function.update s.changedNames scene true } := by
  constructor
  . rfl
  . rfl
  . rfl
  . intro _
    cases other with
    | name scene' =>
      have hne : scene' ≠ scene := fun heq => h (by rw [heq])
      simp only [Changed, Function.update_of_ne hne]
    | _ => rfl
  . cases other with
    | value scene' param' =>
      simp only [Differs]
      cases audioSceneValue abi param' with
      | none => rfl
      | some field => simp only [Option.elim_some, read_update_name]
    | name scene' =>
      have hne : scene' ≠ scene := fun heq => h (by rw [heq])
      simp only [Differs, Function.update_of_ne hne]
    | _ => rfl

theorem sameAt_renameScene (scene : UInt16) (name : List UInt8) (s : AudioState)
    (h : other ≠ .name scene)
    : s.SameAt abi other (audioRenameScene scene name s).2 := by
  unfold audioRenameScene
  split
  next => exact SameAt.refl
  next =>
    have hsent := @sameAt_rename abi other scene (audioNewName scene name) s h
    dsimp only
    split
    next => exact (hsent.trans (sameAt_accepted _ _ _ _ _)).trans (sameAt_rename _ _ _ h)
    next =>
      exact (hsent.trans (sameAt_accepted _ _ _ _ _)).trans
        ((sameAt_renamed _ _ _ h).trans (sameAt_dirty _))

end Frames

/-- What a write and the rollback of it leave of a parameter. -/
def afterRollback {α : Type} (main rollback : AudioReply) (attempted old current : α) : α :=
  if rollback.lands then old else if main.lands then attempted else current

section Conditions

variable (abi)

def AudioState.Idle (s : AudioState) : Prop :=
  s.available = true ∧ s.calibrationPending = false

/-- The outcomes of a call under which what it writes stays safe. -/
def AudioCall.Keeps (call : AudioCall) (s : AudioState) : Prop :=
  s.Idle →
    match call with
    | selectScene scene => scene < audioSceneCount →
      (s.replies s.asked).status = .ok
        ∨ ((s.replies s.asked).status = .timeout ∧ (s.replies (s.asked + 1)).answers = true)
        ∨ s.Safe abi .active
            (if (s.replies s.asked).lands then scene.toUInt32 else s.fw.held .active)
    | setBaseline paula ax =>
      (s.replies s.asked).accepted = true
        ∨ s.Safe abi .baseline (afterRollback (s.replies s.asked) (s.replies (s.asked + 1))
            (abi.balancePack paula ax) (s.model.datum abi .baseline) (s.fw.held .baseline))
    | setCalibration paula ax =>
      (s.replies s.asked).accepted = true
        ∨ s.Safe abi .calibration (afterRollback (s.replies s.asked) (s.replies (s.asked + 1))
            (abi.calibrationPack paula ax) (s.model.datum abi .calibration)
            (s.fw.held .calibration))
    | setSceneValue scene param value => scene < audioSceneCount → abi.Editable param →
      (s.replies s.asked).accepted = true
        ∨ (s.replies (s.asked + 1)).status = .ok
        ∨ value.toUInt32 ≠ s.revertAnchor.datum abi (.value scene param)
        ∨ afterRollback (s.replies s.asked) (s.replies (s.asked + 1)) value.toUInt32
            (s.model.datum abi (.value scene param)) (s.fw.held (.value scene param))
          = s.revertAnchor.datum abi (.value scene param)
    | renameScene scene name => scene < audioSceneCount →
      let burst := audioBurst s.replies audioNameChunks s.asked
      if burst.1.accepted then
        NameKept scene (s.revertAnchor.scenes scene).name
      else
        s.Safe abi (.name scene)
          (afterRollback burst.1 (audioBurst s.replies audioNameChunks burst.2).1
            (audioNameWords (audioNewName scene name)) (s.model.datum abi (.name scene))
            (s.fw.held (.name scene)))
    | tick => True

end Conditions

section Outcomes

open AudioState

variable {s s' : AudioState} {target : AudioTarget}

theorem AudioReply.lands_of_accepted {reply : AudioReply} (h : reply.accepted = true)
    : reply.lands = true := by
  simp [lands, h]

theorem audioWriteAccepted_fst (reply : AudioReply) (ok pending failed : String) (s : AudioState)
    : (audioWriteAccepted reply.status ok pending failed s).1 = reply.accepted := by
  unfold audioWriteAccepted AudioReply.accepted
  cases reply.status <;> rfl

/-- An edit that is recorded. -/
theorem good_of_recorded (hchanged : s'.Changed target)
    (hrevertible : s'.Revertible abi target)
    (hdatum : ¬s'.Differs abi target
      → s'.fw.held target = s'.revertAnchor.datum abi target)
    (hencoded : target = .active ∨ target = .baseline
      → ∃ model : AudioModel, s'.fw.held target = model.datum abi target)
    : s'.Good abi target where
  safe := by
    intro _
    by_cases hdiffers : s'.Differs abi target
    . exact Or.inr ⟨hchanged, hdiffers, hrevertible⟩
    . exact Or.inl (hdatum hdiffers)
  recorded := fun _ _ => Or.inl hchanged
  named := by
    intro scene htarget _
    subst htarget
    exact hrevertible.2
  encoded := hencoded

/-- A write that left nothing recorded. -/
theorem good_of_refused (hgood : s.Good abi target) (hanchor : s'.revertAnchor = s.revertAnchor)
    (hchanged : s'.Changed target ↔ s.Changed target)
    (hdiffers : s'.Differs abi target ↔ s.Differs abi target)
    (hsafe : s.Safe abi target (s'.fw.held target))
    (hencoded : target = .active ∨ target = .baseline
      → ∃ model : AudioModel, s'.fw.held target = model.datum abi target)
    : s'.Good abi target where
  safe := by
    intro _
    have hrevertible : s'.Revertible abi target ↔ s.Revertible abi target := by
      unfold Revertible
      rw [hanchor]
    unfold Safe at *
    rw [hanchor]
    cases hsafe with
    | inl hsafe => exact Or.inl hsafe
    | inr hsafe =>
      exact Or.inr ⟨hchanged.mpr hsafe.changed, hdiffers.mpr hsafe.differs,
        hrevertible.mpr hsafe.revertible⟩
  recorded := by
    intro hknown h
    rw [hchanged]
    exact hgood.recorded hknown (hdiffers.mp h)
  named := by
    intro scene htarget h
    rw [hanchor]
    exact hgood.named scene htarget (hchanged.mp h)
  encoded := hencoded

theorem held_rollback (attempted old : target.Datum) (ok pending failed : String)
    (s : AudioState)
    : (audioSceneWriteCommit target old (audioWriteAccepted
          (audioSceneWriteCommit target attempted s).1 ok pending failed
          (audioSceneWriteCommit target attempted s).2).2).2.fw.held target
        = afterRollback (s.replies s.asked) (s.replies (s.asked + 1)) attempted old
            (s.fw.held target) := by
  simp [audioSceneWriteCommit, afterRollback]

theorem held_taken (attempted : target.Datum) (ok pending failed : String) (s : AudioState)
    (h : (s.replies s.asked).accepted = true)
    : (audioWriteAccepted (audioSceneWriteCommit target attempted s).1 ok pending failed
        (audioSceneWriteCommit target attempted s).2).2.fw.held target = attempted := by
  simp [audioSceneWriteCommit, AudioReply.lands_of_accepted h]

theorem status_rollback (attempted old : target.Datum) (ok pending failed : String)
    (s : AudioState)
    : (audioSceneWriteCommit target old (audioWriteAccepted
          (audioSceneWriteCommit target attempted s).1 ok pending failed
          (audioSceneWriteCommit target attempted s).2).2).1
        = (s.replies (s.asked + 1)).status := by
  simp [audioSceneWriteCommit]

theorem anchor_rollback (attempted old : target.Datum) (ok pending failed : String)
    (s : AudioState)
    : (audioSceneWriteCommit target old (audioWriteAccepted
          (audioSceneWriteCommit target attempted s).1 ok pending failed
          (audioSceneWriteCommit target attempted s).2).2).2.revertAnchor = s.revertAnchor := by
  have htext := audioWriteAccepted_snd (audioSceneWriteCommit target attempted s).1 ok pending
    failed (audioSceneWriteCommit target attempted s).2
  cases htext with
  | intro text htext =>
    rw [htext]
    rfl

/-- A refused write whose rollback is not looked at. -/
theorem good_rollback (attempted old : target.Datum) (ok pending failed : String)
    (hgood : s.Good abi target)
    (hsafe : s.Safe abi target (afterRollback (s.replies s.asked) (s.replies (s.asked + 1))
      attempted old (s.fw.held target)))
    (hattempted : target = .active ∨ target = .baseline
      → ∃ model : AudioModel, attempted = model.datum abi target)
    (hold : ∃ model : AudioModel, old = model.datum abi target)
    : (audioSceneWriteCommit target old (audioWriteAccepted
          (audioSceneWriteCommit target attempted s).1 ok pending failed
          (audioSceneWriteCommit target attempted s).2).2).2.Good abi target := by
  have hheld := held_rollback attempted old ok pending failed s
  have htext := audioWriteAccepted_snd (audioSceneWriteCommit target attempted s).1 ok pending
    failed (audioSceneWriteCommit target attempted s).2
  cases htext with
  | intro text htext =>
    rw [htext] at hheld ⊢
    apply good_of_refused hgood
    . rfl
    . cases target <;> rfl
    . cases target <;> rfl
    . rw [hheld]
      exact hsafe
    . intro htarget
      rw [hheld]
      unfold afterRollback
      split
      next => exact hold
      next =>
        split
        next => exact hattempted htarget
        next => exact hgood.encoded htarget

theorem good_setBaseline (paula ax : UInt16) (hgood : s.Good abi .baseline)
    (hkeeps : (AudioCall.setBaseline paula ax).Keeps abi s)
    : (audioSetBaseline abi paula ax s).2.Good abi .baseline := by
  unfold audioSetBaseline
  split
  next => exact hgood
  next hidle =>
    have hkeeps := hkeeps (by simpa [Idle] using hidle)
    dsimp only at hkeeps ⊢
    split
    next hrefused =>
      rw [audioSceneWriteCommit, audioWriteAccepted_fst] at hrefused
      have hsafe := hkeeps.resolve_left (by simpa using hrefused)
      apply good_rollback _ _ _ _ _ hgood hsafe
      . intro _
        exact ⟨{ s.model with basePaula := paula, baseAx := ax }, rfl⟩
      . exact ⟨s.model, rfl⟩
    next haccepted =>
      rw [audioSceneWriteCommit, audioWriteAccepted_fst] at haccepted
      have haccepted : (s.replies s.asked).accepted = true := by simpa using haccepted
      apply good_of_recorded
      . rfl
      . trivial
      . intro hsame
        simp only [Differs, audioMarkDirty, not_or, not_not] at hsame
        calc _ = abi.balancePack paula ax := held_taken _ _ _ _ s haccepted
          _ = _ := congrArg₂ abi.balancePack hsame.1 hsame.2
      . intro _
        exact ⟨{ s.model with basePaula := paula, baseAx := ax },
          held_taken _ _ _ _ s haccepted⟩

theorem good_setCalibration (paula ax : UInt16) (hgood : s.Good abi .calibration)
    (hkeeps : (AudioCall.setCalibration paula ax).Keeps abi s)
    : (audioSetCalibration abi paula ax s).2.Good abi .calibration := by
  unfold audioSetCalibration
  split
  next => exact (sameAt_text _ s).good hgood
  next hidle =>
    have hidle : s.Idle := by
      simp only [Bool.or_eq_true, not_or] at hidle
      simpa [Idle] using And.intro hidle.1.1.1.1.1 hidle.1.1.1.1.2
    have hkeeps := hkeeps hidle
    dsimp only at hkeeps ⊢
    split
    next hrefused =>
      rw [audioSceneWriteCommit, audioWriteAccepted_fst] at hrefused
      have hsafe := hkeeps.resolve_left (by simpa using hrefused)
      apply good_rollback _ _ _ _ _ hgood hsafe
      . intro _
        exact ⟨{ s.model with ceilingPaula := paula, ceilingAx := ax }, rfl⟩
      . exact ⟨s.model, rfl⟩
    next haccepted =>
      apply good_of_recorded
      . rfl
      . trivial
      . intro hsame
        exact absurd trivial hsame
      . intro htarget
        simp at htarget

theorem changed_recordValue {scene param value : UInt16} {field : AudioField} {s : AudioState}
    (h : audioSceneValue abi param = some field)
    : (audioRecordValue scene param value field s).Changed (.value scene param) := by
  have hbit := paramBit_ne_zero (editable_of_audioSceneValue h).lt
  simp only [Changed, audioRecordValue, audioMarkDirty, Function.update_self, or_and_eq,
    UInt32.and_self, ne_eq, UInt32.or_eq_zero_iff]
  intro hzero
  exact hbit hzero.2

theorem differs_recordValue {scene param value : UInt16} {field : AudioField} {s : AudioState}
    (h : audioSceneValue abi param = some field)
    : (audioRecordValue scene param value field s).Differs abi (.value scene param)
        ↔ value ≠ (s.revertAnchor.scenes scene).read field := by
  simp [Differs, audioRecordValue, audioMarkDirty, h]

theorem datum_value {scene param : UInt16} {field : AudioField} (model : AudioModel)
    (h : audioSceneValue abi param = some field)
    : model.datum abi (.value scene param) = ((model.scenes scene).read field).toUInt32 := by
  simp [AudioModel.datum, h]

/-- A value that is recorded is safe where the firmware holds it. -/
theorem good_recordValue {scene param value : UInt16} {field : AudioField} {s : AudioState}
    (hfield : audioSceneValue abi param = some field) (hscene : scene < audioSceneCount)
    (hsafe : value.toUInt32 = s.revertAnchor.datum abi (.value scene param)
      → s.fw.held (.value scene param) = s.revertAnchor.datum abi (.value scene param))
    : (audioRecordValue scene param value field s).Good abi (.value scene param) := by
  apply good_of_recorded
  . exact changed_recordValue hfield
  . exact ⟨hscene, editable_of_audioSceneValue hfield⟩
  . intro hsame
    rw [differs_recordValue hfield, not_not] at hsame
    apply hsafe
    rw [datum_value _ hfield, hsame]
  . intro htarget
    simp at htarget

/-- What the model shows of a value is safe. -/
theorem safe_model {scene param : UInt16} {field : AudioField} (hscene : scene < audioSceneCount)
    (hfield : audioSceneValue abi param = some field) (hgood : s.Good abi (.value scene param))
    : s.Safe abi (.value scene param) ((s.model.scenes scene).read field).toUInt32 := by
  have heditable := editable_of_audioSceneValue hfield
  by_cases hsame : (s.model.scenes scene).read field = (s.revertAnchor.scenes scene).read field
  . left
    rw [datum_value _ hfield, hsame]
  . right
    have hdiffers : s.Differs abi (.value scene param) := by
      simpa [Differs, hfield] using hsame
    have hchanged := hgood.recorded heditable hdiffers
    simp only [reduceCtorEq, or_false] at hchanged
    exact ⟨hchanged, hdiffers, hscene, heditable⟩

theorem good_setSceneValue (scene param value : UInt16)
    (hgood : s.Good abi (.value scene param))
    (hkeeps : (AudioCall.setSceneValue scene param value).Keeps abi s)
    : (audioSetSceneValue abi scene param value s).2.Good abi (.value scene param) := by
  unfold audioSetSceneValue
  split
  next => exact hgood
  next hidle =>
    simp only [Bool.or_eq_true, not_or] at hidle
    have hscene : scene < audioSceneCount := by simpa using hidle.2
    split
    next => exact hgood
    next field hfield =>
      have heditable := editable_of_audioSceneValue hfield
      have hkeeps := hkeeps (by simpa [Idle] using hidle.1) hscene heditable
      dsimp only at hkeeps ⊢
      split
      next hrefused =>
        rw [audioSceneWriteCommit, audioWriteAccepted_fst] at hrefused
        have hkeeps := hkeeps.resolve_left (by simpa using hrefused)
        rw [datum_value s.model hfield] at hkeeps
        split
        next hlost =>
          rw [status_rollback] at hlost
          have hkeeps := hkeeps.resolve_left hlost
          apply (sameAt_text _ _).good
          apply good_recordValue hfield hscene
          rw [anchor_rollback, held_rollback]
          intro hvalue
          exact hkeeps.resolve_left (not_not.mpr hvalue)
        next hrollback =>
          rw [status_rollback, ne_eq, not_not] at hrollback
          have hlands : (s.replies (s.asked + 1)).lands = true := by
            simp [AudioReply.lands, AudioReply.accepted, hrollback]
          have hold := (datum_value s.model hfield : s.model.datum abi (.value scene param) = _)
          apply good_rollback _ _ _ _ _ hgood
          . -- the rollback was confirmed: the firmware holds what the model shows
            rw [afterRollback, if_pos hlands]
            exact safe_model hscene hfield hgood
          . intro htarget
            simp at htarget
          . exact ⟨s.model, hold.symm⟩
      next haccepted =>
        rw [audioSceneWriteCommit, audioWriteAccepted_fst] at haccepted
        have haccepted : (s.replies s.asked).accepted = true := by simpa using haccepted
        apply good_recordValue hfield hscene
        intro hvalue
        exact (held_taken _ _ _ _ s haccepted).trans hvalue

theorem good_renameScene (scene : UInt16) (name : List UInt8)
    (hgood : s.Good abi (.name scene))
    (hkeeps : (AudioCall.renameScene scene name).Keeps abi s)
    : (audioRenameScene scene name s).2.Good abi (.name scene) := by
  unfold audioRenameScene
  split
  next => exact hgood
  next hidle =>
    simp only [Bool.or_eq_true, not_or] at hidle
    have hscene : scene < audioSceneCount := by simpa using hidle.2
    have hkeeps := hkeeps (by simpa [Idle] using hidle.1) hscene
    dsimp only at hkeeps ⊢
    have htext := audioWriteAccepted_snd
      (audioSceneRenameCall scene (audioNewName scene name) s).1
      "Rename committed - Save to persist" "Rename committing - Save to persist"
      "Rename failed - retry" (audioSceneRenameCall scene (audioNewName scene name) s).2
    split
    next hrefused =>
      rw [audioSceneRenameCall, audioWriteAccepted_fst] at hrefused
      rw [if_neg (by simpa using hrefused)] at hkeeps
      cases htext with
      | intro text htext =>
        rw [htext]
        apply good_of_refused hgood
        . rfl
        . rfl
        . rfl
        . simp only [audioSceneRenameCall, audioText, AudioFirmware.held_receive]
          exact hkeeps
        . intro htarget
          simp at htarget
    next haccepted =>
      rw [audioSceneRenameCall, audioWriteAccepted_fst] at haccepted
      have haccepted : (audioBurst s.replies audioNameChunks s.asked).1.accepted = true := by
        simpa using haccepted
      have hlands := AudioReply.lands_of_accepted haccepted
      rw [if_pos haccepted] at hkeeps
      cases htext with
      | intro text htext =>
        rw [htext]
        apply good_of_recorded
        . simp [Changed, audioMarkDirty]
        . exact ⟨hscene, hkeeps⟩
        . intro hsame
          simp only [Differs, audioMarkDirty, Function.update_self, not_not] at hsame
          simp only [audioMarkDirty, audioSceneRenameCall, audioText, hlands,
            AudioFirmware.held_receive, if_true]
          exact congrArg audioNameWords hsame
        . intro htarget
          simp at htarget

theorem good_selected (scene : UInt16) {s : AudioState}
    (hheld : s.fw.held .active = scene.toUInt32) (text : String)
    : (audioText text (audioMarkDirty { s with
        model := { s.model with active := scene }, changedActive := true })).Good abi .active := by
  apply good_of_recorded
  . rfl
  . trivial
  . intro hsame
    simp only [Differs, audioMarkDirty, audioText, not_not] at hsame
    exact hheld.trans (congrArg UInt16.toUInt32 hsame)
  . intro _
    exact ⟨{ s.model with active := scene }, hheld⟩

theorem audioControlStateGet_fst (out : AudioModel) (s : AudioState)
    : (audioControlStateGet abi out s).1
        = if (s.replies s.asked).answers then
            some { out with
              active := (s.fw.held .active).toUInt16
              basePaula := abi.balanceCh1 (s.fw.held .baseline)
              baseAx := abi.balanceCh2 (s.fw.held .baseline)
              ceilingPaula := (s.replies s.asked).ceilingPaula.toUInt16
              ceilingAx := (s.replies s.asked).ceilingAx.toUInt16 }
          else
            none := by
  unfold audioControlStateGet
  dsimp only
  split <;> rfl

theorem good_selectScene (scene : UInt16) (hgood : s.Good abi .active)
    (hkeeps : (AudioCall.selectScene scene).Keeps abi s)
    : (audioSelectScene abi scene s).2.Good abi .active := by
  unfold audioSelectScene
  split
  next => exact hgood
  next hidle =>
    simp only [Bool.or_eq_true, not_or] at hidle
    have hscene : scene < audioSceneCount := by simpa using hidle.2
    have hkeeps := hkeeps (by simpa [Idle] using hidle.1) hscene
    dsimp only at hkeeps ⊢
    have hheld : (audioSceneWriteCommit .active scene.toUInt32 s).2.fw.held .active
        = if (s.replies s.asked).lands then scene.toUInt32 else s.fw.held .active :=
      AudioFirmware.held_receive
    -- the scene was not taken over: what the firmware holds has to be safe as it is
    have hrefused : ∀ s' : AudioState, s'.revertAnchor = s.revertAnchor → s'.model = s.model
        → s'.changedActive = s.changedActive
        → s'.fw = (audioSceneWriteCommit .active scene.toUInt32 s).2.fw
        → s.Safe abi .active
            (if (s.replies s.asked).lands then scene.toUInt32 else s.fw.held .active)
        → s'.Good abi .active := by
      intro s' hanchor hmodel hchanged hfw hsafe
      apply good_of_refused hgood hanchor
      . simp only [Changed, hchanged]
      . simp only [Differs, hmodel, hanchor]
      . rw [hfw, hheld]
        exact hsafe
      . intro _
        rw [hfw, hheld]
        split
        next => exact ⟨{ s.model with active := scene }, rfl⟩
        next => exact hgood.encoded (Or.inl rfl)
    split
    next hok =>
      have hok : (s.replies s.asked).status = .ok := hok
      have hlands : (s.replies s.asked).lands = true := by
        simp [AudioReply.lands, AudioReply.accepted, hok]
      rw [if_pos hlands] at hheld
      exact good_selected scene hheld _
    next htimeout =>
      have htimeout : (s.replies s.asked).status = .timeout := htimeout
      have hlands : (s.replies s.asked).lands = true := by
        simp [AudioReply.lands, AudioReply.accepted, htimeout]
      have hget := audioControlStateGet_snd abi
        (audioSceneWriteCommit .active scene.toUInt32 s).2.model
        (audioSceneWriteCommit .active scene.toUInt32 s).2
      rw [audioControlStateGet_fst]
      cases hget with
      | intro boundary hget =>
        split
        next hnone =>
          -- the query was lost
          have hanswers : (s.replies (s.asked + 1)).answers = false := by
            rw [ite_eq_right_iff] at hnone
            simpa [audioSceneWriteCommit] using hnone
          rw [hget]
          apply hrefused
          . rfl
          . rfl
          . rfl
          . rfl
          . simpa [htimeout, hanswers] using hkeeps
        next live hlive =>
          rw [if_pos hlands] at hheld
          have hactive : live.active = scene := by
            split at hlive
            next =>
              cases hlive
              rw [hheld]
              exact UInt16.toUInt16_toUInt32 scene
            next => cases hlive
          rw [if_neg (not_not.mpr hactive)]
          apply good_selected
          rw [hget]
          exact hheld
    next code hother =>
      have hother : (s.replies s.asked).status = .other code := hother
      apply hrefused
      . rfl
      . rfl
      . rfl
      . rfl
      . simpa [hother] using hkeeps

end Outcomes

section Live

open AudioState

variable {s s' : AudioState} {target : AudioTarget}

/-- The model with the control state that the firmware reports. -/
def liveModel (abi : AudioControlAbi) (s : AudioState) (ceilingPaula ceilingAx : UInt16)
    : AudioModel :=
  { s.model with
    active := (s.fw.held .active).toUInt16
    basePaula := abi.balanceCh1 (s.fw.held .baseline)
    baseAx := abi.balanceCh2 (s.fw.held .baseline)
    ceilingPaula := ceilingPaula
    ceilingAx := ceilingAx }

theorem audioInstallLiveState_snd (abi : AudioControlAbi) (s : AudioState)
    : ∃ boundary model, (audioInstallLiveState abi s).2
          = { s with asked := s.asked + 1, boundary := boundary, model := model }
        ∧ (model = s.model
          ∨ ∃ ceilingPaula ceilingAx, model = liveModel abi s ceilingPaula ceilingAx) := by
  have hget := audioControlStateGet_snd abi s.model s
  cases hget with
  | intro boundary hget =>
    unfold audioInstallLiveState
    dsimp only
    rw [hget]
    split
    next => exact ⟨boundary, s.model, rfl, Or.inl rfl⟩
    next live hlive =>
      split
      next => exact ⟨boundary, s.model, rfl, Or.inl rfl⟩
      next =>
        rw [audioControlStateGet_fst] at hlive
        split at hlive
        next =>
          cases hlive
          exact ⟨boundary, _, rfl, Or.inr ⟨_, _, rfl⟩⟩
        next => cases hlive

/-- What the firmware reports of a parameter shows the saved value only where it holds it. -/
theorem good_of_reported (htarget : target = .active ∨ target = .baseline)
    (hgood : s.Good abi target) (hanchor : s'.revertAnchor = s.revertAnchor)
    (hfw : s'.fw = s.fw) (hchanged : s'.Changed target ↔ s.Changed target)
    (hdatum : ¬s'.Differs abi target → s'.fw.held target = s'.revertAnchor.datum abi target)
    : s'.Good abi target where
  safe := by
    intro htried
    rw [hfw] at htried
    by_cases hdiffers : s'.Differs abi target
    . have hsafe := hgood.safe htried
      unfold Safe at *
      rw [hanchor, hfw]
      cases hsafe with
      | inl hsafe => exact Or.inl hsafe
      | inr hsafe =>
        refine Or.inr ⟨hchanged.mpr hsafe.changed, hdiffers, ?_⟩
        cases htarget with
        | inl htarget =>
          rw [htarget]
          trivial
        | inr htarget =>
          rw [htarget]
          trivial
    . exact Or.inl (hdatum hdiffers)
  recorded := by
    intro _ _
    cases htarget with
    | inl htarget => exact Or.inr (Or.inl htarget)
    | inr htarget => exact Or.inr (Or.inr (Or.inl htarget))
  named := by
    intro scene hname _
    rw [hname] at htarget
    simp at htarget
  encoded := by
    intro htarget
    rw [hfw]
    exact hgood.encoded htarget

theorem sameAt_live (asked : Nat) (boundary : UInt32) (ceilingPaula ceilingAx : UInt16)
    (s : AudioState) (hactive : target ≠ .active) (hbaseline : target ≠ .baseline)
    : s.SameAt abi target
        { s with asked, boundary, model := liveModel abi s ceilingPaula ceilingAx } := by
  constructor
  . rfl
  . rfl
  . rfl
  . intro _
    cases target <;> rfl
  . cases target with
    | active => contradiction
    | baseline => contradiction
    | _ => rfl

theorem good_liveModel (asked : Nat) (boundary : UInt32) (ceilingPaula ceilingAx : UInt16)
    (hgood : s.Good abi target)
    : ({ s with asked, boundary, model := liveModel abi s ceilingPaula ceilingAx }
        : AudioState).Good abi target := by
  cases target with
  | active =>
    apply good_of_reported (Or.inl rfl) hgood
    . rfl
    . rfl
    . rfl
    . intro hsame
      simp only [Differs, liveModel, not_not] at hsame
      have hencoded := hgood.encoded (Or.inl rfl)
      cases hencoded with
      | intro model hmodel =>
        have hmodel : s.fw.held .active = model.active.toUInt32 := hmodel
        rw [hmodel, UInt16.toUInt16_toUInt32] at hsame
        exact hmodel.trans (congrArg UInt16.toUInt32 hsame)
  | baseline =>
    apply good_of_reported (Or.inr rfl) hgood
    . rfl
    . rfl
    . rfl
    . intro hsame
      simp only [Differs, liveModel, not_or, not_not] at hsame
      have hencoded := hgood.encoded (Or.inr rfl)
      cases hencoded with
      | intro model hmodel =>
        have hmodel : s.fw.held .baseline = abi.balancePack model.basePaula model.baseAx := hmodel
        rw [hmodel] at hsame
        calc s.fw.held .baseline
          _ = abi.balancePack model.basePaula model.baseAx := hmodel
          _ = abi.balancePack (abi.balanceCh1 (abi.balancePack model.basePaula model.baseAx))
                (abi.balanceCh2 (abi.balancePack model.basePaula model.baseAx)) :=
            (abi.balance_repack _ _).symm
          _ = abi.balancePack s.revertAnchor.basePaula s.revertAnchor.baseAx := by
            rw [hsame.1, hsame.2]
  | calibration => exact (sameAt_live _ _ _ _ s (by simp) (by simp)).good hgood
  | value scene param => exact (sameAt_live _ _ _ _ s (by simp) (by simp)).good hgood
  | name scene => exact (sameAt_live _ _ _ _ s (by simp) (by simp)).good hgood

theorem good_install (hgood : s.Good abi target)
    : (audioInstallLiveState abi s).2.Good abi target := by
  obtain ⟨boundary, model, hstate, hmodel⟩ := audioInstallLiveState_snd abi s
  rw [hstate]
  cases hmodel with
  | inl hmodel =>
    rw [hmodel]
    exact (sameAt_polled _ _ s).good hgood
  | inr hmodel =>
    obtain ⟨ceilingPaula, ceilingAx, hmodel⟩ := hmodel
    rw [hmodel]
    exact good_liveModel _ _ _ _ hgood

/-- A calibration is no longer awaited. -/
theorem good_settled (text : String) (hgood : s.Good abi target)
    : (audioText text { s with calibrationPending := false }).Good abi target := by
  have hsame : s.SameAt abi target (audioText text { s with calibrationPending := false }) := by
    constructor
    . rfl
    . rfl
    . rfl
    . intro _
      cases target <;> rfl
    . cases target <;> rfl
  exact hsame.good hgood

end Live

section Tried

open AudioState

variable {s s' s'' : AudioState} {target : AudioTarget}

theorem tried_selectScene (scene : UInt16) (h : s.fw.tried .active = true)
    : (audioSelectScene abi scene s).2.fw.tried .active = true := by
  unfold audioSelectScene
  split
  next => exact h
  next =>
    dsimp only
    split
    next => exact AudioFirmware.tried_receive
    next =>
      have hget := @sameAt_get abi .active (audioSceneWriteCommit .active scene.toUInt32 s).2.model
        (audioSceneWriteCommit .active scene.toUInt32 s).2
      have htried := hget.tried.trans AudioFirmware.tried_receive
      split
      next => exact htried
      next =>
        split
        next => exact htried
        next => exact htried
    next => exact AudioFirmware.tried_receive

theorem tried_taken (datum : target.Datum) (ok pending failed : String) (s : AudioState)
    : (audioWriteAccepted (audioSceneWriteCommit target datum s).1 ok pending failed
        (audioSceneWriteCommit target datum s).2).2.fw.tried target = true := by
  simp [audioSceneWriteCommit]

theorem tried_setBaseline (paula ax : UInt16) (h : s.fw.tried .baseline = true)
    : (audioSetBaseline abi paula ax s).2.fw.tried .baseline = true := by
  unfold audioSetBaseline
  split
  next => exact h
  next =>
    dsimp only
    split
    next => exact AudioFirmware.tried_receive
    next => exact tried_taken _ _ _ _ s

theorem tried_setCalibration (paula ax : UInt16) (h : s.fw.tried .calibration = true)
    : (audioSetCalibration abi paula ax s).2.fw.tried .calibration = true := by
  unfold audioSetCalibration
  split
  next => exact h
  next =>
    dsimp only
    split
    next => exact AudioFirmware.tried_receive
    next => exact tried_taken _ _ _ _ s

theorem tried_setSceneValue (scene param value : UInt16)
    (h : s.fw.tried (.value scene param) = true)
    : (audioSetSceneValue abi scene param value s).2.fw.tried (.value scene param) = true := by
  unfold audioSetSceneValue
  split
  next => exact h
  next =>
    split
    next => exact h
    next =>
      dsimp only
      split
      next =>
        split
        next => exact AudioFirmware.tried_receive
        next => exact AudioFirmware.tried_receive
      next => exact tried_taken _ _ _ _ s

theorem tried_renameScene (scene : UInt16) (name : List UInt8)
    (h : s.fw.tried (.name scene) = true)
    : (audioRenameScene scene name s).2.fw.tried (.name scene) = true := by
  unfold audioRenameScene
  split
  next => exact h
  next =>
    dsimp only
    split
    next => exact AudioFirmware.tried_receive
    next =>
      dsimp only [audioMarkDirty]
      rw [audioWriteAccepted_fw]
      exact AudioFirmware.tried_receive

end Tried

end ZZTop
