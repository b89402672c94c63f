import ZZ9000.Config.Settings
import ZZ9000.Fwup.BundleLemmas

/-!
This module contains the proof that the editor tracks which fields differ from the saved record, and
that a save keeps what other writers put on the card.
-/

namespace ZZCfg

open ZZFwup

section Fields

/-- The records hold the same setting in field `f`, presence included. -/
def FieldAgrees (a b : ZzcfgValues) (f : CfgField) : Prop :=
  match f with
  | .profile =>
    a.videocapProfile = b.videocapProfile ∧ a.videocapProfilePresent = b.videocapProfilePresent
  | .sample =>
    a.videocapSample = b.videocapSample ∧ a.videocapSamplePresent = b.videocapSamplePresent
  | .scanMode => a.scanlineMode = b.scanlineMode ∧ a.scanlineModePresent = b.scanlineModePresent
  | .scanParity =>
    a.scanlineParity = b.scanlineParity ∧ a.scanlineParityPresent = b.scanlineParityPresent
  | .cropH =>
    a.videocapCropH = b.videocapCropH ∧ a.videocapCropHPresent = b.videocapCropHPresent
  | .cropV =>
    a.videocapCropV = b.videocapCropV ∧ a.videocapCropVPresent = b.videocapCropVPresent
  | .phaseE7m =>
    a.videocapPhase = b.videocapPhase ∧ a.videocapPhasePresent = b.videocapPhasePresent
  | .phaseC28 =>
    a.videocapC28Phase = b.videocapC28Phase ∧ a.videocapC28PhasePresent = b.videocapC28PhasePresent
  | .width =>
    a.videocapWidth = b.videocapWidth ∧ a.videocapWidthPresent = b.videocapWidthPresent
  | .height =>
    a.videocapHeight = b.videocapHeight ∧ a.videocapHeightPresent = b.videocapHeightPresent
  | .int2 => a.int2 = b.int2
  | .mac => a.mac = b.mac
  | .hdf => a.hdf = b.hdf
  | .offscreen => a.offscreenBitmaps = b.offscreenBitmaps
  | .overlay => a.videoOverlay = b.videoOverlay
  | .fastRam =>
    a.fastRam = b.fastRam ∧ a.fastRamPresent = b.fastRamPresent ∧
      a.fastRamInvalid = b.fastRamInvalid
  | .gamma => a.gamma = b.gamma ∧ a.gammaPresent = b.gammaPresent

/-- The records agree on the audio keys and on what the board tells. -/
structure RestAgrees (a b : ZzcfgValues) : Prop where
  useVideocapProfileKey : a.useVideocapProfileKey = b.useVideocapProfileKey
  firmwareCapabilities : a.firmwareCapabilities = b.firmwareCapabilities
  audioActive : a.audioActive = b.audioActive
  audioActivePresent : a.audioActivePresent = b.audioActivePresent
  audioBaseline : a.audioBaseline = b.audioBaseline
  audioBaselinePresent : a.audioBaselinePresent = b.audioBaselinePresent
  audioCeilingPaula : a.audioCeilingPaula = b.audioCeilingPaula
  audioCeilingPaulaPresent : a.audioCeilingPaulaPresent = b.audioCeilingPaulaPresent
  audioCeilingAx : a.audioCeilingAx = b.audioCeilingAx
  audioCeilingAxPresent : a.audioCeilingAxPresent = b.audioCeilingAxPresent
  audioScene : a.audioScene = b.audioScene

theorem FieldAgrees.refl (a : ZzcfgValues) (f : CfgField) : FieldAgrees a a f := by
  unfold FieldAgrees
  cases f <;> simp

theorem FieldAgrees.trans {a b c : ZzcfgValues} {f : CfgField} (hab : FieldAgrees a b f)
    (hbc : FieldAgrees b c f) :
    FieldAgrees a c f := by
  unfold FieldAgrees at *
  cases f <;> simp_all

theorem RestAgrees.refl (a : ZzcfgValues) : RestAgrees a a := by
  constructor <;> rfl

theorem RestAgrees.trans {a b c : ZzcfgValues} (hab : RestAgrees a b) (hbc : RestAgrees b c) :
    RestAgrees a c where
  useVideocapProfileKey := hab.useVideocapProfileKey.trans hbc.useVideocapProfileKey
  firmwareCapabilities := hab.firmwareCapabilities.trans hbc.firmwareCapabilities
  audioActive := hab.audioActive.trans hbc.audioActive
  audioActivePresent := hab.audioActivePresent.trans hbc.audioActivePresent
  audioBaseline := hab.audioBaseline.trans hbc.audioBaseline
  audioBaselinePresent := hab.audioBaselinePresent.trans hbc.audioBaselinePresent
  audioCeilingPaula := hab.audioCeilingPaula.trans hbc.audioCeilingPaula
  audioCeilingPaulaPresent := hab.audioCeilingPaulaPresent.trans hbc.audioCeilingPaulaPresent
  audioCeilingAx := hab.audioCeilingAx.trans hbc.audioCeilingAx
  audioCeilingAxPresent := hab.audioCeilingAxPresent.trans hbc.audioCeilingAxPresent
  audioScene := hab.audioScene.trans hbc.audioScene

theorem fieldCopy_self (dst src : ZzcfgValues) (f : CfgField) :
    FieldAgrees (fieldCopy dst src f) src f := by
  unfold FieldAgrees fieldCopy
  cases f <;> simp

theorem fieldCopy_other (dst src : ZzcfgValues) {f g : CfgField} (h : g ≠ f) :
    FieldAgrees (fieldCopy dst src f) dst g := by
  unfold FieldAgrees fieldCopy
  cases f <;> cases g <;>
    first
    | exact absurd rfl h
    | exact rfl
    | exact ⟨rfl, rfl⟩
    | exact ⟨rfl, rfl, rfl⟩

theorem fieldCopy_rest (dst src : ZzcfgValues) (f : CfgField) :
    RestAgrees (fieldCopy dst src f) dst := by
  unfold fieldCopy
  cases f <;> constructor <;> rfl

theorem fieldEqual_congr {a a' b : ZzcfgValues} {f : CfgField} (h : FieldAgrees a a' f) :
    fieldEqual a b f = fieldEqual a' b f := by
  unfold FieldAgrees at h
  unfold fieldEqual settingsPresent settingsValue
  cases f <;> simp_all

theorem fieldEqual_self (a : ZzcfgValues) (f : CfgField) : fieldEqual a a f = true := by
  unfold fieldEqual
  cases f <;> simp

end Fields

namespace SettingsState

/-- A bit of `dirty` is set exactly when the edit copy differs from the saved copy. -/
def DirtyTracks (cfg : SettingsState) : Prop :=
  ∀ f, cfg.dirty f = !fieldEqual cfg.edit cfg.saved f

/-- An edit of a field touches no other field. -/
theorem setField_eq {v v' : ZzcfgValues} {f : CfgField} {value : Int}
    (h : setField v f value = some v') :
    v' = fieldCopy v v' f := by
  unfold setField at h
  cases f <;> first | contradiction | (cases h; rfl)

theorem setTextField_eq {v v' : ZzcfgValues} {f : CfgField} {text : List Char}
    (h : setTextField v f text = some v') :
    v' = fieldCopy v v' f := by
  unfold setTextField at h
  cases f <;> first | contradiction | (cases h; rfl)

theorem clearField_eq {v v' : ZzcfgValues} {f : CfgField} (h : clearField v f = some v') :
    v' = fieldCopy v v' f := by
  unfold clearField at h
  cases f <;> first | contradiction | (cases h; rfl)

theorem edited_dirtyTracks {cfg : SettingsState} {f : CfgField} {edit : Option ZzcfgValues}
    (hcfg : cfg.DirtyTracks) (hedit : ∀ v, edit = some v → v = fieldCopy cfg.edit v f) :
    (cfg.edited f edit).DirtyTracks := by
  unfold edited
  cases edit with
  | none => exact hcfg
  | some v =>
    intro g
    unfold updateDirty
    dsimp only
    by_cases hg : g = f
    . subst hg
      rw [Function.update_self]
    . rw [Function.update_of_ne hg, hcfg g]
      have hframe := fieldCopy_other cfg.edit v hg
      rw [← hedit v rfl] at hframe
      rw [fieldEqual_congr hframe]

theorem settingsReset_dirtyTracks {cfg : SettingsState} (f : CfgField) (hcfg : cfg.DirtyTracks) :
    (cfg.settingsReset f).DirtyTracks := by
  intro g
  unfold settingsReset
  dsimp only
  by_cases hg : g = f
  . subst hg
    rw [Function.update_self, fieldEqual_congr (fieldCopy_self cfg.edit cfg.saved g),
      fieldEqual_self]
    rfl
  . rw [Function.update_of_ne hg, hcfg g, fieldEqual_congr (fieldCopy_other _ _ hg)]

end SettingsState

/-- The edits of the user. -/
inductive SettingsEdit where
  | set (f : CfgField) (value : Int)
  | setText (f : CfgField) (text : List Char)
  | clear (f : CfgField)
  | reset (f : CfgField)

namespace SettingsState

def applyEdit (cfg : SettingsState) (edit : SettingsEdit) : SettingsState :=
  match edit with
  | .set f value => cfg.settingsSet f value
  | .setText f text => cfg.settingsSetText f text
  | .clear f => cfg.settingsClear f
  | .reset f => cfg.settingsReset f

def applyEdits (cfg : SettingsState) (edits : List SettingsEdit) : SettingsState :=
  match edits with
  | [] => cfg
  | edit :: edits => applyEdits (cfg.applyEdit edit) edits

theorem applyEdit_dirtyTracks {cfg : SettingsState} (hcfg : cfg.DirtyTracks)
    (edit : SettingsEdit) :
    (cfg.applyEdit edit).DirtyTracks := by
  cases edit with
  | set f value => exact edited_dirtyTracks hcfg fun _ h => setField_eq h
  | setText f text => exact edited_dirtyTracks hcfg fun _ h => setTextField_eq h
  | clear f => exact edited_dirtyTracks hcfg fun _ h => clearField_eq h
  | reset f => exact settingsReset_dirtyTracks f hcfg

theorem applyEdits_dirtyTracks {cfg : SettingsState} (hcfg : cfg.DirtyTracks)
    (edits : List SettingsEdit) :
    (cfg.applyEdits edits).DirtyTracks := by
  induction edits generalizing cfg with
  | nil => exact hcfg
  | cons edit edits ih =>
    unfold applyEdits
    exact ih (applyEdit_dirtyTracks hcfg edit)

variable {σ : Type}

theorem settingsLoad_dirtyTracks (board : Board σ) (cfg : SettingsState) (ctx : σ) :
    (settingsLoad board cfg ctx).1.DirtyTracks := by
  intro f
  unfold settingsLoad
  dsimp only
  rw [fieldEqual_self]
  rfl

/-- What the loop of a save leaves of every field. -/
theorem copyDirty_spec (dirty : CfgField → Bool) (dst src : ZzcfgValues)
    (fields : List CfgField) :
    (∀ f, dirty f = true → f ∈ fields → FieldAgrees (copyDirty dirty dst src fields) src f) ∧
    (∀ f, ¬(dirty f = true ∧ f ∈ fields) →
      FieldAgrees (copyDirty dirty dst src fields) dst f) ∧
    RestAgrees (copyDirty dirty dst src fields) dst := by
  induction fields generalizing dst with
  | nil =>
    refine ⟨?_, ?_, ?_⟩
    . intro f _ hmem
      cases hmem
    . intro f _
      exact FieldAgrees.refl dst f
    . exact RestAgrees.refl dst
  | cons g fields ih =>
    unfold copyDirty
    have ih := ih (if dirty g then fieldCopy dst src g else dst)
    refine ⟨?_, ?_, ?_⟩
    . intro f hdirty hmem
      by_cases hrest : f ∈ fields
      . exact ih.1 f hdirty hrest
      . have hfg : f = g := by
          cases List.mem_cons.mp hmem with
          | inl h => exact h
          | inr h => contradiction
        subst hfg
        apply (ih.2.1 f (fun h => hrest h.2)).trans
        rw [if_pos hdirty]
        exact fieldCopy_self dst src f
    . intro f hf
      apply (ih.2.1 f (fun h => hf ⟨h.1, by simp [h.2]⟩)).trans
      split
      . next hg =>
        apply fieldCopy_other
        intro hfg
        subst hfg
        exact hf ⟨hg, by simp⟩
      . exact FieldAgrees.refl dst f
    . apply ih.2.2.trans
      split
      . exact fieldCopy_rest dst src g
      . exact RestAgrees.refl dst

theorem CfgField_mem_all (f : CfgField) : f ∈ CfgField.all := by
  cases f <;> decide

/-- The status of the card file and the record that its text stands for. -/
def cardContents (board : Board σ) (ctx : σ) : UInt16 × ZzcfgValues :=
  let (v, ctx) := valuesDefaults board ctx
  let (status, text) := (board.zzcfgReadRaw (maxSize + 1) ctx).1
  (status, if status = FileStatus.ok then zzcfgParseText text v else v)

theorem readCard_eq (board : Board σ) {cfg : SettingsState} (h : cfg.supported = true) (ctx : σ) :
    (readCard board cfg true ctx).1.status = (cardContents board ctx).1 ∧
    (readCard board cfg true ctx).1.values =
      zzcfgFastRamInvalidateWithheld (cardContents board ctx).2 cfg.fastRamOutcome := by
  unfold readCard cardContents
  rw [h]
  exact ⟨rfl, rfl⟩

theorem invalidateWithheld_agrees (v : ZzcfgValues) (outcome : UInt16) :
    (∀ f, f ≠ .fastRam → FieldAgrees (zzcfgFastRamInvalidateWithheld v outcome) v f) ∧
    RestAgrees (zzcfgFastRamInvalidateWithheld v outcome) v := by
  unfold zzcfgFastRamInvalidateWithheld
  split
  . refine ⟨?_, ?_⟩
    . intro f hf
      unfold FieldAgrees
      cases f <;> first | contradiction | exact rfl | exact ⟨rfl, rfl⟩
    . constructor <;> rfl
  . exact ⟨fun f _ => FieldAgrees.refl v f, RestAgrees.refl v⟩

/-- A transfer that succeeds has pushed the text of the record. -/
theorem zzcfgSave_ok {io : FwupIo σ} {v : ZzcfgValues} {client : FwupClient σ}
    (h : (zzcfgSave io v client).1 = Status.ok) :
    ∃ text, zzcfgGenerate v maxSize = some text ∧
      (zzcfgSave io v client).2.log = client.log ++
        [⟨.openFile cfgFileName, Status.ok⟩, ⟨.write (textBytes text), Status.ok⟩,
          ⟨.close, Status.ok⟩] := by
  have hname : nameValid cfgFileName = true := by decide
  unfold zzcfgSave at h ⊢
  cases hgen : zzcfgGenerate v maxSize with
  | none =>
    rw [hgen] at h
    have h : errConfigSize = Status.ok := h
    exact absurd h (by decide)
  | some text =>
    rw [hgen] at h
    refine ⟨text, rfl, ?_⟩
    have hopen : (client.fwupOpen io cfgFileName).2.log =
        client.log ++ [⟨.openFile cfgFileName, (client.fwupOpen io cfgFileName).1⟩] :=
      FwupClient.fwupOpen_log io client hname
    dsimp only at h ⊢
    split at h
    . contradiction
    . next hst =>
      have hst := not_not.mp hst
      rw [hst] at hopen ⊢
      rw [if_neg (by simp)]
      generalize (client.fwupOpen io cfgFileName).2 = opened at h hopen ⊢
      have hwrite := FwupClient.fwupWriteChunk_log io opened (textBytes text)
      split at h
      . next hne => exact absurd h hne
      . next hst =>
        have hst := not_not.mp hst
        rw [hst] at hwrite ⊢
        rw [if_neg (by simp)]
        generalize (opened.fwupWriteChunk io (textBytes text)).2 = written at h hwrite ⊢
        have hwrite : written.log = opened.log ++ [⟨.write (textBytes text), Status.ok⟩] := by
          cases hwrite with
          | inl hlen => exact absurd hlen.2 (by decide)
          | inr hlen => exact hlen.2
        split at h
        . next hne => exact absurd h hne
        . next hst =>
          have hst := not_not.mp hst
          rw [hst, if_neg (by simp)]
          have hclose : (written.fwupClose io).2.log = written.log ++ [⟨.close, Status.ok⟩] := by
            rw [← hst]
            rfl
          rw [hclose, hwrite, hopen]
          simp only [List.append_assoc, List.cons_append, List.nil_append]

theorem settingsSave_failed (board : Board σ) (cfg : SettingsState) (client : FwupClient σ)
    (h : (settingsSave board cfg client).1.1 ≠ Status.ok) :
    (settingsSave board cfg client).2.1.edit = cfg.edit ∧
    (settingsSave board cfg client).2.1.dirty = cfg.dirty := by
  unfold settingsSave at h ⊢
  split
  . exact ⟨rfl, rfl⟩
  . next hsupported =>
    rw [if_neg hsupported] at h
    dsimp only at h ⊢
    split
    . exact ⟨rfl, rfl⟩
    . next hcard =>
      rw [if_neg hcard] at h
      split
      . next hst =>
        rw [if_pos hst] at h
        contradiction
      . exact ⟨rfl, rfl⟩

theorem settingsSave_ok (board : Board σ) (cfg : SettingsState) (client : FwupClient σ)
    (h : (settingsSave board cfg client).1.1 = Status.ok) :
    ∃ record text, (settingsSave board cfg client).1.2 = some record ∧
      zzcfgGenerate record maxSize = some text ∧
      (settingsSave board cfg client).2.2.log = client.log ++
        [⟨.openFile cfgFileName, Status.ok⟩, ⟨.write (textBytes text), Status.ok⟩,
          ⟨.close, Status.ok⟩] := by
  unfold settingsSave at h ⊢
  split
  . next hsupported =>
    rw [if_pos hsupported] at h
    have h : errUnknown = Status.ok := h
    exact absurd h (by decide)
  . next hsupported =>
    rw [if_neg hsupported] at h
    dsimp only at h ⊢
    split
    . next hcard =>
      rw [if_pos hcard] at h
      have h : errOpen = Status.ok := h
      exact absurd h (by decide)
    . next hcard =>
      rw [if_neg hcard] at h
      split
      . next hst =>
        obtain ⟨text, hgen, hlog⟩ := zzcfgSave_ok hst
        exact ⟨_, text, rfl, hgen, hlog⟩
      . next hst =>
        rw [if_neg hst] at h
        contradiction

/-- The record that a save hands to the writer. -/
theorem settingsSave_record {board : Board σ} {cfg : SettingsState} {client : FwupClient σ}
    {record : ZzcfgValues} (h : (settingsSave board cfg client).1.2 = some record) :
    ((cardContents board client.ctx).1 = FileStatus.ok ∨
      (cardContents board client.ctx).1 = FileStatus.noFile) ∧
    record = copyDirty cfg.dirty
      (zzcfgFastRamInvalidateWithheld (cardContents board client.ctx).2 cfg.fastRamOutcome)
      cfg.edit CfgField.all := by
  unfold settingsSave at h
  split at h
  . contradiction
  . next hsupported =>
    have hsupported : cfg.supported = true := by simpa using hsupported
    have hread := readCard_eq board hsupported client.ctx
    dsimp only at h
    rw [hread.1, hread.2] at h
    split at h
    . contradiction
    . next hcard =>
      have hrecord : copyDirty cfg.dirty
          (zzcfgFastRamInvalidateWithheld (cardContents board client.ctx).2 cfg.fastRamOutcome)
          cfg.edit CfgField.all = record := by
        split at h <;> exact Option.some.inj h
      refine ⟨?_, hrecord.symm⟩
      simp only [Bool.and_eq_true, decide_eq_true_eq, not_and, not_not] at hcard
      by_cases hok : (cardContents board client.ctx).1 = FileStatus.ok
      . exact Or.inl hok
      . exact Or.inr (hcard hok)

/--
After a load and any edits, whatever is on the card at the save: a bit is dirty exactly when the
field differs from the saved copy; a save that fails leaves the edits alone; the record that is
written has the edits in the dirty fields and the card's contents in all others. Fast RAM counts as
invalid on the card if the last boot withheld it for its configuration.
-/
theorem settingsSave_keeps (board : Board σ) (before : SettingsState) (ctx : σ)
    (edits : List SettingsEdit) (client : FwupClient σ) :
    let cfg := (settingsLoad board before ctx).1.applyEdits edits
    let save := settingsSave board cfg client
    let card := cardContents board client.ctx
    (∀ f, cfg.dirty f = true ↔ fieldEqual cfg.edit cfg.saved f = false) ∧
    (save.1.1 ≠ Status.ok → save.2.1.edit = cfg.edit ∧ save.2.1.dirty = cfg.dirty) ∧
    (save.1.1 = Status.ok → ∃ record text, save.1.2 = some record ∧
      zzcfgGenerate record maxSize = some text ∧
      save.2.2.log = client.log ++
        [⟨.openFile cfgFileName, Status.ok⟩, ⟨.write (textBytes text), Status.ok⟩,
          ⟨.close, Status.ok⟩]) ∧
    ∀ record, save.1.2 = some record →
      (card.1 = FileStatus.ok ∨ card.1 = FileStatus.noFile) ∧
      (∀ f, cfg.dirty f = true → FieldAgrees record cfg.edit f) ∧
      (∀ f, f ≠ .fastRam → cfg.dirty f = false → FieldAgrees record card.2 f) ∧
      (cfg.dirty .fastRam = false →
        FieldAgrees record (zzcfgFastRamInvalidateWithheld card.2 cfg.fastRamOutcome) .fastRam) ∧
      RestAgrees record card.2 := by
  intro cfg save card
  have htracks : cfg.DirtyTracks :=
    applyEdits_dirtyTracks (settingsLoad_dirtyTracks board before ctx) edits
  refine ⟨?_, ?_⟩
  . intro f
    rw [htracks f]
    simp
  . refine ⟨settingsSave_failed board cfg client, settingsSave_ok board cfg client, ?_⟩
    intro record hrecord
    obtain ⟨hstatus, hcopy⟩ := settingsSave_record hrecord
    have hspec := copyDirty_spec cfg.dirty
      (zzcfgFastRamInvalidateWithheld card.2 cfg.fastRamOutcome) cfg.edit CfgField.all
    have hwithheld := invalidateWithheld_agrees card.2 cfg.fastRamOutcome
    rw [← hcopy] at hspec
    refine ⟨hstatus, ?_, ?_, ?_, ?_⟩
    . intro f hf
      exact hspec.1 f hf (CfgField_mem_all f)
    . intro f hfast hf
      apply (hspec.2.1 f (by simp [hf])).trans
      exact hwithheld.1 f hfast
    . intro hf
      exact hspec.2.1 .fastRam (by simp [hf])
    . exact hspec.2.2.trans hwithheld.2

end SettingsState

/-- A board whose last boot found the configuration invalid: the last command and the last key. -/
structure WithheldBoard where
  command : UInt16
  key : UInt16

/-- The text that has been put on its card since. -/
def repairedCard : List Char := "fast_ram = on\n".toList

def withheldBoard : Board WithheldBoard where
  fwVersion := 0x0203
  fwCaps := 0
  regRead reg ctx :=
    if reg = Reg.configFile then
      (if ctx.command = 0 then FileStatus.idle else FileStatus.ok, ctx)
    else if reg = Reg.configFileLen then
      (UInt16.ofNat repairedCard.length, ctx)
    else if reg = Reg.configKey then
      (if ctx.key = QueryKey.fastRamOutcome then FastRamOutcome.invalid else 0, ctx)
    else
      (1, ctx)
  regWrite reg value ctx :=
    if reg = Reg.configFile then
      { ctx with command := value }
    else
      { ctx with key := value }
  bufferRead offset ctx := ((repairedCard.getD offset ' ').toNat.toUInt8, ctx)
  fwup := {
    readStatus := fun ctx => (Status.ok, ctx)
    writeCmd := fun _ ctx => ctx
    writeLen := fun _ ctx => ctx
    stage := fun _ ctx => ctx
    readMirror := none
    idle := none }

namespace SettingsState

def blank : SettingsState where
  supported := false
  readStatus := FileStatus.idle
  fileBytes := 0
  saved := defaultValues false 0 0 0 100
  edit := defaultValues false 0 0 0 100
  dirty _ := false
  fastRamState := .unavailable
  fastRamOutcome := FastRamOutcome.pending
  saveValues := defaultValues false 0 0 0 100

/-- Fast RAM need not agree with the card: the boot outcome withholds what the card says now. -/
theorem settingsSave_keeps_fails :
    ¬∀ (board : Board WithheldBoard) (before : SettingsState) (ctx : WithheldBoard)
      (edits : List SettingsEdit) (client : FwupClient WithheldBoard) (record : ZzcfgValues),
      let cfg := (settingsLoad board before ctx).1.applyEdits edits
      (settingsSave board cfg client).1.2 = some record →
      ∀ f, cfg.dirty f = false → FieldAgrees record (cardContents board client.ctx).2 f := by
  intro h
  have h := h withheldBoard blank ⟨0, 0⟩ [.set .scanMode 1] ⟨⟨0, 0⟩, []⟩
  dsimp only at h
  generalize hsave : (settingsSave withheldBoard
    ((settingsLoad withheldBoard blank ⟨0, 0⟩).1.applyEdits [.set .scanMode 1])
    ⟨⟨0, 0⟩, []⟩).1.2 = save at h
  cases save with
  | none =>
    have : ((settingsSave withheldBoard
        ((settingsLoad withheldBoard blank ⟨0, 0⟩).1.applyEdits [.set .scanMode 1])
        ⟨⟨0, 0⟩, []⟩).1.2).isSome = true := by
      decide +kernel
    rw [hsave] at this
    cases this
  | some record =>
    have hrecord : ((settingsSave withheldBoard
        ((settingsLoad withheldBoard blank ⟨0, 0⟩).1.applyEdits [.set .scanMode 1])
        ⟨⟨0, 0⟩, []⟩).1.2).map (·.fastRamPresent) = some false := by
      decide +kernel
    have hagrees := h record rfl .fastRam (by decide +kernel)
    have hcard : (cardContents withheldBoard ⟨0, 0⟩).2.fastRamPresent = true := by
      decide +kernel
    rw [hsave] at hrecord
    have hrecord : record.fastRamPresent = false := by simpa using hrecord
    have := hagrees.2.1
    rw [hrecord, hcard] at this
    cases this

end SettingsState

end ZZCfg
