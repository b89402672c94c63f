import ZZ9000.Config.Guard
import ZZ9000.Config.Rewrite

/-!
This module contains the proof that the guard puts the settings of its snapshot back next to the
audio keys of the firmware, whatever the calls before did not achieve.
-/

namespace ZZCfg

open ZZFwup

/--
The records hold the same setting in field `f`: the capture profile up to what the writer
substitutes for it, and an invalid Fast RAM setting like an absent one.
-/
def SettingAgrees (a b : ZzcfgValues) (f : CfgField) : Prop :=
  match f with
  | .mac => a.mac = b.mac
  | .hdf => a.hdf = b.hdf
  | .profile =>
    a.videocapProfilePresent = b.videocapProfilePresent ∧
      (a.videocapProfilePresent = true → writtenProfile a = writtenProfile b)
  | f =>
    settingsPresent a f = settingsPresent b f ∧
      (settingsPresent a f = true → settingsValue a f = settingsValue b f)

namespace SettingAgrees

variable {a b c : ZzcfgValues} {f : CfgField}

theorem symm (h : SettingAgrees a b f) : SettingAgrees b a f := by
  unfold SettingAgrees at *
  cases f with
  | mac => exact Eq.symm h
  | hdf => exact Eq.symm h
  | _ => exact ⟨h.1.symm, fun hp => (h.2 (h.1.trans hp)).symm⟩

theorem trans (hab : SettingAgrees a b f) (hbc : SettingAgrees b c f) : SettingAgrees a c f := by
  unfold SettingAgrees at *
  cases f with
  | mac => exact Eq.trans hab hbc
  | hdf => exact Eq.trans hab hbc
  | _ =>
    refine ⟨hab.1.trans hbc.1, ?_⟩
    intro hp
    exact (hab.2 hp).trans (hbc.2 (hab.1.symm.trans hp))

theorem of_fieldAgrees (h : FieldAgrees a b f)
    (hkey : a.useVideocapProfileKey = b.useVideocapProfileKey)
    (hcaps : a.firmwareCapabilities = b.firmwareCapabilities) :
    SettingAgrees a b f := by
  unfold FieldAgrees at h
  unfold SettingAgrees settingsPresent settingsValue writtenProfile
  cases f <;> simp_all

/-- The rule of the boot outcome treats both records alike. -/
theorem withheld (h : SettingAgrees a b f) (outcome : UInt16) :
    SettingAgrees (zzcfgFastRamInvalidateWithheld a outcome)
      (zzcfgFastRamInvalidateWithheld b outcome) f := by
  unfold zzcfgFastRamInvalidateWithheld
  split
  . cases f with
    | fastRam => exact ⟨rfl, fun h => nomatch h⟩
    | _ => exact h
  . exact h

end SettingAgrees

theorem writtenProfile_settled (d : ZzcfgValues) {v : ZzcfgValues}
    (h : v.videocapProfilePresent = true) :
    writtenProfile (settled d v) = writtenProfile v := by
  have hsupported := writtenProfile_supported v
  have hwritten := zzcfgProfileSanitize_supported hsupported.1
  have hprofile : (settled d v).videocapProfile = writtenProfile v := if_pos h
  have hcaps : (settled d v).firmwareCapabilities = v.firmwareCapabilities := rfl
  have hkey : (settled d v).useVideocapProfileKey = v.useVideocapProfileKey := rfl
  rw [writtenProfile, hprofile, hcaps, hkey, hwritten.1]
  split
  . rfl
  . next huse => rw [if_pos (hsupported.2 (by simpa using huse))]

theorem patchLive_agrees (d v : ZzcfgValues) (f : CfgField) : SettingAgrees (patchLive d v) v f := by
  unfold SettingAgrees
  cases f with
  | mac => rfl
  | hdf => rfl
  | profile => exact ⟨rfl, fun _ => rfl⟩
  | scanMode =>
    refine ⟨rfl, ?_⟩
    intro hp
    have hp : v.scanlineModePresent = true := hp
    unfold settingsValue patchLive
    dsimp only
    rw [if_pos hp]
  | scanParity =>
    refine ⟨rfl, ?_⟩
    intro hp
    have hp : v.scanlineParityPresent = true := hp
    unfold settingsValue patchLive
    dsimp only
    rw [if_pos hp]
  | gamma =>
    refine ⟨rfl, ?_⟩
    intro hp
    have hp : v.gammaPresent = true := hp
    unfold settingsValue patchLive
    dsimp only
    rw [if_pos hp]
  | _ => exact ⟨rfl, fun _ => rfl⟩

/-- Writing a record and parsing the text keeps its settings. -/
theorem settled_agrees (d : ZzcfgValues) {v : ZzcfgValues}
    (hfast : v.fastRamPresent = true → v.fastRamInvalid = false) (f : CfgField) :
    SettingAgrees (settled d v) v f := by
  cases f with
  | profile => exact ⟨rfl, fun hp => writtenProfile_settled d hp⟩
  | fastRam =>
    refine ⟨?_, fun _ => rfl⟩
    have hpresent : settingsPresent (settled d v) .fastRam = v.fastRamPresent :=
      Bool.and_true v.fastRamPresent
    rw [hpresent]
    unfold settingsPresent
    dsimp only
    cases hp : v.fastRamPresent with
    | false => rfl
    | true =>
      rw [hfast hp]
      rfl
  | scanMode => exact patchLive_agrees d v .scanMode
  | scanParity => exact patchLive_agrees d v .scanParity
  | gamma => exact patchLive_agrees d v .gamma
  | mac => rfl
  | hdf => rfl
  | _ => exact ⟨rfl, fun _ => rfl⟩

theorem settled_rest (d v : ZzcfgValues) : RestAgrees (settled d v) v := by
  constructor <;> rfl

theorem patchLive_rest (d v : ZzcfgValues) : RestAgrees (patchLive d v) v := by
  constructor <;> rfl

section Splice

open SettingsGuard

theorem spliceAudio_fields (before after : ZzcfgValues) (f : CfgField) :
    FieldAgrees (spliceAudio before after) before f := by
  unfold FieldAgrees
  cases f <;> simp [spliceAudio]

variable {useProfileKey : Bool} {caps mode parity gamma mode' parity' gamma' : UInt16}

theorem ReadOver.spliceAudio {before after : ZzcfgValues}
    (hbefore : ReadOver (defaultValues useProfileKey caps mode parity gamma) before)
    (hafter : ReadOver (defaultValues useProfileKey caps mode' parity' gamma') after) :
    ReadOver (defaultValues useProfileKey caps mode parity gamma)
      (SettingsGuard.spliceAudio before after) :=
  { hbefore with
    absent := { hbefore.absent with
      audioActive := hafter.absent.audioActive
      audioBaseline := hafter.absent.audioBaseline
      audioCeilingPaula := hafter.absent.audioCeilingPaula
      audioCeilingAx := hafter.absent.audioCeilingAx
      audioScene := hafter.absent.audioScene }
    audioCeilingPaula := hafter.audioCeilingPaula
    audioCeilingAx := hafter.audioCeilingAx }

theorem spliceAudio_rest {before after : ZzcfgValues}
    (hkey : before.useVideocapProfileKey = after.useVideocapProfileKey)
    (hcaps : before.firmwareCapabilities = after.firmwareCapabilities) :
    RestAgrees (SettingsGuard.spliceAudio before after) after where
  useVideocapProfileKey := hkey
  firmwareCapabilities := hcaps
  audioActive := rfl
  audioActivePresent := rfl
  audioBaseline := rfl
  audioBaselinePresent := rfl
  audioCeilingPaula := rfl
  audioCeilingPaulaPresent := rfl
  audioCeilingAx := rfl
  audioCeilingAxPresent := rfl
  audioScene := rfl

end Splice

namespace SettingsGuard

open SettingsState

variable {σ : Type}

/-- The board tells the parser the same capabilities at every read. -/
def boardDefaults (board : Board σ) (mode parity gamma : UInt16) : ZzcfgValues :=
  defaultValues (board.hasCap capVideocapProfile) board.fwCaps mode parity gamma

/-- What a read of the card yields while `text` is on it, whatever the board shows then. -/
def readBack (board : Board σ) (outcome : UInt16) (text : List Char)
    (mode parity gamma : UInt16) : ZzcfgValues :=
  zzcfgFastRamInvalidateWithheld (zzcfgParseText text (boardDefaults board mode parity gamma))
    outcome

/-- The status and the text of a read of the card. -/
def cardText (board : Board σ) (ctx : σ) : UInt16 × List Char :=
  (board.zzcfgReadRaw (maxSize + 1) (valuesDefaults board ctx).2).1

/-- The text on the card after a call: the one that it read, or the one that it wrote. -/
def CardHolds (board : Board σ) (client client' : FwupClient σ) (text : List Char) : Prop :=
  (client'.log = client.log ∧ cardText board client.ctx = (FileStatus.ok, text)) ∨
  (client'.log = client.log ++
    [⟨.openFile cfgFileName, Status.ok⟩, ⟨.write (textBytes text), Status.ok⟩,
      ⟨.close, Status.ok⟩] ∧
    text.length < maxSize)

/-- A record as a read of the card leaves it. -/
structure FromCard (board : Board σ) (v : ZzcfgValues) : Prop where
  readOver : ∃ mode parity gamma, ReadOver (boardDefaults board mode parity gamma) v
  texts : TextsStored v

namespace FromCard

variable {board : Board σ} {v : ZzcfgValues}

theorem fastRam (h : FromCard board v) : v.fastRamPresent = true → v.fastRamInvalid = false := by
  obtain ⟨mode, parity, gamma, hread⟩ := h.readOver
  exact hread.fastRam

theorem useVideocapProfileKey (h : FromCard board v) :
    v.useVideocapProfileKey = board.hasCap capVideocapProfile := by
  obtain ⟨mode, parity, gamma, hread⟩ := h.readOver
  exact hread.useVideocapProfileKey

theorem firmwareCapabilities (h : FromCard board v) : v.firmwareCapabilities = board.fwCaps := by
  obtain ⟨mode, parity, gamma, hread⟩ := h.readOver
  exact hread.firmwareCapabilities

theorem readBack (board : Board σ) (outcome : UInt16) (text : List Char)
    (mode parity gamma : UInt16) :
    FromCard board (readBack board outcome text mode parity gamma) where
  readOver := by
    refine ⟨mode, parity, gamma, ?_⟩
    apply ReadOver.invalidateWithheld _ rfl
    exact ReadOver.parseText (defaultValues_unread _ _ _ _ _) rfl text
  texts := by
    have htexts := TextsStored.parseText (defaultValues_unread (board.hasCap capVideocapProfile)
      board.fwCaps mode parity gamma) text
    unfold SettingsGuard.readBack zzcfgFastRamInvalidateWithheld
    split
    . exact htexts
    . exact htexts

theorem spliceAudio {before after : ZzcfgValues} (hbefore : FromCard board before)
    (hafter : FromCard board after) :
    FromCard board (spliceAudio before after) where
  readOver := by
    obtain ⟨mode, parity, gamma, hread⟩ := hbefore.readOver
    obtain ⟨mode', parity', gamma', hread'⟩ := hafter.readOver
    exact ⟨mode, parity, gamma, hread.spliceAudio hread'⟩
  texts := hbefore.texts

theorem rewrite (h : FromCard board v) (mode parity gamma : UInt16) :
    zzcfgGenerate v maxSize = some (joinLines (generatedLines v)) ∧
    zzcfgParseText (joinLines (generatedLines v)) (boardDefaults board mode parity gamma) =
      settled (boardDefaults board mode parity gamma) v := by
  obtain ⟨mode', parity', gamma', hread⟩ := h.readOver
  exact zzcfgParseText_rewrite hread h.texts mode parity gamma

end FromCard

/-- A supported read of the card that finds the file. -/
theorem readCard_readBack (board : Board σ) {cfg : SettingsState} {ctx : σ}
    (h : (readCard board cfg true ctx).1.status = FileStatus.ok) :
    ∃ text mode parity gamma, cardText board ctx = (FileStatus.ok, text) ∧
      (cardContents board ctx).2 = zzcfgParseText text (boardDefaults board mode parity gamma) ∧
      (readCard board cfg true ctx).1.values =
        readBack board cfg.fastRamOutcome text mode parity gamma := by
  cases hsupported : cfg.supported with
  | false =>
    exfalso
    unfold readCard at h
    rw [hsupported] at h
    have h : FileStatus.idle = FileStatus.ok := h
    exact absurd h (by decide)
  | true =>
    have hread := readCard_eq board hsupported ctx
    obtain ⟨mode, parity, gamma, hdefaults⟩ : ∃ mode parity gamma,
        (valuesDefaults board ctx).1 = boardDefaults board mode parity gamma :=
      ⟨_, _, _, rfl⟩
    have hstatus : (cardText board ctx).1 = FileStatus.ok := hread.1.symm.trans h
    have hcontents : (cardContents board ctx).2 =
        zzcfgParseText (cardText board ctx).2 (boardDefaults board mode parity gamma) := by
      rw [← hdefaults]
      exact if_pos hstatus
    refine ⟨(cardText board ctx).2, mode, parity, gamma, ?_, hcontents, ?_⟩
    . rw [← hstatus]
    . rw [hread.2, hcontents]
      rfl

/-- How a call of `settings_guard_end` with a snapshot comes out. -/
theorem settingsGuardEnd_cases (board : Board σ) (cfg : SettingsState) {guard : SettingsGuard}
    (client : FwupClient σ) (hvalid : guard.valid = true) :
    let done := settingsGuardEnd board cfg guard client
    let card := (readCard board cfg true client.ctx).1
    let merged := spliceAudio guard.before card.values
    done.1 = (errOpen, guard) ∨
    card.status = FileStatus.ok ∧
      ((done.1.1 ≠ Status.ok ∧ done.1.2 = ⟨true, merged⟩) ∨
      (done.1 = (Status.ok, ⟨false, merged⟩) ∧
        ((zzcfgGenerate merged maxSize).getD [] = (zzcfgGenerate card.values maxSize).getD [] ∧
          done.2.log = client.log ∨
        ∃ text, zzcfgGenerate merged maxSize = some text ∧
          done.2.log = client.log ++
            [⟨.openFile cfgFileName, Status.ok⟩, ⟨.write (textBytes text), Status.ok⟩,
              ⟨.close, Status.ok⟩]))) := by
  intro done card merged
  have hguard : ({ guard with before := merged } : SettingsGuard) = ⟨true, merged⟩ := by
    rw [← hvalid]
  generalize hdone : done = result
  unfold done settingsGuardEnd at hdone
  rw [if_neg (by simp [hvalid])] at hdone
  dsimp only at hdone
  split at hdone
  . left
    rw [← hdone]
  . next hstatus =>
    right
    refine ⟨not_not.mp hstatus, ?_⟩
    split at hdone
    . generalize hsave : zzcfgSave board.fwup
        (spliceAudio guard.before (readCard board cfg true client.ctx).1.values)
        { client with ctx := (readCard board cfg true client.ctx).2 } = save at hdone
      split at hdone
      . next hst =>
        right
        rw [← hsave] at hst
        obtain ⟨text, hgen, hlog⟩ := zzcfgSave_ok hst
        rw [hsave] at hst hlog
        rw [← hdone]
        refine ⟨?_, Or.inr ⟨text, hgen, hlog⟩⟩
        rw [hst]
      . next hst =>
        left
        rw [← hdone]
        exact ⟨hst, hguard⟩
    . next hsame =>
      right
      rw [if_pos rfl] at hdone
      rw [← hdone]
      exact ⟨rfl, Or.inl ⟨not_not.mp hsame, rfl⟩⟩

/-- What failed attempts leave of a snapshot. -/
structure Snapshot (board : Board σ) (begun guard : SettingsGuard) : Prop where
  valid : guard.valid = true
  fromCard : FromCard board guard.before
  fields : ∀ f, FieldAgrees guard.before begun.before f

/-- A snapshot is what the card said. -/
theorem settingsGuardBegin_read {board : Board σ} {cfg : SettingsState} {guard : SettingsGuard}
    {ctx : σ} (h : (settingsGuardBegin board cfg guard ctx).1.2.valid = true) :
    ∃ text mode parity gamma, cardText board ctx = (FileStatus.ok, text) ∧
      (settingsGuardBegin board cfg guard ctx).1.2.before =
        readBack board cfg.fastRamOutcome text mode parity gamma := by
  unfold settingsGuardBegin at h ⊢
  dsimp only at h ⊢
  split
  . next hsupported =>
    rw [if_pos hsupported] at h
    contradiction
  . next hsupported =>
    rw [if_neg hsupported] at h
    split
    . next hnoFile =>
      rw [if_pos hnoFile] at h
      contradiction
    . next hnoFile =>
      rw [if_neg hnoFile] at h
      split
      . next hstatus =>
        rw [if_pos hstatus] at h
        contradiction
      . next hstatus =>
        obtain ⟨text, mode, parity, gamma, htext, _, hread⟩ :=
          readCard_readBack board (not_not.mp hstatus)
        exact ⟨text, mode, parity, gamma, htext, hread⟩

theorem settingsGuardBegin_snapshot {board : Board σ} {cfg : SettingsState}
    {guard : SettingsGuard} {ctx : σ}
    (h : (settingsGuardBegin board cfg guard ctx).1.2.valid = true) :
    Snapshot board (settingsGuardBegin board cfg guard ctx).1.2
      (settingsGuardBegin board cfg guard ctx).1.2 := by
  refine ⟨h, ?_, fun f => FieldAgrees.refl _ f⟩
  obtain ⟨text, mode, parity, gamma, _, hread⟩ := settingsGuardBegin_read h
  rw [hread]
  exact FromCard.readBack board _ text mode parity gamma

theorem Snapshot.failed {board : Board σ} {begun guard : SettingsGuard}
    (h : Snapshot board begun guard) (cfg : SettingsState) (client : FwupClient σ)
    (hfail : (settingsGuardEnd board cfg guard client).1.1 ≠ Status.ok) :
    Snapshot board begun (settingsGuardEnd board cfg guard client).1.2 := by
  rcases settingsGuardEnd_cases board cfg client h.valid with hopen | ⟨hstatus, hsave | hok⟩
  . rw [hopen]
    exact h
  . obtain ⟨text, mode, parity, gamma, _, _, hread⟩ := readCard_readBack board hstatus
    rw [hsave.2]
    refine ⟨rfl, ?_, ?_⟩
    . apply h.fromCard.spliceAudio
      rw [hread]
      exact FromCard.readBack board _ text mode parity gamma
    . intro f
      exact (spliceAudio_fields _ _ f).trans (h.fields f)
  . rw [hok.1] at hfail
    exact absurd rfl hfail

theorem Snapshot.retried {board : Board σ} {begun guard : SettingsGuard}
    (hbegun : Snapshot board begun begun) (h : Retried board begun guard) :
    Snapshot board begun guard := by
  induction h with
  | first => exact hbegun
  | failed cfg client _ hfail ih => exact ih.failed cfg client hfail

theorem invalidateWithheld_idem (v : ZzcfgValues) (outcome : UInt16) :
    zzcfgFastRamInvalidateWithheld (zzcfgFastRamInvalidateWithheld v outcome) outcome =
      zzcfgFastRamInvalidateWithheld v outcome := by
  unfold zzcfgFastRamInvalidateWithheld
  split <;> rfl

/-- What the board shows at a read is not among the settings. -/
theorem readBack_patchLive (board : Board σ) (outcome : UInt16) (text : List Char)
    (mode parity gamma mode' parity' gamma' : UInt16) :
    readBack board outcome text mode' parity' gamma' =
      patchLive (boardDefaults board mode' parity' gamma')
        (readBack board outcome text mode parity gamma) := by
  have hparse := zzcfgParseText_patchLive text (boardDefaults board mode' parity' gamma')
    (boardDefaults board mode parity gamma)
  have hdefaults : patchLive (boardDefaults board mode' parity' gamma')
      (boardDefaults board mode parity gamma) = boardDefaults board mode' parity' gamma' := rfl
  rw [hdefaults] at hparse
  unfold readBack
  rw [hparse]
  unfold zzcfgFastRamInvalidateWithheld
  split <;> rfl

theorem readBack_rest (board : Board σ) (outcome : UInt16) (text : List Char)
    (mode parity gamma mode' parity' gamma' : UInt16) :
    RestAgrees (readBack board outcome text mode' parity' gamma')
      (zzcfgParseText text (boardDefaults board mode parity gamma)) := by
  rw [readBack_patchLive board outcome text mode parity gamma]
  exact (patchLive_rest _ _).trans (invalidateWithheld_agrees _ outcome).2

/-- The records of two reads that are written alike have the same settings. -/
theorem FromCard.agrees_of_text {board : Board σ} {a b : ZzcfgValues} (ha : FromCard board a)
    (hb : FromCard board b)
    (htext : (zzcfgGenerate a maxSize).getD [] = (zzcfgGenerate b maxSize).getD [])
    (f : CfgField) :
    SettingAgrees a b f := by
  have ha' := ha.rewrite 0 0 0
  have hb' := hb.rewrite 0 0 0
  rw [ha'.1, hb'.1] at htext
  have htext : joinLines (generatedLines a) = joinLines (generatedLines b) := htext
  have hsettled : settled (boardDefaults board 0 0 0) a = settled (boardDefaults board 0 0 0) b := by
    rw [← ha'.2, ← hb'.2, htext]
  apply (settled_agrees (boardDefaults board 0 0 0) ha.fastRam f).symm.trans
  rw [hsettled]
  exact settled_agrees _ hb.fastRam f

/-- A call that succeeds leaves the settings of the snapshot and the audio keys of the card. -/
theorem Snapshot.restored {board : Board σ} {begun guard : SettingsGuard}
    (hbegun : FromCard board begun.before) (h : Snapshot board begun guard) (cfg : SettingsState)
    (client : FwupClient σ)
    (hok : (settingsGuardEnd board cfg guard client).1.1 = Status.ok) :
    (settingsGuardEnd board cfg guard client).1.2.valid = false ∧
    ∃ text, CardHolds board client (settingsGuardEnd board cfg guard client).2 text ∧
      ∀ mode parity gamma,
        (∀ f, SettingAgrees (readBack board cfg.fastRamOutcome text mode parity gamma)
          (zzcfgFastRamInvalidateWithheld begun.before cfg.fastRamOutcome) f) ∧
        RestAgrees (readBack board cfg.fastRamOutcome text mode parity gamma)
          (cardContents board client.ctx).2 := by
  rcases settingsGuardEnd_cases board cfg client h.valid with
    hopen | ⟨hstatus, hsave | ⟨hdone, hcard⟩⟩
  . rw [hopen] at hok
    have hok : errOpen = Status.ok := hok
    exact absurd hok (by decide)
  . exact absurd hok hsave.1
  . obtain ⟨text, mode, parity, gamma, htext, hcontents, hread⟩ := readCard_readBack board hstatus
    have hafter := FromCard.readBack board cfg.fastRamOutcome text mode parity gamma
    rw [hread] at hdone hcard
    generalize hmerged : spliceAudio guard.before
      (readBack board cfg.fastRamOutcome text mode parity gamma) = merged at hdone hcard
    rw [hdone]
    have hfromCard : FromCard board merged := by
      rw [← hmerged]
      exact h.fromCard.spliceAudio hafter
    -- the record that may be written has the settings of the snapshot
    have hfields : ∀ f, SettingAgrees merged begun.before f := by
      intro f
      apply SettingAgrees.of_fieldAgrees
      . rw [← hmerged]
        exact (spliceAudio_fields _ _ f).trans (h.fields f)
      . rw [hfromCard.useVideocapProfileKey, hbegun.useVideocapProfileKey]
      . rw [hfromCard.firmwareCapabilities, hbegun.firmwareCapabilities]
    refine ⟨rfl, ?_⟩
    cases hcard with
    | inl hsame =>
      -- the card keeps the text of the firmware, which is written like the record
      refine ⟨text, Or.inl ⟨hsame.2, htext⟩, ?_⟩
      intro mode' parity' gamma'
      refine ⟨?_, ?_⟩
      . intro f
        have hagrees : SettingAgrees (readBack board cfg.fastRamOutcome text mode' parity' gamma')
            begun.before f := by
          rw [readBack_patchLive board cfg.fastRamOutcome text mode parity gamma]
          apply (patchLive_agrees _ _ f).trans
          exact (hfromCard.agrees_of_text hafter hsame.1 f).symm.trans (hfields f)
        have hwithheld := hagrees.withheld cfg.fastRamOutcome
        unfold readBack at hwithheld ⊢
        rwa [invalidateWithheld_idem] at hwithheld
      . rw [hcontents]
        exact readBack_rest board cfg.fastRamOutcome text mode parity gamma mode' parity' gamma'
    | inr hwritten =>
      obtain ⟨written, hgen, hlog⟩ := hwritten
      have hrewrite := hfromCard.rewrite
      have hwritten : joinLines (generatedLines merged) = written := by
        have := (hrewrite 0 0 0).1.symm.trans hgen
        exact Option.some.inj this
      have hsize : written.length < maxSize := by
        rw [zzcfgGenerate_eq] at hgen
        split at hgen
        . next hsize =>
          rw [← hwritten]
          exact hsize
        . contradiction
      refine ⟨written, Or.inr ⟨hlog, hsize⟩, ?_⟩
      intro mode' parity' gamma'
      have hparse := (hrewrite mode' parity' gamma').2
      rw [hwritten] at hparse
      unfold readBack
      rw [hparse]
      refine ⟨?_, ?_⟩
      . intro f
        apply SettingAgrees.withheld
        exact (settled_agrees _ hfromCard.fastRam f).trans (hfields f)
      . apply (invalidateWithheld_agrees _ cfg.fastRamOutcome).2.trans
        apply (settled_rest _ merged).trans
        rw [hcontents, ← hmerged]
        apply (spliceAudio_rest _ _).trans
        . exact readBack_rest board cfg.fastRamOutcome text mode parity gamma mode parity gamma
        . rw [h.fromCard.useVideocapProfileKey, hafter.useVideocapProfileKey]
        . rw [h.fromCard.firmwareCapabilities, hafter.firmwareCapabilities]

theorem Retried.of_invalid {board : Board σ} {begun guard : SettingsGuard}
    (hbegun : begun.valid = false) (h : Retried board begun guard) :
    guard = begun := by
  induction h with
  | first => rfl
  | failed cfg client _ hfail ih =>
    rw [ih] at hfail
    unfold settingsGuardEnd at hfail
    rw [if_pos hbegun] at hfail
    exact absurd rfl hfail

theorem settingsGuardBegin_unguarded {board : Board σ} {cfg : SettingsState}
    (guard : SettingsGuard) {ctx : σ}
    (h : cfg.supported = false ∨ (cardText board ctx).1 = FileStatus.noFile) :
    (settingsGuardBegin board cfg guard ctx).1.1 = true ∧
    (settingsGuardBegin board cfg guard ctx).1.2.valid = false := by
  unfold settingsGuardBegin
  dsimp only
  cases hsupported : cfg.supported with
  | false => exact ⟨rfl, rfl⟩
  | true =>
    rw [if_neg (by simp)]
    have hstatus : (readCard board cfg true ctx).1.status = FileStatus.noFile := by
      rw [(readCard_eq board hsupported ctx).1]
      cases h with
      | inl h =>
        rw [hsupported] at h
        contradiction
      | inr h => exact h
    rw [if_pos hstatus]
    exact ⟨rfl, rfl⟩

/--
A guard without a card file to protect never does anything. A snapshot holds what the card said,
survives every failed call, and the call that succeeds leaves a text on the card that reads as the
settings of the snapshot, next to the audio keys that were on the card before the call.
-/
theorem settingsGuardEnd_restores (board : Board σ) (cfg : SettingsState) (guard : SettingsGuard)
    (ctx : σ) (tried : SettingsGuard) (cfg' : SettingsState) (client : FwupClient σ)
    (htried : Retried board (settingsGuardBegin board cfg guard ctx).1.2 tried) :
    let begun := (settingsGuardBegin board cfg guard ctx).1
    let done := settingsGuardEnd board cfg' tried client
    (cfg.supported = false ∨ (cardText board ctx).1 = FileStatus.noFile →
      begun.1 = true ∧ begun.2.valid = false) ∧
    (begun.2.valid = false → done = ((Status.ok, tried), client)) ∧
    (begun.2.valid = true →
      (∃ text mode parity gamma, cardText board ctx = (FileStatus.ok, text) ∧
        begun.2.before = readBack board cfg.fastRamOutcome text mode parity gamma) ∧
      (done.1.1 ≠ Status.ok → Retried board begun.2 done.1.2 ∧ done.1.2.valid = true) ∧
      (done.1.1 = Status.ok → done.1.2.valid = false ∧
        ∃ text, CardHolds board client done.2 text ∧ ∀ mode parity gamma,
          (∀ f, SettingAgrees (readBack board cfg'.fastRamOutcome text mode parity gamma)
            (zzcfgFastRamInvalidateWithheld begun.2.before cfg'.fastRamOutcome) f) ∧
          RestAgrees (readBack board cfg'.fastRamOutcome text mode parity gamma)
            (cardContents board client.ctx).2)) := by
  intro begun done
  refine ⟨settingsGuardBegin_unguarded guard, ?_, ?_⟩
  . intro hinvalid
    have hsame : tried = begun.2 := htried.of_invalid hinvalid
    unfold done settingsGuardEnd
    rw [if_pos (by rw [hsame]; exact hinvalid)]
  . intro hvalid
    have hbegun : Snapshot board begun.2 begun.2 := settingsGuardBegin_snapshot hvalid
    have hsnapshot : Snapshot board begun.2 tried := hbegun.retried htried
    refine ⟨settingsGuardBegin_read hvalid, ?_, ?_⟩
    . intro hfail
      exact ⟨htried.failed cfg' client hfail, (hsnapshot.failed cfg' client hfail).valid⟩
    . intro hok
      exact hsnapshot.restored hbegun.fromCard cfg' client hok

end SettingsGuard

/-- A board that answers every read of its card with a text: the text and the last command. -/
structure TextBoard where
  text : List Char
  command : UInt16

/-- Its firmware knows the key of the profile, but no centered profile. -/
def textBoard : Board TextBoard where
  fwVersion := 0x0203
  fwCaps := capVideocapProfile
  regRead reg ctx :=
    if reg = Reg.configFile then
      (if ctx.command = 0 then FileStatus.idle else FileStatus.ok, ctx)
    else if reg = Reg.configFileLen then
      (UInt16.ofNat ctx.text.length, ctx)
    else
      (1, ctx)
  regWrite reg value ctx := if reg = Reg.configFile then { ctx with command := value } else ctx
  bufferRead offset ctx := ((ctx.text.getD offset ' ').toNat.toUInt8, ctx)
  fwup := {
    readStatus := fun ctx => (Status.ok, ctx)
    writeCmd := fun _ ctx => ctx
    writeLen := fun _ ctx => ctx
    stage := fun _ ctx => ctx
    readMirror := none
    idle := none }

namespace SettingsGuard

open SettingsState

def supportedState : SettingsState := { blank with supported := true }

/-- The card says `before` when the guard begins and `after` when it ends. -/
def guarded (before after : List Char) : (UInt16 × SettingsGuard) × FwupClient TextBoard :=
  let begun := settingsGuardBegin textBoard supportedState ⟨false, blank.saved⟩ ⟨before, 0⟩
  settingsGuardEnd textBoard supportedState begun.1.2 ⟨⟨after, 0⟩, []⟩

theorem settingsGuardEnd_restores_gamma :
    ∃ text,
      CardHolds textBoard ⟨⟨"audio_active = 1\n".toList, 0⟩, []⟩
        (guarded "gamma = 1.80\n".toList "audio_active = 1\n".toList).2 text ∧
      settingsValue (readBack textBoard 0 text 0 0 100) .gamma = 180 ∧
      (readBack textBoard 0 text 0 0 100).audioActive = 1 := by
  have h := settingsGuardEnd_restores textBoard supportedState ⟨false, blank.saved⟩
    ⟨"gamma = 1.80\n".toList, 0⟩ _ supportedState ⟨⟨"audio_active = 1\n".toList, 0⟩, []⟩
    Retried.first
  obtain ⟨_, text, hcard, hread⟩ := (h.2.2 (by decide +kernel)).2.2 (by decide +kernel)
  obtain ⟨hfields, hrest⟩ := hread 0 0 100
  refine ⟨text, hcard, ?_, ?_⟩
  . have hgamma := hfields .gamma
    have hpresent := hgamma.1
    have hvalue := hgamma.2 (hpresent.trans (by decide +kernel))
    apply hvalue.trans
    decide +kernel
  . have haudio := hrest.audioActive
    apply haudio.trans
    decide +kernel

/-- The card need not say the profile of the snapshot, which the writer replaces by its fallback. -/
theorem settingsGuardEnd_restores_fails :
    ¬∀ (board : Board TextBoard) (cfg : SettingsState) (guard : SettingsGuard) (ctx : TextBoard)
      (client : FwupClient TextBoard),
      let begun := (settingsGuardBegin board cfg guard ctx).1.2
      let done := settingsGuardEnd board cfg begun client
      begun.valid = true → done.1.1 = Status.ok →
      ∃ text, CardHolds board client done.2 text ∧ ∀ mode parity gamma f,
        fieldEqual (readBack board cfg.fastRamOutcome text mode parity gamma) begun.before f =
          true := by
  intro h
  obtain ⟨text, hcard, hequal⟩ := h textBoard supportedState ⟨false, blank.saved⟩
    ⟨"videocap_profile = centered_1080p_60\n".toList, 0⟩
    ⟨⟨"videocap_profile = full_60\n".toList, 0⟩, []⟩ (by decide +kernel) (by decide +kernel)
  cases hcard with
  | inl hcard =>
    have htext : cardText textBoard ⟨"videocap_profile = full_60\n".toList, 0⟩ =
        (FileStatus.ok, "videocap_profile = full_60\n".toList) := by
      decide +kernel
    have hsame : text = "videocap_profile = full_60\n".toList := by
      have := htext.symm.trans hcard.2
      exact (Prod.mk.inj this).2.symm
    have := hequal 0 0 100 .profile
    rw [hsame] at this
    revert this
    decide +kernel
  | inr hcard =>
    have hlog : (settingsGuardEnd textBoard supportedState
        (settingsGuardBegin textBoard supportedState ⟨false, blank.saved⟩
          ⟨"videocap_profile = centered_1080p_60\n".toList, 0⟩).1.2
        ⟨⟨"videocap_profile = full_60\n".toList, 0⟩, []⟩).2.log = [] := by
      decide +kernel
    have hnil := hcard.1.symm.trans hlog
    cases hnil

end SettingsGuard

end ZZCfg
