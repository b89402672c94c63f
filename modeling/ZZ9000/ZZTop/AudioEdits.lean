import Mathlib.Data.UInt
import Mathlib.Data.List.DropRight
import Mathlib.Logic.Function.Basic

/-!
This module contains the live audio editor of `audio.c`: the writes to the firmware, what each of
them records for a later revert, and `audio_revert`. The firmware answers every request as it likes.
-/

namespace ZZTop

/-- What the editor uses of `zz9k/abi.h`. -/
structure AudioControlAbi where
  paramLpf : UInt16
  paramEqBand1 : UInt16
  paramEqBand10 : UInt16
  paramPrefactor : UInt16
  paramVolume : UInt16
  paramPan : UInt16
  ceilingMin : UInt16
  ceilingMax : UInt16
  balancePack : UInt16 → UInt16 → UInt32
  balanceCh1 : UInt32 → UInt16
  balanceCh2 : UInt32 → UInt16
  calibrationPack : UInt16 → UInt16 → UInt32
  -- `audio_revert` finds every editable parameter between these two, one bit of a mask each
  lpf_le : ∀ param, param = paramLpf ∨ (paramEqBand1 ≤ param ∧ param ≤ paramEqBand10)
    ∨ param = paramPrefactor ∨ param = paramVolume ∨ param = paramPan → paramLpf ≤ param
  le_pan : ∀ param, param = paramLpf ∨ (paramEqBand1 ≤ param ∧ param ≤ paramEqBand10)
    ∨ param = paramPrefactor ∨ param = paramVolume ∨ param = paramPan → param ≤ paramPan
  pan_lt : paramPan < 32
  balance_repack : ∀ paula ax, balancePack (balanceCh1 (balancePack paula ax))
    (balanceCh2 (balancePack paula ax)) = balancePack paula ax

inductive AudioStatus where
  | ok
  | timeout
  | other (code : Int32)
  deriving DecidableEq, Repr

/-- The answer to a request: whether a refused write took effect all the same, and for a request of
the control state the levels it reports. -/
structure AudioReply where
  status : AudioStatus
  applied : Bool := false
  ceiling : UInt32 := 0
  ceilingPaula : UInt32 := 0
  ceilingAx : UInt32 := 0
  deriving DecidableEq, Repr

namespace AudioReply

def accepted (reply : AudioReply) : Bool :=
  reply.status == .ok || reply.status == .timeout

def lands (reply : AudioReply) : Bool :=
  reply.accepted || reply.applied

/-- Whether `audio_control_state_get` takes this answer. -/
def answers (reply : AudioReply) : Bool :=
  reply.status == .ok && reply.ceiling != 0 && reply.ceilingPaula != 0 && reply.ceilingAx != 0

end AudioReply

/-- A parameter of the firmware. -/
inductive AudioTarget where
  | active
  | baseline
  | calibration
  | value (scene param : UInt16)
  | name (scene : UInt16)
  deriving DecidableEq, Repr

/-- What a parameter holds, as it is sent: a word, for a name a word for each two characters. -/
abbrev AudioTarget.Datum : AudioTarget → Type
  | .name _ => List UInt32
  | _ => UInt32

/-- The parameters of the firmware, and which of them a request was about. -/
structure AudioFirmware where
  held : (target : AudioTarget) → target.Datum
  tried : AudioTarget → Bool

def AudioFirmware.receive (target : AudioTarget) (datum : target.Datum) (lands : Bool)
    (fw : AudioFirmware) : AudioFirmware where
  held := if lands then Function.update fw.held target datum else fw.held
  tried := Function.update fw.tried target true

structure AudioScene where
  lpf : UInt16
  eq : Nat → UInt16
  prefactor : UInt16
  volume : UInt16
  pan : UInt16
  name : List UInt8

/-- A value of a scene that can be edited. -/
inductive AudioField where
  | lpf
  | eq (band : Nat)
  | prefactor
  | volume
  | pan
  deriving DecidableEq, Repr

namespace AudioScene

def read (scene : AudioScene) : AudioField → UInt16
  | .lpf => scene.lpf
  | .eq band => scene.eq band
  | .prefactor => scene.prefactor
  | .volume => scene.volume
  | .pan => scene.pan

def store (scene : AudioScene) (field : AudioField) (value : UInt16) : AudioScene :=
  match field with
  | .lpf => { scene with lpf := value }
  | .eq band => { scene with eq := Function.update scene.eq band value }
  | .prefactor => { scene with prefactor := value }
  | .volume => { scene with volume := value }
  | .pan => { scene with pan := value }

end AudioScene

structure AudioModel where
  scenes : UInt16 → AudioScene
  active : UInt16
  basePaula : UInt16
  baseAx : UInt16
  ceilingPaula : UInt16
  ceilingAx : UInt16

def audioSceneCount : UInt16 := 8
def audioNameChars : Nat := 16
def audioNameChunks : Nat := 8

/-- The variables of `audio.c`, the firmware and its answers to come. -/
structure AudioState where
  model : AudioModel
  revertAnchor : AudioModel
  boundary : UInt32
  editGeneration : UInt32
  changedParams : UInt16 → UInt32
  changedNames : UInt16 → Bool
  changedActive : Bool
  changedBaseline : Bool
  changedCalibration : Bool
  available : Bool
  dirty : Bool
  savePending : Bool
  calibrationPending : Bool
  calibrationPaula : UInt16
  calibrationAx : UInt16
  unavailable : String
  lastError : String
  fw : AudioFirmware
  replies : Nat → AudioReply
  asked : Nat

section Requests

/-- `audio_mb_call` of a request that writes. -/
def audioSceneWriteCommit (target : AudioTarget) (datum : target.Datum) (s : AudioState)
    : AudioStatus × AudioState :=
  let reply := s.replies s.asked
  (reply.status,
    { s with asked := s.asked + 1, fw := s.fw.receive target datum reply.lands })

/-- `audio_control_state_get` into a copy of the model. -/
def audioControlStateGet (abi : AudioControlAbi) (out : AudioModel) (s : AudioState)
    : Option AudioModel × AudioState :=
  let reply := s.replies s.asked
  let s := { s with asked := s.asked + 1 }
  if reply.answers then
    -- the reported ceilings may lag behind a calibration that was accepted
    (some { out with
        active := s.fw.held .active |>.toUInt16
        basePaula := abi.balanceCh1 (s.fw.held .baseline)
        baseAx := abi.balanceCh2 (s.fw.held .baseline)
        ceilingPaula := reply.ceilingPaula.toUInt16
        ceilingAx := reply.ceilingAx.toUInt16 },
      { s with boundary := reply.ceiling })
  else
    (none, s)

def audioInstallLiveState (abi : AudioControlAbi) (s : AudioState) : Bool × AudioState :=
  let got := audioControlStateGet abi s.model s
  match got.1 with
  | none => (false, got.2)
  | some live =>
    if live.active ≥ audioSceneCount then
      (false, got.2)
    else
      (true, { got.2 with
        model := { got.2.model with
          active := live.active
          basePaula := live.basePaula
          baseAx := live.baseAx
          ceilingPaula := live.ceilingPaula
          ceilingAx := live.ceilingAx } })

end Requests

section Setters

variable (abi : AudioControlAbi)

def audioClearEdits (s : AudioState) : AudioState :=
  { s with
    changedParams := fun _ => 0
    changedNames := fun _ => false
    changedActive := false
    changedBaseline := false
    changedCalibration := false
    dirty := false
    savePending := false }

def audioMarkDirty (s : AudioState) : AudioState :=
  { s with dirty := true, editGeneration := s.editGeneration + 1 }

def audioText (text : String) (s : AudioState) : AudioState :=
  { s with lastError := text }

def audioWriteAccepted (status : AudioStatus) (ok pending failed : String) (s : AudioState)
    : Bool × AudioState :=
  match status with
  | .ok => (true, audioText ok s)
  | .timeout => (true, audioText pending s)
  | .other _ => (false, audioText failed s)

def audioSelectScene (scene : UInt16) (s : AudioState) : Bool × AudioState :=
  if !s.available || s.calibrationPending || scene ≥ audioSceneCount then
    (false, s)
  else
    let sent := audioSceneWriteCommit .active scene.toUInt32 s
    let selected (s : AudioState) : Bool × AudioState :=
      let s := { s with model := { s.model with active := scene }, changedActive := true }
      (true, audioText "Scene selected - Save to persist" (audioMarkDirty s))
    match sent.1 with
    | .ok => selected sent.2
    | .timeout =>
      -- the firmware may have switched: the scene that is live decides
      let got := audioControlStateGet abi sent.2.model sent.2
      match got.1 with
      | none => (false, audioText "Scene switch not confirmed - retry" got.2)
      | some live =>
        if live.active ≠ scene then
          (false, audioText "Scene switch failed - retry" got.2)
        else
          selected got.2
    | .other _ => (false, audioText "Scene switch failed - retry" sent.2)

def audioSetBaseline (paula ax : UInt16) (s : AudioState) : Bool × AudioState :=
  let oldPaula := s.model.basePaula
  let oldAx := s.model.baseAx
  if !s.available || s.calibrationPending then
    (false, s)
  else
    let sent := audioSceneWriteCommit .baseline (abi.balancePack paula ax) s
    let taken := audioWriteAccepted sent.1 "Baseline committed - Save to persist"
      "Baseline committing - Save to persist" "Baseline write failed - retry" sent.2
    if !taken.1 then
      (false, (audioSceneWriteCommit .baseline (abi.balancePack oldPaula oldAx) taken.2).2)
    else
      let s := taken.2
      (true, audioMarkDirty { s with
        model := { s.model with basePaula := paula, baseAx := ax }
        changedBaseline := true })

def audioSetCalibration (paula ax : UInt16) (s : AudioState) : Bool × AudioState :=
  let oldPaula := s.model.ceilingPaula
  let oldAx := s.model.ceilingAx
  if !s.available || s.calibrationPending || paula < abi.ceilingMin || paula > abi.ceilingMax
      || ax < abi.ceilingMin || ax > abi.ceilingMax then
    (false, audioText "Calibration must be 1..4095" s)
  else
    let sent := audioSceneWriteCommit .calibration (abi.calibrationPack paula ax) s
    let taken := audioWriteAccepted sent.1 "Calibration awaiting firmware state..."
      "Calibration awaiting firmware state..." "Calibration write failed - retry" sent.2
    if !taken.1 then
      (false, (audioSceneWriteCommit .calibration (abi.calibrationPack oldPaula oldAx) taken.2).2)
    else
      (true, audioMarkDirty { taken.2 with
        calibrationPaula := paula
        calibrationAx := ax
        calibrationPending := true
        changedCalibration := true })

/-- Where a parameter of a scene is stored, `audio_scene_value`. -/
def audioSceneValue (param : UInt16) : Option AudioField :=
  if param = abi.paramLpf then
    some .lpf
  else if param ≥ abi.paramEqBand1 ∧ param ≤ abi.paramEqBand10 then
    some (.eq (param - abi.paramEqBand1).toNat)
  else if param = abi.paramPrefactor then
    some .prefactor
  else if param = abi.paramVolume then
    some .volume
  else if param = abi.paramPan then
    some .pan
  else
    none

def paramBit (param : UInt16) : UInt32 :=
  1 <<< param.toUInt32

/-- What `audio_set_scene_value` records of a value. -/
def audioRecordValue (scene param value : UInt16) (field : AudioField) (s : AudioState)
    : AudioState :=
  audioMarkDirty { s with
    model := { s.model with
      scenes := Function.update s.model.scenes scene
        ((s.model.scenes scene).store field value) }
    changedParams := Function.update s.changedParams scene
      (s.changedParams scene ||| paramBit param) }

def audioSetSceneValue (scene param value : UInt16) (s : AudioState) : Bool × AudioState :=
  if !s.available || s.calibrationPending || scene ≥ audioSceneCount then
    (false, s)
  else
    match audioSceneValue abi param with
    | none => (false, s)
    | some field =>
      let old := (s.model.scenes scene).read field
      let sent := audioSceneWriteCommit (.value scene param) value.toUInt32 s
      let taken := audioWriteAccepted sent.1 "Scene change committed - Save to persist"
        "Scene change committing - Save to persist" "Scene change failed - retry" sent.2
      if !taken.1 then
        let rollback := audioSceneWriteCommit (.value scene param) old.toUInt32 taken.2
        if rollback.1 ≠ .ok then
          (false, audioText "Scene change failed; firmware may hold the attempted value - Save"
            (audioRecordValue scene param value field rollback.2))
        else
          (false, rollback.2)
      else
        (true, audioRecordValue scene param value field taken.2)

end Setters

section Names

def printable (char : UInt8) : Bool :=
  0x20 ≤ char && char ≤ 0x7e

def audioCleanName (name : List UInt8) : List UInt8 :=
  ((name.filter printable).take audioNameChars).rdropWhile (· == 0x20)

/-- `"Scene %u"`. -/
def audioSceneLabel (scene : UInt16) : List UInt8 :=
  [0x53, 0x63, 0x65, 0x6e, 0x65, 0x20]
    ++ (Nat.toDigits 10 (scene.toNat + 1)).map (fun digit => digit.toNat.toUInt8)

/-- The name that `audio_rename_scene` sends. -/
def audioNewName (scene : UInt16) (name : List UInt8) : List UInt8 :=
  let clean := audioCleanName name
  if clean = [] then audioSceneLabel scene else clean

/-- The value of a chunk of a name; the first chunk opens the burst. -/
def audioNameChunk (name : List UInt8) (chunk : Nat) : UInt32 :=
  if chunk = 0 then
    0
  else
    let first := (chunk - 1) * 2
    (if first < name.length then (name.getD first 0).toUInt32 <<< 8 else 0)
      ||| (if first + 1 < name.length then (name.getD (first + 1) 0).toUInt32 else 0)

/-- What the firmware makes of a whole burst. -/
def audioNameWords (name : List UInt8) : List UInt32 :=
  (List.range audioNameChunks).map (fun chunk => audioNameChunk name (chunk + 1))

/--
The answer that ends a burst with `left` chunks after this one, the first that refuses its chunk or
that to the chunk that commits, and the number of answers then given.
-/
def audioBurst (replies : Nat → AudioReply) : (left asked : Nat) → AudioReply × Nat
  | 0, asked => (replies asked, asked + 1)
  | left + 1, asked =>
    if (replies asked).accepted then
      audioBurst replies left (asked + 1)
    else
      (replies asked, asked + 1)

def audioSceneRenameCall (scene : UInt16) (name : List UInt8) (s : AudioState)
    : AudioStatus × AudioState :=
  let burst := audioBurst s.replies audioNameChunks s.asked
  (burst.1.status,
    { s with
      asked := burst.2
      fw := s.fw.receive (.name scene) (audioNameWords name) burst.1.lands })

def audioRenameScene (scene : UInt16) (name : List UInt8) (s : AudioState) : Bool × AudioState :=
  if !s.available || s.calibrationPending || scene ≥ audioSceneCount then
    (false, s)
  else
    let clean := audioNewName scene name
    let old := (s.model.scenes scene).name
    let sent := audioSceneRenameCall scene clean s
    let taken := audioWriteAccepted sent.1 "Rename committed - Save to persist"
      "Rename committing - Save to persist" "Rename failed - retry" sent.2
    if !taken.1 then
      (false, (audioSceneRenameCall scene old taken.2).2)
    else
      let s := taken.2
      (true, audioMarkDirty { s with
        model := { s.model with
          scenes := Function.update s.model.scenes scene
            { s.model.scenes scene with name := clean } }
        changedNames := Function.update s.changedNames scene true })

end Names

section Revert

variable (abi : AudioControlAbi)

/-- The part of `audio_tick` that awaits a calibration; the meters hold no parameter. -/
def audioTick (s : AudioState) : AudioState :=
  if !s.available || !s.calibrationPending then
    s
  else
    let installed := audioInstallLiveState abi s
    let s := installed.2
    if installed.1 && s.model.ceilingPaula == s.calibrationPaula
        && s.model.ceilingAx == s.calibrationAx then
      audioText "Calibration committed - Save to persist" { s with calibrationPending := false }
    else
      s

/-- `audio_wait_calibration`, with the number of polls that the deadline allows after this one. -/
def audioWaitCalibration (paula ax : UInt16) : (polls : Nat) → AudioState → Bool × AudioState
  | polls, s =>
    let installed := audioInstallLiveState abi s
    let s := installed.2
    if installed.1 && s.model.ceilingPaula == paula && s.model.ceilingAx == ax then
      (true, audioText "Calibration committed - Save to persist"
        { s with calibrationPending := false })
    else
      match polls with
      | 0 => (false, s)
      | polls + 1 => audioWaitCalibration paula ax polls s

/-- The parameters from `LPF` to `PAN`. -/
def audioRevertRange : List UInt16 :=
  (List.range' abi.paramLpf.toNat (abi.paramPan.toNat + 1 - abi.paramLpf.toNat)).map UInt16.ofNat

/-- The loop of `audio_revert` over the parameters of a scene. -/
def audioRevertParams (wanted : AudioModel) (scene : UInt16)
    : List UInt16 → Bool × AudioState → Bool × AudioState
  | [], (ok, s) => (ok, s)
  | param :: params, (ok, s) =>
    if s.changedParams scene &&& paramBit param = 0 then
      audioRevertParams wanted scene params (ok, s)
    else
      match audioSceneValue abi param with
      | none => audioRevertParams wanted scene params (ok, s)
      | some field =>
        let value := (wanted.scenes scene).read field
        if (s.model.scenes scene).read field = value then
          audioRevertParams wanted scene params (ok, s)
        else
          let set := audioSetSceneValue abi scene param value s
          -- a parameter that fails does not keep the others of its scene from being sent
          audioRevertParams wanted scene params (ok && set.1, set.2)

/-- The loop of `audio_revert` over the scenes. -/
def audioRevertScenes (wanted : AudioModel) : List UInt16 → Bool × AudioState → Bool × AudioState
  | [], (ok, s) => (ok, s)
  | scene :: scenes, (ok, s) =>
    if !ok then
      (ok, s)
    else
      let params := audioRevertParams abi wanted scene (audioRevertRange abi) (ok, s)
      let s := params.2
      let name := (wanted.scenes scene).name
      if params.1 && s.changedNames scene && (s.model.scenes scene).name != name then
        audioRevertScenes wanted scenes (audioRenameScene scene name s)
      else
        audioRevertScenes wanted scenes params

def audioScenes : List UInt16 :=
  [0, 1, 2, 3, 4, 5, 6, 7]

/-- The steps of `audio_revert` before the scenes. -/
def audioRevertLevels (polls : Nat × Nat) (wanted : AudioModel) (s : AudioState)
    : Bool × AudioState :=
  let waited :=
    if s.calibrationPending then
      audioWaitCalibration abi s.calibrationPaula s.calibrationAx polls.1 s
    else
      (true, s)
  let calibrated :=
    if waited.1 && waited.2.changedCalibration then
      let set := audioSetCalibration abi wanted.ceilingPaula wanted.ceilingAx waited.2
      if set.1 then
        audioWaitCalibration abi wanted.ceilingPaula wanted.ceilingAx polls.2 set.2
      else
        set
    else
      waited
  let s := calibrated.2
  let balanced :=
    if calibrated.1 && s.changedBaseline
        && (s.model.basePaula != wanted.basePaula || s.model.baseAx != wanted.baseAx) then
      audioSetBaseline abi wanted.basePaula wanted.baseAx s
    else
      calibrated
  let s := balanced.2
  if balanced.1 && s.changedActive && s.model.active != wanted.active then
    audioSelectScene abi wanted.active s
  else
    balanced

/-- `audio_revert`, with the message it hands out. -/
def audioRevert (polls : Nat × Nat) (s : AudioState) : Bool × String × AudioState :=
  if !s.available then
    (false, s.unavailable, s)
  else
    let wanted := s.revertAnchor
    let reverted := audioRevertScenes abi wanted audioScenes (audioRevertLevels abi polls wanted s)
    if reverted.1 then
      (true, "Audio reverted to saved settings",
        audioClearEdits { reverted.2 with model := wanted, calibrationPending := false })
    else
      (false, "Audio revert incomplete; retry", reverted.2)

end Revert

section Runs

variable (abi : AudioControlAbi)

/-- What the pages and the ticker call. -/
inductive AudioCall where
  | selectScene (scene : UInt16)
  | setBaseline (paula ax : UInt16)
  | setCalibration (paula ax : UInt16)
  | setSceneValue (scene param value : UInt16)
  | renameScene (scene : UInt16) (name : List UInt8)
  | tick
  deriving DecidableEq, Repr

def AudioCall.run : AudioCall → AudioState → AudioState
  | selectScene scene, s => (audioSelectScene abi scene s).2
  | setBaseline paula ax, s => (audioSetBaseline abi paula ax s).2
  | setCalibration paula ax, s => (audioSetCalibration abi paula ax s).2
  | setSceneValue scene param value, s => (audioSetSceneValue abi scene param value s).2
  | renameScene scene name, s => (audioRenameScene scene name s).2
  | tick, s => audioTick abi s

def AudioState.after (s : AudioState) (calls : List AudioCall) : AudioState :=
  calls.foldl (fun s call => call.run abi s) s

end Runs

end ZZTop
