import ZZ9000.ZZTop.Sampling
import ZZ9000.ZZTop.VideoCard

/-!
This module contains the live native-video control of `video.c`. The framing editor and the sampling
calibration that it starts have modules of their own; here they are what they leave behind.
-/

namespace ZZTop

open Concurrency ZZVcap ZZCfg
open Concurrency.Coroutine (read modify answer)

def vcapApplyTicks : Nat := 100
def captureTries : Nat := 8

/-- `struct video_live_state` -/
structure VideoLiveState where
  supported : Bool
  cropTouched : Bool
  cropConfirmed : Bool
  cropTarget : UInt32
  cropTargetValid : Bool
  phaseTouched : Bool
  phaseConfirmed : Bool
  phaseTarget : Int
  geometryTouched : Bool
  geometryConfirmed : Bool
  geometryWidth : UInt16
  geometryHeight : UInt16
  domain : VcapPhaseDomain
  current : VcapSnapshot
  cropAnchor : VcapSnapshot
  cropAnchorValid : Bool
  phaseAnchor : Int
  phaseAnchorValid : Bool
  geometryAnchor : VcapGeometryState
  geometryAnchorValid : Bool
  sweep : List UInt8
  sweepValid : Bool
  deriving DecidableEq, Repr

def VideoLiveState.zero : VideoLiveState where
  supported := false
  cropTouched := false
  cropConfirmed := false
  cropTarget := 0
  cropTargetValid := false
  phaseTouched := false
  phaseConfirmed := false
  phaseTarget := 0
  geometryTouched := false
  geometryConfirmed := false
  geometryWidth := 0
  geometryHeight := 0
  domain := .none
  current := ⟨0, 0, 0, 0⟩
  cropAnchor := ⟨0, 0, 0, 0⟩
  cropAnchorValid := false
  phaseAnchor := 0
  phaseAnchorValid := false
  geometryAnchor := ⟨0, 0, 0, 0, 0, 0, 0⟩
  geometryAnchorValid := false
  sweep := []
  sweepValid := false

/--
What the theorems remember of a run since `video_init`. The entries are what was applied when the
first edit of a domain since it was saved last began. `unanchored` says that such an edit of the
phase or of the capture window began without an anchor, and `strayed` that an operation left a
domain confirmed at a value that was not staged for it.
-/
structure VideoHistory where
  cropEntry : Option UInt32
  phaseEntry : Option Int
  windowEntry : Option (UInt16 × UInt16)
  unanchored : Bool
  strayed : Bool
  deriving DecidableEq, Repr

def VideoHistory.empty : VideoHistory where
  cropEntry := none
  phaseEntry := none
  windowEntry := none
  unanchored := false
  strayed := false

structure VideoWorld where
  card : VideoCard
  live : VideoLiveState
  cfg : SettingsState
  cancel : Bool
  message : String
  history : VideoHistory

/-- How a framing editor has ended. -/
inductive AlignOutcome where
  | accepted (control : VcapControl)
  | restored (text : String)
  /-- The crop and whether a request for it is still on its way. -/
  | unknown (appliedRaw : UInt32) (request : Option LiveRequest)
  deriving DecidableEq, Repr

/-- How a sampling calibration has ended, with the status that it leaves. -/
inductive SamplingOutcome where
  | selected (phase : Int) (sweep : List UInt8) (status : UInt16)
  | restored (cancelled : Bool) (text : String) (status : UInt16)
  | unknown (status : UInt16)
  deriving DecidableEq, Repr

structure VideoAnswer where
  events : List VideoEvent
  running : Bool
  align : AlignOutcome
  sampling : SamplingOutcome
  deriving DecidableEq, Repr

abbrev Video := Coroutine VideoWorld Empty Empty VideoAnswer

namespace VideoWorld

def events (es : List VideoEvent) (w : VideoWorld) : VideoWorld :=
  { w with card := w.card.events es }

def write (offset : UInt32) (value : UInt16) (w : VideoWorld) : VideoWorld :=
  { w with card := w.card.write offset value }

end VideoWorld

def onLive (f : VideoLiveState → VideoLiveState) : Video Unit :=
  modify fun w => { w with live := f w.live }

def onCfg (f : SettingsState → SettingsState) : Video Unit :=
  modify fun w => { w with cfg := f w.cfg }

def videoElapse : Video Unit := do
  let r ← answer
  modify (VideoWorld.events r.events)

def feWaitKeepRunning : Video Bool := do
  let r ← answer
  modify fun w => { w with cancel := w.cancel || !r.running }
  return r.running

def cardIo : VcapIo Video where
  read16 offset := do
    videoElapse
    return (← read).card.register offset
  write16 offset value := modify (VideoWorld.write offset value)
  delay := videoElapse
  keepRunning := feWaitKeepRunning

def feWaitBegin : Video Unit := modify fun w => { w with cancel := false }

def writeMessage (text : String) : Video Unit := modify fun w => { w with message := text }

def refuse (text : String) : Video Bool := do
  writeMessage text
  return false

def accept (text : String) : Video Bool := do
  writeMessage text
  return true

def captureSnapshot : Video (Option VcapSnapshot) := attempts captureTries cardIo.readSnapshot

/-- The phase anchor of `refresh_live`. -/
def anchorPhase : Video Unit := do
  if (← read).live.phaseAnchorValid then
    return ()
  else
    match ← cardIo.phaseRead with
    | .error _ => return ()
    | .ok phase =>
      if (← cardIo.phaseCheck phase.applied) = .ok then
        onLive fun live =>
          { live with
            domain := phase.domain
            phaseAnchor := phase.applied
            phaseAnchorValid := true }
      else
        return ()

/-- The anchor of the capture window of `refresh_live`. -/
def anchorGeometry : Video Unit := do
  if (← read).live.geometryAnchorValid then
    return ()
  else
    match ← cardIo.geometryRead with
    | .error _ => return ()
    | .ok state =>
      onLive fun live => { live with geometryAnchor := state, geometryAnchorValid := state.settled }

def takeSnapshot (current : VcapSnapshot) (live : VideoLiveState) : VideoLiveState :=
  if live.cropAnchorValid then
    { live with current }
  else
    { live with current, cropAnchor := current, cropAnchorValid := true }

def readDomain : Video Unit := do
  let capability ← cardIo.read32 captureCapReg
  onLive fun live => { live with domain := vcapPhaseDomain capability }

def refreshLive : Video Bool := do
  readDomain
  anchorPhase
  if (← read).live.supported then
    match ← captureSnapshot with
    | none => return false
    | some current =>
      onLive (takeSnapshot current)
      anchorGeometry
      return true
  else
    return false

def pathFor (profile sample : UInt16) : VcapPath where
  sample := sample
  fullWidth := (zzcfgProfileToLegacy profile).full

def VideoWorld.stagedPath (w : VideoWorld) : VcapPath :=
  pathFor w.cfg.edit.videocapProfile w.cfg.edit.videocapSample

def controlPath (control : VcapControl) : VcapPath where
  sample := control.sample
  fullWidth := control.fullWidth

/-- The control that `live.current` holds. -/
def currentControl : Video (Option VcapControl) := do
  return vcapControlUnpack (← read).live.current.raw

def videoCurrentPathMatches : Video Bool := do
  if ← refreshLive then
    match ← currentControl with
    | none => return false
    | some control => return (← read).stagedPath == controlPath control
  else
    return false

/-- The loop of `apply_raw`; `waiting` says that it asks whether it shall go on. -/
def applyRawWait (raw : UInt32) (sequence : UInt8) (waiting : Bool) (ticks : Nat)
    : Video (Option VcapSnapshot) :=
  match ticks with
  | 0 => return none
  | ticks + 1 => do
    if ← cardIo.keepRunningOr (!waiting) then
      match ← cardIo.readStable vcapLiveStatus with
      | none =>
        cardIo.delay
        applyRawWait raw sequence waiting ticks
      | some stable =>
        if vcapRequestComplete stable sequence then
          match ← captureSnapshot with
          | none => return none
          | some applied =>
            return if vcapRequestResult stable sequence applied.raw raw = .applied then some applied
              else none
        else
          cardIo.delay
          applyRawWait raw sequence waiting ticks
    else
      return none

def applyRaw (raw : UInt32) (waiting : Bool) : Video (Option VcapSnapshot) := do
  if ← cardIo.keepRunningOr (!waiting) then
    match ← cardIo.readStable vcapLiveStatus with
    | none => return none
    | some stable =>
      let status := vcapStatusUnpack stable
      if status.settled then
        cardIo.write16 vcapLiveStagedRawHi (raw >>> 16).toUInt16
        cardIo.write16 vcapLiveStagedRawLo raw.toUInt16
        cardIo.write16 vcapLiveCommit vcapLiveCommitToken
        applyRawWait raw (vcapNextSequence status.requestSequence) waiting vcapApplyTicks
      else
        return none
  else
    return none

/-- A request that says why it is not confirmed. -/
def confirm (text : String) (request : Video VcapResult) : Video Bool := do
  feWaitBegin
  let result ← request
  if result = .ok then return true else refuse (text ++ vcapResultText result)

def phaseApply (phase : Int) (restoring : Bool) : Video Bool :=
  confirm "Phase not confirmed: " (cardIo.phaseApply phase restoring)

def geometryApply (width height : UInt16) (restoring : Bool) : Video Bool :=
  confirm "Capture window not confirmed: " (cardIo.geometryApply width height restoring)

def vcapLiveSupported (firmwareRevision firmwareCapabilities : UInt16) (rtlCapability : UInt32)
    : Bool :=
  firmwareRevision ≥ vcapLiveMinFw && firmwareCapabilities &&& fwCapVideocapLive != 0
    && rtlCapability == vcapLiveCapabilityValue

def videoInit : Video Unit := do
  modify fun w => { w with live := .zero, history := .empty }
  let capability ← cardIo.read32 vcapLiveCapability
  modify fun w =>
    { w with
      live := { w.live with
        supported := vcapLiveSupported w.card.fwVersion w.card.fwCaps capability } }
  readDomain
  let _ ← refreshLive

def videoSnapshot : Video Bool := do
  if (← read).live.supported then refreshLive else return false

def videoPhaseState : Video (Option Int) := do
  match ← cardIo.phaseRead with
  | .error result =>
    writeMessage ("Phase unavailable: " ++ vcapResultText result)
    return none
  | .ok state =>
    let result ← cardIo.phaseCheck state.applied
    if result = .ok then
      onLive fun live => { live with domain := state.domain }
      return some state.applied
    else
      writeMessage ("Phase unavailable: " ++ vcapResultText result)
      return none

def stageCrop (h : UInt16) (hp : Bool) (v : UInt16) (vp : Bool) : Video Unit :=
  onCfg fun cfg =>
    let cfg := if hp then cfg.settingsSet .cropH h.toNat else cfg.settingsClear .cropH
    if vp then cfg.settingsSet .cropV v.toNat else cfg.settingsClear .cropV

/-- A request for a crop is going to be made. -/
def touchCrop (target : UInt32) : Video Unit :=
  modify fun w =>
    { w with
      live := { w.live with
        cropTouched := true
        cropConfirmed := false
        cropTarget := target
        cropTargetValid := true }
      history := { w.history with
        cropEntry := w.history.cropEntry.or (some w.card.crop.appliedRaw) } }

def confirmCrop (applied : VcapSnapshot) : Video Unit :=
  onLive fun live => { live with current := applied, cropConfirmed := true }

/-- The crop of a control is the one that is staged. -/
def cropStagedAs (control : VcapControl) (v : ZzcfgValues) : Bool :=
  (control.cropHPresent != 0) == v.videocapCropHPresent
    && (!v.videocapCropHPresent || control.cropH == v.videocapCropH)
    && (control.cropVPresent != 0) == v.videocapCropVPresent
    && (!v.videocapCropVPresent || control.cropV == v.videocapCropV)

/-- The phase that is staged; an absent one is automatic. -/
def stagedPhase (domain : VcapPhaseDomain) (v : ZzcfgValues) : Int :=
  match domain with
  | .c28 => if v.videocapC28PhasePresent then v.videocapC28Phase.toInt else 0
  | .e7m => if v.videocapPhasePresent then v.videocapPhase.toInt else 0
  | .none => 0

/-- The capture window that is staged. -/
def stagedWindow (v : ZzcfgValues) : UInt16 × UInt16 :=
  (if v.videocapWidthPresent then v.videocapWidth else 0,
    if v.videocapHeightPresent then v.videocapHeight else 0)

/-- An operation has left a domain confirmed at what is not staged. -/
def stray (p : VideoWorld → Bool) : Video Unit :=
  modify fun w => { w with history := { w.history with strayed := w.history.strayed || p w } }

def presence (present : Bool) : UInt16 := if present then 1 else 0

/-- The request of `video_set_crop`, `video_set_sample` and `video_reset_automatic` for a control. -/
def requestCrop (control : VcapControl) (cancelled failed : String) : Video Bool := do
  touchCrop (vcapControlPack control)
  feWaitBegin
  match ← applyRaw (vcapControlPack control) true with
  | none => refuse (if (← read).cancel then cancelled else failed)
  | some applied =>
    confirmCrop applied
    return true

def videoSetCrop (h : UInt16) (hp : Bool) (v : UInt16) (vp : Bool) : Video Bool := do
  if h > vcapCropMax || v > vcapCropMax then
    refuse "Crop values must be between 0 and 4095"
  else if !(← read).live.supported then
    stageCrop h hp v vp
    accept "Crop saved for the next power-cycle"
  else if !(← videoCurrentPathMatches) then
    refuse "The running capture path differs; Save and reboot or restore it"
  else
    match ← currentControl with
    | none => refuse "Live crop state is unavailable"
    | some control =>
      let control := { control with
        cropH := h, cropV := v, cropHPresent := presence hp, cropVPresent := presence vp }
      if ← requestCrop control "Crop change cancelled"
          "Crop was not acknowledged by native video" then
        stageCrop h hp v vp
        onLive fun live => { live with sweepValid := false }
        accept "Framing applied; Save keeps it after reboot"
      else
        return false

/-- The end of `video_set_sample`. -/
def stageSample (sample : UInt16) (text : String) : Video Bool := do
  onCfg fun cfg => cfg.settingsSet .sample sample.toNat
  onLive fun live => { live with sweepValid := false }
  accept text

def videoSetSample (sample : UInt16) : Video Bool := do
  if sample > 2 then
    refuse "Unknown capture sample mode"
  else if !(← read).live.supported then
    stageSample sample "Sample mode applied; Save keeps it after reboot"
  else if !(← refreshLive) then
    refuse "Live capture state is unavailable"
  else
    match ← currentControl with
    | none => refuse "Live capture state is unavailable"
    | some control =>
      if pathFor (← read).cfg.edit.videocapProfile control.sample != controlPath control then
        stageSample sample "Sample mode staged with the new output; applies after reboot"
      else
        let control := { control with sample }
        if ← requestCrop control "Sample change cancelled" "Sample change was not acknowledged" then
          stray fun w => !cropStagedAs control w.cfg.edit
          stageSample sample "Sample mode applied; Save keeps it after reboot"
        else
          return false

def phaseField (domain : VcapPhaseDomain) : CfgField :=
  if domain = .c28 then .phaseC28 else .phaseE7m

/-- An edit of the phase begins where `entry` is applied. -/
def enterPhase (entry : Int) (w : VideoWorld) : VideoWorld :=
  { w with
    history := { w.history with
      phaseEntry := w.history.phaseEntry.or (some entry)
      unanchored := w.history.unanchored
        || (w.history.phaseEntry.isNone && !w.live.phaseAnchorValid) } }

def touchPhase (phase : Int) : Video Unit :=
  modify fun w =>
    { enterPhase w.card.phase.state.applied w with
      live := { w.live with phaseTouched := true, phaseConfirmed := false, phaseTarget := phase } }

def requestPhase (phase : Int) : Video Bool := do
  touchPhase phase
  if ← phaseApply phase false then
    onLive fun live => { live with phaseConfirmed := true }
    return true
  else
    return false

def stagePhase (domain : VcapPhaseDomain) (phase : Int) (present : Bool) : Video Unit := do
  if present then
    onCfg fun cfg => cfg.settingsSet (phaseField domain) phase
  else
    onCfg fun cfg => cfg.settingsClear (phaseField domain)
    stray fun _ => phase != 0

def videoSetPhase (phase : Int) (present : Bool) : Video Bool := do
  let domain := (← read).live.domain
  if domain = .none || !vcapPhaseValid phase domain then
    refuse "Phase is unavailable for this capture engine"
  else if ← requestPhase phase then
    stagePhase domain phase present
    onLive fun live => { live with sweepValid := false }
    accept s!"Phase {phase} applied; Save keeps it after reboot"
  else
    return false

/-- An edit of the capture window begins. -/
def enterWindow (w : VideoWorld) : VideoWorld :=
  { w with
    history := { w.history with
      windowEntry := w.history.windowEntry.or (some w.card.geometry.window)
      unanchored := w.history.unanchored
        || (w.history.windowEntry.isNone && !w.live.geometryAnchorValid) } }

def touchGeometry (width height : UInt16) : Video Unit :=
  modify fun w =>
    { enterWindow w with
      live := { w.live with
        geometryTouched := true
        geometryConfirmed := false
        geometryWidth := width
        geometryHeight := height } }

def requestGeometry (width height : UInt16) : Video Bool := do
  touchGeometry width height
  if ← geometryApply width height false then
    onLive fun live => { live with geometryConfirmed := true }
    return true
  else
    return false

def stageWindow (width height : UInt16) (cfg : SettingsState) : SettingsState :=
  let cfg := if width ≠ 0 then cfg.settingsSet .width width.toNat else cfg.settingsClear .width
  if height ≠ 0 then cfg.settingsSet .height height.toNat else cfg.settingsClear .height

def videoSetGeometry (width height : UInt16) : Video Bool := do
  if !geometryValid width height then
    refuse "Width is 256..1280 in steps of 16; height is 100..1024"
  else if !(← cardIo.geometrySupported) then
    refuse "Capture window needs firmware that confirms window changes"
  else if ← requestGeometry width height then
    onCfg (stageWindow width height)
    accept "Capture window applied; Save keeps it after reboot"
  else
    return false

inductive VcapOutput where
  | full
  | centered
  | filteredVga
  | filteredSd
  deriving DecidableEq, Repr

inductive VcapRefresh where
  | hz50
  | hz60
  | matchInput
  | auto5060
  | palClock
  | ntscClock
  deriving DecidableEq, Repr

/-- The output and the refresh of the rows of `zzcfg_profiles`. -/
def zzcfgProfilePairs : List (VcapOutput × VcapRefresh) :=
  [(.full, .hz60), (.full, .matchInput), (.filteredVga, .hz60), (.filteredSd, .auto5060),
    (.filteredSd, .palClock), (.filteredSd, .ntscClock), (.centered, .hz60), (.centered, .hz50),
    (.centered, .matchInput)]

/-- `zzcfg_profile_for_output_refresh`, which gives nothing where it returns the count. -/
def zzcfgProfileForOutputRefresh (pair : VcapOutput × VcapRefresh) (capabilities : UInt16)
    : Option UInt16 :=
  match zzcfgProfilePairs.idxOf? pair with
  | none => none
  | some i =>
    if zzcfgProfileSupported (UInt16.ofNat i) capabilities then some (UInt16.ofNat i) else none

/-- The pair of a profile is supported by the firmware. -/
def profilePairSupported (profile capabilities : UInt16) : Bool :=
  match zzcfgProfilePairs[profile.toNat]? with
  | none => false
  | some pair => (zzcfgProfileForOutputRefresh pair capabilities).isSome

/-- The end of `video_set_profile`; `moved` says that the staged path changes. -/
def stageProfile (profile : UInt16) (moved : Bool) : Video Bool := do
  onCfg fun cfg => cfg.settingsSet .profile profile.toNat
  let cfg := (← read).cfg
  if (settingsPresent cfg.edit .cropH || settingsPresent cfg.edit .cropV) && moved then
    onCfg fun cfg => (cfg.settingsClear .cropH).settingsClear .cropV
    accept "Framing reset to Automatic; Save, reboot, then align picture"
  else
    accept "Output changed; Save, then power-cycle"

/-- The crop anchor is applied. -/
def restoreCrop : Video (Option VcapSnapshot) := do
  let live := (← read).live
  if live.cropAnchorValid then applyRaw live.cropAnchor.raw false else return none

def videoSetProfile (profile : UInt16) : Video Bool := do
  let w ← read
  if !profilePairSupported profile w.card.fwCaps then
    refuse "That output and refresh pair is unsupported"
  else
    let moved := w.stagedPath != pathFor profile w.cfg.edit.videocapSample
    if w.live.supported && w.live.cropTouched && moved then
      match ← restoreCrop with
      | none => refuse "Profile change waits for live picture restore; retry"
      | some applied =>
        onLive fun live => { live with current := applied, cropTouched := false }
        stageProfile profile moved
    else
      stageProfile profile moved

/-- The crop and the window are automatic again, and so is the phase. -/
def stageAutomatic (domain : VcapPhaseDomain) (cfg : SettingsState) : SettingsState :=
  let cfg := (cfg.settingsClear .cropH).settingsClear .cropV
  let cfg := (cfg.settingsClear .width).settingsClear .height
  if domain = .none then cfg else cfg.settingsClear (phaseField domain)

/-- What `video_reset_automatic` asks for after the crop. -/
def resetPhase : Video Bool := do
  if (← read).live.domain = .none then return true else requestPhase 0

def automatic (control : VcapControl) : VcapControl :=
  { control with cropH := 0, cropV := 0, cropHPresent := 0, cropVPresent := 0 }

/-- The part of `video_reset_automatic` after the crop is confirmed. -/
def resetRest (control : VcapControl) : Video Bool := do
  if ← resetPhase then
    if ← requestGeometry 0 0 then
      let domain := (← read).live.domain
      onCfg (stageAutomatic domain)
      onLive fun live => { live with sweepValid := false }
      accept "Picture reset to Automatic; Save keeps it after reboot"
    else
      stray fun w => !cropStagedAs (automatic control) w.cfg.edit
        || stagedPhase w.live.domain w.cfg.edit != 0
      return false
  else
    stray fun w => !cropStagedAs (automatic control) w.cfg.edit
    return false

def videoResetAutomatic : Video Bool := do
  if !(← read).live.supported then
    let domain := (← read).live.domain
    onCfg (stageAutomatic domain)
    stray fun w => (w.live.phaseTouched && w.live.phaseTarget != 0)
      || (w.live.geometryTouched && (w.live.geometryWidth, w.live.geometryHeight) != (0, 0))
    accept "Automatic framing saved for the next power-cycle"
  else if !(← cardIo.geometrySupported) then
    refuse "Reset to automatic needs live capture window support"
  else if !(← refreshLive) then
    refuse "Reset to automatic needs live capture window support"
  else
    match ← currentControl with
    | none => refuse "Reset to automatic needs live capture window support"
    | some control =>
      if ← requestCrop (automatic control) "Reset to automatic cancelled"
          "Automatic crop was not acknowledged" then
        resetRest control
      else
        return false

def videoAlignReady : Video Bool := do
  if !(← read).live.supported then
    refuse "Live controls need firmware 2.8 with matching bitstream"
  else if !(← refreshLive) then
    refuse "Align picture waits for stable native video frames"
  else if !(← videoCurrentPathMatches) then
    refuse "The running capture path differs; Save and reboot or restore it"
  else
    accept ""

def videoFindPhaseReady : Video Bool := do
  if !(← videoAlignReady) then
    return false
  else if (← read).live.domain ≠ .c28 then
    refuse "Find best phase needs the C28 capture engine"
  else if (← cardIo.read32 captureMetadataCapReg) ≠ captureMetadataCap then
    refuse "Find best phase needs frozen-field metadata"
  else
    match ← videoPhaseState with
    | none => return false
    | some _ => accept ""

/-- The editor has had the crop registers for itself. -/
def leaveCrop (appliedRaw : UInt32) (request : Option LiveRequest) (w : VideoWorld) : VideoWorld :=
  { w with card := { w.card with crop := { w.card.crop with appliedRaw, request } } }

/-- The crop is the one of the editor, which began where `entry` was applied. -/
def takeAligned (entry : UInt32) (target : UInt32) (confirmed : Bool) (w : VideoWorld)
    : VideoWorld :=
  { w with
    live := { w.live with
      cropTouched := true
      cropConfirmed := confirmed
      cropTarget := if confirmed then target else w.live.cropTarget
      cropTargetValid := confirmed }
    history := { w.history with cropEntry := w.history.cropEntry.or (some entry) } }

/-- `video_align`, over what `align_picture_run` leaves behind. -/
def videoAlign : Video Bool := do
  if !(← videoAlignReady) then
    return false
  else if !(← videoSnapshot) then
    return false
  else
    let entry := (← read).card.crop.appliedRaw
    match (← answer).align with
    | .restored text =>
      modify (leaveCrop entry none)
      refuse text
    | .unknown appliedRaw request =>
      modify (leaveCrop appliedRaw request)
      modify (takeAligned entry 0 false)
      refuse "Capture state is unknown"
    | .accepted control =>
      if control.valid then
        modify (leaveCrop (vcapControlPack control) none)
        modify (takeAligned entry (vcapControlPack control) true)
        let _ ← videoSnapshot
        stageCrop control.cropH (control.cropHPresent != 0) control.cropV
          (control.cropVPresent != 0)
        onLive fun live => { live with sweepValid := false }
        accept "Picture alignment applied; Save keeps it after reboot"
      else
        return false

/-- The calibration has had the phase engine for itself. -/
def leavePhase (status : UInt16) (w : VideoWorld) : VideoWorld :=
  { w with card := { w.card with phase := { w.card.phase with status } } }

/-- The engine that the calibration leaves is done with the phase. -/
def leavesAt (phase : Int) (status : UInt16) (w : VideoWorld) : Bool :=
  !(leavePhase status w).card.phase.state.busy
    && (leavePhase status w).card.phase.state.applied == phase

/-- What `video_find_phase` does after a calibration that is not sure of the phase. -/
def losePhase (entry : Int) (w : VideoWorld) : VideoWorld :=
  { enterPhase entry w with
    live := { w.live with phaseTouched := true, phaseConfirmed := false, sweepValid := false } }

/-- `video_find_phase` with what `vcap_sampling_run` leaves behind. -/
def videoFindPhaseFrom (entry : Int) : Video Bool := do
  let w ← read
  if w.card.phase.state.check entry ≠ .ok then
    onLive fun live => { live with sweepValid := false }
    refuse "Sampling calibration requires the current C28 phase"
  else
    match (← answer).sampling with
    | .restored _ text status =>
      if leavesAt entry status w then
        modify (leavePhase status)
        onLive fun live => { live with sweepValid := false }
        refuse text
      else
        return false
    | .unknown status =>
      modify (leavePhase status)
      modify (losePhase entry)
      refuse "Capture phase state is unknown: restoration failed"
    | .selected chosen sweep status =>
      if leavesAt chosen status w && capturePhaseValid chosen then
        modify (leavePhase status)
        modify fun w => enterPhase entry w
        onLive fun live => { live with sweep, sweepValid := true }
        if ← videoSetPhase chosen true then
          onLive fun live => { live with sweepValid := true }
          return true
        else
          return false
      else
        return false

def videoFindPhase : Video Bool := do
  if !(← videoFindPhaseReady) then
    return false
  else
    match ← cardIo.phaseRead with
    | .error _ => return false
    | .ok phase =>
      if ← refreshLive then
        videoElapse
        videoFindPhaseFrom phase.applied
      else
        return false

def videoLivePending : Video Bool := do
  let live := (← read).live
  return live.cropTouched || live.phaseTouched || live.geometryTouched

/-- What `video_save_check` asks of the crop. -/
def saveCheckCrop : Video Bool := do
  let live := (← read).live
  if !live.cropTouched then
    return true
  else if !live.cropConfirmed || !live.cropTargetValid then
    refuse "Picture framing is not confirmed"
  else if !(← refreshLive) then
    refuse "Picture framing is not confirmed"
  else if (← read).live.current.raw ≠ (← read).live.cropTarget then
    refuse "Picture framing is not confirmed"
  else
    match ← currentControl with
    | none => refuse "Picture framing is not confirmed"
    | some control =>
      if (← read).stagedPath ≠ controlPath control then
        refuse "Custom framing cannot be saved until the running capture path matches it"
      else
        return true

def saveCheckPhase : Video Bool := do
  let live := (← read).live
  if !live.phaseTouched then
    return true
  else if !live.phaseConfirmed then
    refuse "The phase is not confirmed"
  else
    let result ← cardIo.phaseCheck live.phaseTarget
    if result = .ok then
      return true
    else
      refuse ("The phase is not confirmed: " ++ vcapResultText result)

def saveCheckGeometry : Video Bool := do
  let live := (← read).live
  if !live.geometryTouched then
    return true
  else if !live.geometryConfirmed then
    refuse "The capture window is not confirmed"
  else
    let result ← cardIo.geometryCheck live.geometryWidth live.geometryHeight
    if result = .ok then
      return true
    else
      refuse ("The capture window is not confirmed: " ++ vcapResultText result)

def videoSaveCheck : Video Bool := do
  if ← saveCheckCrop then
    if ← saveCheckPhase then saveCheckGeometry else return false
  else
    return false

def rebaseCrop (w : VideoWorld) : VideoWorld :=
  { w with
    live := { w.live with
      cropAnchor := w.live.current
      cropAnchorValid := true
      cropTouched := false
      cropTargetValid := false }
    history := { w.history with cropEntry := none } }

def savedCrop : Video Unit := do
  let live := (← read).live
  if live.cropTouched && live.cropConfirmed then
    if ← refreshLive then
      let live := (← read).live
      if live.current.raw = live.cropTarget then modify rebaseCrop else return ()
    else
      return ()
  else
    return ()

def rebasePhase (w : VideoWorld) : VideoWorld :=
  { w with
    live := { w.live with
      phaseAnchor := w.live.phaseTarget
      phaseAnchorValid := true
      phaseTouched := false }
    history := { w.history with phaseEntry := none } }

def savedPhase : Video Unit := do
  let live := (← read).live
  if live.phaseTouched && live.phaseConfirmed then
    if (← cardIo.phaseCheck live.phaseTarget) = .ok then modify rebasePhase else return ()
  else
    return ()

def rebaseGeometry (state : VcapGeometryState) (w : VideoWorld) : VideoWorld :=
  { w with
    live := { w.live with
      geometryAnchor := state
      geometryAnchorValid := true
      geometryTouched := false }
    history := { w.history with windowEntry := none } }

def savedGeometry : Video Unit := do
  let live := (← read).live
  if live.geometryTouched && live.geometryConfirmed then
    match ← cardIo.geometryRead with
    | .error _ => return ()
    | .ok state =>
      if state.requests live.geometryWidth live.geometryHeight
          && state.requestSerial == state.appliedSerial then
        modify (rebaseGeometry state)
      else
        return ()
  else
    return ()

def videoSaved : Video Unit := do
  savedCrop
  savedPhase
  savedGeometry

def revertCrop : Video Bool := do
  if (← read).live.cropTouched then
    match ← restoreCrop with
    | none => refuse "Could not restore live picture framing"
    | some applied =>
      onLive fun live => { live with current := applied }
      return true
  else
    return true

def revertPhase : Video Bool := do
  let live := (← read).live
  if live.phaseTouched then
    if live.phaseAnchorValid then phaseApply live.phaseAnchor true else return false
  else
    return true

def revertGeometry : Video Bool := do
  let live := (← read).live
  if live.geometryTouched then
    if live.geometryAnchorValid then
      geometryApply live.geometryAnchor.requestedWidth live.geometryAnchor.requestedHeight true
    else
      return false
  else
    return true

def VideoLiveState.untouched (live : VideoLiveState) : VideoLiveState :=
  { live with
    cropTouched := false
    cropConfirmed := false
    cropTargetValid := false
    phaseTouched := false
    phaseConfirmed := false
    geometryTouched := false
    geometryConfirmed := false
    sweepValid := false }

def videoRevert : Video Bool := do
  if ← revertCrop then
    if ← revertPhase then
      if ← revertGeometry then
        onLive VideoLiveState.untouched
        let _ ← refreshLive
        return true
      else
        return false
    else
      return false
  else
    return false

/-- What the application asks of the live control. -/
inductive VideoStep where
  | init
  | snapshot
  | currentPathMatches
  | phaseState
  | alignReady
  | findPhaseReady
  | setCrop (h : UInt16) (hp : Bool) (v : UInt16) (vp : Bool)
  | setSample (sample : UInt16)
  | setPhase (phase : Int) (present : Bool)
  | setGeometry (width height : UInt16)
  | setProfile (profile : UInt16)
  | resetAutomatic
  | align
  | findPhase
  | saveCheck
  | saved
  | revert
  deriving DecidableEq, Repr

def videoStep (step : VideoStep) : Video Unit :=
  match step with
  | .init => videoInit
  | .snapshot => discard videoSnapshot
  | .currentPathMatches => discard videoCurrentPathMatches
  | .phaseState => discard videoPhaseState
  | .alignReady => discard videoAlignReady
  | .findPhaseReady => discard videoFindPhaseReady
  | .setCrop h hp v vp => discard (videoSetCrop h hp v vp)
  | .setSample sample => discard (videoSetSample sample)
  | .setPhase phase present => discard (videoSetPhase phase present)
  | .setGeometry width height => discard (videoSetGeometry width height)
  | .setProfile profile => discard (videoSetProfile profile)
  | .resetAutomatic => discard videoResetAutomatic
  | .align => discard videoAlign
  | .findPhase => discard videoFindPhase
  | .saveCheck => discard videoSaveCheck
  | .saved => videoSaved
  | .revert => discard videoRevert

end ZZTop
