import ZZ9000.Concurrency.Exits
import ZZ9000.Vcap.Capture

/-!
This module contains the sampling calibration of `vcap_sampling.c`. What the registers read, what the
user does and whether the screen opens are answers of the environment.
-/

namespace ZZTop

open Concurrency ZZVcap
open Concurrency.Coroutine (read modify answer)

def rawkeyKeypadEnter : UInt16 := 0x43
def rawkeyReturn : UInt16 := 0x44
def rawkeyEscape : UInt16 := 0x45
def sweepComparisons : Nat := 10
def retestComparisons : Nat := 50

inductive SamplingMessage where
  | rawkey (code : UInt16)
  | inactiveWindow
  deriving DecidableEq, Repr

/-- Where `vcap_sampling_open_screen` gives up. -/
inductive ScreenFailure where
  | mode
  | screen
  | standard
  | window
  | pointer
  deriving DecidableEq, Repr

def ScreenFailure.text (failure : ScreenFailure) : String :=
  match failure with
  | .mode => "Requested 256-colour SuperHires sampling mode is unavailable"
  | .screen => "Could not open 256-colour sampling screen"
  | .standard => "Sampling screen did not open in requested PAL/NTSC SuperHires mode"
  | .window => "Could not open sampling-screen input window"
  | .pointer => "Could not allocate the invisible pointer."

/-- What the environment answers to a read, to a look at the messages, or to the opening. -/
structure SamplingAnswer where
  value : UInt16
  ctrlC : Bool
  messages : List SamplingMessage
  windowActive : Bool
  screen : Option ScreenFailure
  deriving DecidableEq, Repr

/--
The registers as the client knows them. `seen` is what was read last, `requests` are the phases that
were requested, the newest first, and `acked` is the one that the card has acknowledged last.
-/
structure SamplingCard where
  seen : UInt32 → UInt16
  target : UInt16
  requests : List Int
  acked : Option Int

namespace SamplingCard

def seen32 (card : SamplingCard) (offset : UInt32) : UInt32 :=
  vcapWord (card.seen offset) (card.seen (offset + 2))

/-- The state of the engine, from what was read last. -/
def phaseState (card : SamplingCard) : VcapPhaseState :=
  vcapPhaseState (vcapPhaseDomain (card.seen32 captureCapReg)) (card.seen32 captureClockStatusReg)
    (card.seen32 capturePhaseStatusReg)

/-- The engine says that it is done with the phase that it has applied. -/
def acknowledges (card : SamplingCard) : Bool := card.phaseState.settledAt card.phaseState.applied

/-- A register is read. An acknowledgement ends with the second half of the phase status. -/
def observe (offset : UInt32) (value : UInt16) (card : SamplingCard) : SamplingCard :=
  let card := { card with seen := Function.update card.seen offset value }
  if offset = capturePhaseStatusReg + 2 ∧ card.acknowledges then
    { card with acked := some card.phaseState.applied }
  else
    card

def write (offset : UInt32) (value : UInt16) (card : SamplingCard) : SamplingCard :=
  if offset = capturePhaseTargetReg then
    { card with target := value }
  else if offset = capturePhaseCommitReg ∧ value = capturePhaseToken then
    { card with requests := card.target.toInt16.toInt :: card.requests }
  else
    card

end SamplingCard

/-- `struct vcap_sampling_run`, as far as it is not the screen. -/
structure SamplingRun where
  geometry : UInt32
  geometryValid : Bool
  ntsc : Bool
  lace : Bool
  awaitingAccept : Bool
  accepted : Bool
  cancelled : Bool
  ownershipLost : Bool
  deriving DecidableEq, Repr

/-- A frame that was scored, and the phase that the card had acknowledged by then. -/
structure SamplingFrame where
  phase : Option Int
  parity : Nat
  pixels : List UInt32
  deriving DecidableEq, Repr

/--
`checked` says that the card was found at the entry phase, `frames` are the frames of the measurement
that was begun last, the newest first, and `restored` is what became of the last request.
-/
structure SamplingWorld where
  card : SamplingCard
  run : SamplingRun
  selectedPhase : Int
  quality : List UInt8
  failure : String
  checked : Bool
  frames : List SamplingFrame
  restored : Option VcapResult

def SamplingWorld.observe (offset : UInt32) (value : UInt16) (w : SamplingWorld) : SamplingWorld :=
  { w with card := w.card.observe offset value }

abbrev Sampling := Coroutine SamplingWorld Empty Empty SamplingAnswer

namespace SamplingRun

def serveMessage (run : SamplingRun) (message : SamplingMessage) : SamplingRun :=
  match message with
  | .rawkey code =>
    let run := if code = rawkeyEscape then { run with cancelled := true } else run
    if run.awaitingAccept && (code = rawkeyReturn || code = rawkeyKeypadEnter) then
      { run with accepted := true }
    else
      run
  | .inactiveWindow => { run with ownershipLost := true }

/-- `vcap_sampling_keep_running`, while there is a window. -/
def serve (r : SamplingAnswer) (run : SamplingRun) : SamplingRun :=
  let run := if r.ctrlC then { run with cancelled := true } else run
  let run := r.messages.foldl serveMessage run
  if r.windowActive then run else { run with ownershipLost := true }

def running (run : SamplingRun) : Bool := !run.cancelled && !run.ownershipLost

end SamplingRun

def storeRun (f : SamplingRun → SamplingRun) : Sampling Unit :=
  modify fun w => { w with run := f w.run }

def vcapSamplingKeepRunning : Sampling Bool := do
  let r ← answer
  storeRun (SamplingRun.serve r)
  return (← read).run.running

def samplingIo : VcapIo Sampling where
  read16 offset := do
    let r ← answer
    modify fun w => w.observe offset r.value
    return r.value
  write16 offset value := modify fun w => { w with card := w.card.write offset value }
  delay := pure ()
  keepRunning := vcapSamplingKeepRunning

def setFailure (text : String) : Sampling Unit := modify fun w => { w with failure := text }

def rememberGeometry (data : VcapCaptureData) (run : SamplingRun) : SamplingRun :=
  if run.geometryValid then
    run
  else
    { run with geometry := data.geometry, geometryValid := true }

def vcapSamplingCapture (phase : Int) : ExceptT VcapResult Sampling VcapCaptureData := do
  let run := (← ExceptT.lift read).run
  let data ← samplingIo.capture {
    phase
    requirePhase := true
    ntsc := run.ntsc
    lace := run.lace
    haveGeometry := run.geometryValid
    geometry := run.geometry
  } false
  ExceptT.lift (storeRun (rememberGeometry data))
  return data

/-- The variables of the loop of `vcap_sampling_measure`. -/
structure MeasureState where
  wrong : Nat
  changed : Nat
  previous : Nat → Option (List UInt32)
  comparisons : Nat → Nat

namespace MeasureState

def init : MeasureState where
  wrong := 0
  changed := 0
  previous := fun _ => none
  comparisons := fun _ => 0

def score (parity : Nat) (pixels : List UInt32) (s : MeasureState) : MeasureState where
  wrong := s.wrong + capturePatternErrors pixels
  changed :=
    match s.previous parity with
    | none => s.changed
    | some previous => s.changed + captureChangedPixels pixels previous
  previous := Function.update s.previous parity (some pixels)
  comparisons :=
    match s.previous parity with
    | none => s.comparisons
    | some _ => Function.update s.comparisons parity (s.comparisons parity + 1)

def enough (lace : Bool) (comparisons : Nat) (s : MeasureState) : Bool :=
  s.comparisons 0 ≥ comparisons && (!lace || s.comparisons 1 ≥ comparisons)

end MeasureState

def frameParity (lace : Bool) (status : UInt32) : Nat :=
  if lace && status &&& captureSnapshotParity != 0 then 1 else 0

def logFrame (parity : Nat) (pixels : List UInt32) (w : SamplingWorld) : SamplingWorld :=
  { w with frames := { phase := w.card.acked, parity, pixels } :: w.frames }

/-- The scored captures of `vcap_sampling_measure`, `n` at most. -/
def measureLoop (phase : Int) (lace : Bool) (comparisons n : Nat) (s : MeasureState)
    : ExceptT VcapResult Sampling MeasureState :=
  match n with
  | 0 => throw .unstable
  | n + 1 => do
    let data ← vcapSamplingCapture phase
    let parity := frameParity lace data.status
    ExceptT.lift (modify (logFrame parity data.pixels))
    let s := s.score parity data.pixels
    if s.enough lace comparisons then
      return s
    else
      measureLoop phase lace comparisons n s

def vcapSamplingMeasure (phase : Int) (ntsc lace : Bool) (comparisons : Nat)
    : ExceptT VcapResult Sampling MeasureState := do
  let running ← ExceptT.lift vcapSamplingKeepRunning
  VcapIo.refuse (!running) .cancelled
  VcapIo.proceed (samplingIo.phaseApply phase false)
  let _ ← vcapSamplingCapture phase
  let data ← vcapSamplingCapture phase
  let actualLace := data.status &&& captureSnapshotLace != 0
  VcapIo.refuse (actualLace != lace || (data.status &&& captureSnapshotNtsc != 0) != ntsc)
    .stateChanged
  ExceptT.lift (modify fun w => { w with frames := [] })
  measureLoop phase actualLace comparisons (6 * (comparisons + 1)) .init

/-- How the run ends without a phase, and whether the phase has to be restored. -/
inductive SamplingExit where
  | finished (result : Int) (mutationAttempted : Bool)
  /-- The user has not said anything yet. -/
  | waiting
  deriving DecidableEq, Repr

/-- The loop of `vcap_sampling_wait_for_accept`, which has taken so many turns by now. -/
def waitForAccept (turns : Nat) : ExceptT SamplingExit Sampling Unit :=
  match turns with
  | 0 => throw .waiting
  | turns + 1 => do
    if (← ExceptT.lift read).run.accepted then
      return ()
    else
      if ← ExceptT.lift vcapSamplingKeepRunning then waitForAccept turns else return ()

def SamplingRun.done (run : SamplingRun) : Bool :=
  run.accepted && !run.cancelled && !run.ownershipLost

def vcapSamplingWaitForAccept (turns : Nat) : ExceptT SamplingExit Sampling Bool := do
  ExceptT.lift (storeRun fun run => { run with awaitingAccept := true })
  waitForAccept turns
  return (← ExceptT.lift read).run.done

def fail (mutationAttempted : Bool) (text : String) : ExceptT SamplingExit Sampling α := do
  ExceptT.lift (setFailure text)
  throw (.finished (-1) mutationAttempted)

def SamplingWorld.failureText (vresult : VcapResult) (w : SamplingWorld) : String :=
  if w.failure = "" then
    if w.run.ownershipLost then "Sampling screen lost front ownership" else vcapResultText vresult
  else
    w.failure

/-- The label `failed_measurement`. -/
def failedMeasurement (vresult : VcapResult) : ExceptT SamplingExit Sampling α := do
  let w ← ExceptT.lift read
  if vresult = .cancelled ∧ w.run.cancelled = true then
    throw (.finished 0 true)
  else
    fail true (w.failureText vresult)

def measureOr (phase : Int) (ntsc lace : Bool) (comparisons : Nat)
    : ExceptT SamplingExit Sampling MeasureState := do
  match ← ExceptT.lift (vcapSamplingMeasure phase ntsc lace comparisons).run with
  | .error vresult => failedMeasurement vresult
  | .ok s => return s

def MeasureState.clean (s : MeasureState) : Bool := s.wrong == 0 && s.changed == 0

/-- The checks of the entry phase. -/
def checkEntry (entryPhase : Int) : ExceptT SamplingExit Sampling Unit := do
  match ← ExceptT.lift samplingIo.phaseRead with
  | .error vresult => fail false (vcapResultText vresult)
  | .ok state =>
    if state.domain ≠ .c28 ∨ state.applied ≠ entryPhase then
      fail false "Sampling calibration requires the current C28 phase"
    else
      let vresult ← ExceptT.lift (samplingIo.phaseCheck entryPhase)
      if vresult = .ok then
        ExceptT.lift (modify fun w => { w with checked := true })
      else
        fail false (vcapResultText vresult)

def vcapSamplingOpenScreen : ExceptT SamplingExit Sampling Unit := do
  match (← ExceptT.lift answer).screen with
  | some failure => fail false failure.text
  | none =>
    if ← ExceptT.lift vcapSamplingKeepRunning then
      return ()
    else
      let run := (← ExceptT.lift read).run
      ExceptT.lift (setFailure (if run.ownershipLost then "Sampling screen lost front ownership"
        else "Sampling calibration cancelled"))
      throw (.finished (if run.cancelled then 0 else -1) false)

def binPhase (bin : Nat) : Int := capturePhaseMin + (bin * captureBinSteps : Nat)

/-- The bins from the bin `i` on, `n` of them. -/
def sweep (ntsc lace : Bool) (i n : Nat) : ExceptT SamplingExit Sampling (List Bool) :=
  match n with
  | 0 => return []
  | n + 1 => do
    let s ← measureOr (binPhase i) ntsc lace sweepComparisons
    let clean ← sweep ntsc lace (i + 1) n
    return s.clean :: clean

def noEye : String := "No measured clean sampling interval"

def selectEye (clean : List Bool) (entryPhase : Int) : ExceptT SamplingExit Sampling CaptureEye :=
  match captureSelectEye (fun i => clean.getD i false) entryPhase with
  | none => fail true noEye
  | some eye => if eye.fullCircle then fail true noEye else return eye

/-- The bisection of an edge. Its ends come closer in every turn, so `n` turns are enough. -/
def refine (ntsc lace : Bool) (n : Nat) (edge : CaptureBoundary)
    : ExceptT SamplingExit Sampling CaptureBoundary :=
  match n with
  | 0 => return edge
  | n + 1 => do
    if edge.pending then
      let s ← measureOr edge.next ntsc lace sweepComparisons
      refine ntsc lace n (edge.record s.clean)
    else
      return edge

def lowerEdge (eye : CaptureEye) : CaptureBoundary where
  origin := binPhase eye.startBin - captureBinSteps
  good := captureBinSteps
  bad := 0

def upperEdge (eye : CaptureEye) : CaptureBoundary where
  origin := binPhase eye.startBin + ((eye.bins - 1) * captureBinSteps : Nat)
  good := 0
  bad := captureBinSteps

/-- The middle between the two edges. -/
def eyePhase (lower upper : CaptureBoundary) : Int :=
  let first := lower.origin + lower.good
  let margin := (upper.origin + upper.good - first).tdiv 2
  capturePhaseWrap (first + margin)

def retest (phase : Int) (ntsc lace : Bool) : ExceptT SamplingExit Sampling Unit := do
  let s ← measureOr phase ntsc lace retestComparisons
  if s.clean then
    return ()
  else
    ExceptT.lift (setFailure "Selected sampling phase did not remain clean")
    failedMeasurement .ok

def awaitAccept (turns : Nat) : ExceptT SamplingExit Sampling Unit := do
  if ← vcapSamplingWaitForAccept turns then
    return ()
  else
    let w ← ExceptT.lift read
    ExceptT.lift (setFailure (if w.run.ownershipLost then "Sampling screen lost front ownership"
      else w.failure))
    throw (.finished (if w.run.cancelled then 0 else -1) true)

def selectPhase (phase : Int) (clean : List Bool) (w : SamplingWorld) : SamplingWorld :=
  { w with selectedPhase := phase, quality := clean.map fun c => if c then 1 else 0 }

/-- `vcap_sampling_run` from the first access to its label `finished`. -/
def calibrate (ntsc lace : Bool) (entryPhase : Int) (turns : Nat)
    : ExceptT SamplingExit Sampling Unit := do
  checkEntry entryPhase
  vcapSamplingOpenScreen
  let clean ← sweep ntsc lace 0 captureBins
  let eye ← selectEye clean entryPhase
  let lower ← refine ntsc lace captureBinSteps (lowerEdge eye)
  let upper ← refine ntsc lace captureBinSteps (upperEdge eye)
  let phase := eyePhase lower upper
  retest phase ntsc lace
  awaitAccept turns
  ExceptT.lift (modify (selectPhase phase clean))

/-- The label `finished` of a run that has no phase. -/
def restoreEntryPhase (entryPhase result : Int) (mutationAttempted : Bool) : Sampling Int := do
  if mutationAttempted then
    let vresult ← samplingIo.phaseApply entryPhase true
    modify fun w => { w with restored := some vresult }
    if vresult = .ok then
      return result
    else
      setFailure "Capture phase state is unknown: restoration failed"
      return -2
  else
    return result

def startRun (ntsc lace : Bool) : SamplingRun where
  geometry := 0
  geometryValid := false
  ntsc := ntsc
  lace := lace
  awaitingAccept := false
  accepted := false
  cancelled := false
  ownershipLost := false

/-- `vcap_sampling_run` after its arguments are found valid. -/
def calibrateOrRestore (ntsc lace : Bool) (entryPhase : Int) (turns : Nat)
    : Sampling (Option Int) := do
  storeRun fun _ => startRun ntsc lace
  match ← (calibrate ntsc lace entryPhase turns).run with
  | .ok () => return some 1
  | .error (.finished result mutationAttempted) =>
    some <$> restoreEntryPhase entryPhase result mutationAttempted
  | .error .waiting => return none

/-- `vcap_sampling_run`, which gives nothing while it waits for the user. -/
def vcapSamplingRun (ntsc lace entryPhase : Int) (turns : Nat) : Sampling (Option Int) := do
  modify fun w => { w with failure := "", checked := false, frames := [], restored := none }
  if !capturePhaseValid entryPhase || (ntsc != 0 && ntsc != 1) || (lace != 0 && lace != 1) then
    setFailure "Invalid sampling calibration request"
    return some (-1)
  else
    calibrateOrRestore (ntsc == 1) (lace == 1) entryPhase turns

end ZZTop
