import ZZ9000.UsbPoseidon.Status

/-!
This module contains the request engine of `zzusb_engine.c`: the lifecycle of one USB request and
the diagnostics that the engine reports about it.
-/

namespace ZZUsb

inductive RequestState where
  | free
  | queued
  | dispatching
  | inFlight
  | retiring
  | terminal
  deriving DecidableEq, Repr

def RequestState.code : RequestState → UInt32
  | .free => 0
  | .queued => 1
  | .dispatching => 2
  | .inFlight => 3
  | .retiring => 4
  | .terminal => 5

inductive TerminalResult where
  | none
  | ok
  | ioError
  | aborted
  | timeout
  deriving DecidableEq, Repr

def TerminalResult.code : TerminalResult → UInt32
  | .none => 0
  | .ok => 1
  | .ioError => 2
  | .aborted => 3
  | .timeout => 4

inductive DiagCounter where
  | request
  | completion
  | timeout
  | lateCompletion
  | cancellation
  | hostError
  deriving DecidableEq, Repr

inductive DiagEventType where
  | request
  | completion
  | timeout
  | lateCompletion
  | cancellation
  deriving DecidableEq, Repr

-- The engine passes zero for the address, endpoint, direction, topology, schedule and timestamp of
-- every event that it records.
inductive DiagCall where
  | count (counter : DiagCounter)
  | record (type : DiagEventType) (status : UInt16) (requestId controllerEpoch detail : UInt32)
  deriving DecidableEq, Repr

structure EngineRequest where
  requestId : UInt32
  controllerEpoch : UInt32
  transportStatus : UInt16
  state : RequestState
  terminalResult : TerminalResult
  abortRequested : Bool
  replyClaimed : Bool
  bufferReleased : Bool
  observer : Bool
  deriving DecidableEq, Repr

/-- The return value of an engine operation, the request it leaves and what it reported. -/
structure EngineOutcome where
  ret : Bool
  request : EngineRequest
  diag : List DiagCall
  deriving DecidableEq, Repr

namespace EngineRequest

def init : EngineRequest where
  requestId := 0
  controllerEpoch := 0
  transportStatus := 0
  state := .free
  terminalResult := .none
  abortRequested := false
  replyClaimed := false
  bufferReleased := false
  observer := false

def refuse (request : EngineRequest) : EngineOutcome := ⟨false, request, []⟩

-- Every report of the engine is guarded by `if (!request->observer)`.
def report (request : EngineRequest) (calls : List DiagCall) : List DiagCall :=
  if request.observer then [] else calls

def makeTerminal (request : EngineRequest) (result : TerminalResult) (status : UInt16)
    (diag : List DiagCall) : EngineOutcome :=
  if request.state = .free ∨ request.state = .terminal then
    ⟨false, request, diag⟩
  else
    let request := { request with
      transportStatus := status
      terminalResult := if request.abortRequested then .aborted else result
      state := .terminal }
    ⟨true, request, diag⟩

def queue (request : EngineRequest) : EngineOutcome :=
  if request.state ≠ .free then
    request.refuse
  else
    ⟨true, { request with state := .queued }, []⟩

def dispatch (request : EngineRequest) : EngineOutcome :=
  if request.state ≠ .queued then
    request.refuse
  else
    ⟨true, { request with state := .dispatching }, []⟩

def begin (request : EngineRequest) (requestId controllerEpoch : UInt32) : EngineOutcome :=
  if request.state ≠ .dispatching ∨ requestId = 0 then
    request.refuse
  else
    let request := { request with
      requestId := requestId
      controllerEpoch := controllerEpoch
      state := .inFlight }
    ⟨true, request, request.report [
      .count .request,
      .record .request EngineStatus.pending requestId controllerEpoch 0]⟩

def retry (request : EngineRequest) (transportStatus : UInt16) : EngineOutcome :=
  if request.state ≠ .inFlight ∨ request.abortRequested then
    request.refuse
  else
    let diag := request.report [
      .count .completion,
      .record .completion transportStatus request.requestId request.controllerEpoch 0]
    let request := { request with
      requestId := 0
      controllerEpoch := 0
      transportStatus := transportStatus
      terminalResult := .none
      state := .queued }
    ⟨true, request, diag⟩

def abort (request : EngineRequest) : EngineOutcome :=
  if request.state = .free ∨ request.state = .terminal ∨ request.abortRequested then
    request.refuse
  else
    let request := { request with abortRequested := true }
    let diag := request.report [
      .count .cancellation,
      .record .cancellation EngineStatus.cancelled request.requestId request.controllerEpoch
        request.state.code]
    if request.state = .queued then
      request.makeTerminal .aborted EngineStatus.cancelled diag
    else
      ⟨false, request, diag⟩

def timeout (request : EngineRequest) : EngineOutcome :=
  if request.state ≠ .inFlight then
    request.refuse
  else
    let request := { request with state := .retiring }
    ⟨true, request, request.report [
      .count .timeout,
      .record .timeout EngineStatus.timeout request.requestId request.controllerEpoch
        request.state.code]⟩

def complete (request : EngineRequest) (requestId controllerEpoch : UInt32)
    (transportStatus : UInt16) : EngineOutcome :=
  if (request.state ≠ .inFlight ∧ request.state ≠ .retiring) ∨ requestId ≠ request.requestId
      ∨ controllerEpoch ≠ request.controllerEpoch then
    ⟨false, request, request.report [
      .count .lateCompletion,
      .record .lateCompletion transportStatus requestId controllerEpoch request.state.code]⟩
  else
    let result := if transportStatus = EngineStatus.ok then .ok else .ioError
    let hostError :=
      if transportStatus = EngineStatus.error ∨ transportStatus = EngineStatus.hostError then
        [.count .hostError]
      else
        []
    let diag := request.report (.count .completion :: hostError ++ [
      .record .completion transportStatus requestId controllerEpoch
        (if request.abortRequested then 1 else 0)])
    request.makeTerminal result transportStatus diag

def retire (request : EngineRequest) (result : TerminalResult) (transportStatus : UInt16)
    : EngineOutcome :=
  if request.state ≠ .dispatching ∧ request.state ≠ .inFlight ∧ request.state ≠ .retiring then
    request.refuse
  else
    let diag := request.report [
      .count .completion,
      .record .completion transportStatus request.requestId request.controllerEpoch result.code]
    request.makeTerminal result transportStatus diag

def claimReply (request : EngineRequest) : EngineOutcome :=
  if request.state ≠ .terminal ∨ request.replyClaimed then
    request.refuse
  else
    ⟨true, { request with replyClaimed := true }, []⟩

def releaseBuffer (request : EngineRequest) : EngineOutcome :=
  if request.state ≠ .terminal ∨ request.bufferReleased then
    request.refuse
  else
    ⟨true, { request with bufferReleased := true }, []⟩

end EngineRequest

/-- The operations on a request, with the arguments of each. -/
inductive EngineOp where
  | queue
  | dispatch
  | begin (requestId controllerEpoch : UInt32)
  | retry (transportStatus : UInt16)
  | abort
  | timeout
  | complete (requestId controllerEpoch : UInt32) (transportStatus : UInt16)
  | retire (result : TerminalResult) (transportStatus : UInt16)
  | claimReply
  | releaseBuffer
  deriving DecidableEq, Repr

def EngineOp.apply (op : EngineOp) (request : EngineRequest) : EngineOutcome :=
  match op with
  | .queue => request.queue
  | .dispatch => request.dispatch
  | .begin requestId controllerEpoch => request.begin requestId controllerEpoch
  | .retry transportStatus => request.retry transportStatus
  | .abort => request.abort
  | .timeout => request.timeout
  | .complete requestId controllerEpoch transportStatus =>
    request.complete requestId controllerEpoch transportStatus
  | .retire result transportStatus => request.retire result transportStatus
  | .claimReply => request.claimReply
  | .releaseBuffer => request.releaseBuffer

structure EngineStep where
  op : EngineOp
  before : EngineRequest
  outcome : EngineOutcome
  deriving DecidableEq, Repr

/-- The steps that a sequence of operations takes. -/
def engineRun (request : EngineRequest) (ops : List EngineOp) : List EngineStep :=
  match ops with
  | [] => []
  | op :: ops =>
    let outcome := op.apply request
    ⟨op, request, outcome⟩ :: engineRun outcome.request ops

namespace EngineStep

def claims (step : EngineStep) : Bool := step.op = .claimReply && step.outcome.ret

def releases (step : EngineStep) : Bool := step.op = .releaseBuffer && step.outcome.ret

/-- The id and epoch of the attempt that is current after a step. -/
def attempt (current : Option (UInt32 × UInt32)) (step : EngineStep) : Option (UInt32 × UInt32) :=
  match step.op, step.outcome.ret with
  | .begin requestId controllerEpoch, true => some (requestId, controllerEpoch)
  | .retry _, true => none
  | _, _ => current

end EngineStep

def currentAttempt (steps : List EngineStep) : Option (UInt32 × UInt32) :=
  steps.foldl EngineStep.attempt none

end ZZUsb
