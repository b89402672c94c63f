import ZZ9000.Concurrency.Observed
import ZZ9000.Vcap.Geometry
import ZZ9000.Vcap.LiveLemmas

/-!
This module contains the firmware that `zz_vcap_geometry_apply` requests a capture window from. It
numbers the requests that it accepts, and it processes each of them some time after it was written.
-/

namespace ZZVcap

open Concurrency
open Concurrency.Coroutine (read modify happen)

/-- A request for a window. `inCall` says that it was issued since the call began. -/
structure WindowRequest where
  width : UInt16
  height : UInt16
  inCall : Bool
  deriving DecidableEq, Repr

/--
The firmware. `queue` has been issued and is not processed yet, and `current` is accepted and not
applied yet. The lists `settledWindows` and `rejections` record what has happened since the call
began: the windows that were requested and applied at once, and the requests that were rejected.
-/
structure GeometryCard where
  capabilities : UInt16
  dedicated : Bool
  key : UInt16
  user1 : UInt16
  user2 : UInt16
  stagedWidth : Option UInt16
  queue : List WindowRequest
  current : Option WindowRequest
  requestedWidth : UInt16
  requestedHeight : UInt16
  appliedWidth : UInt16
  appliedHeight : UInt16
  accepted : Nat
  appliedAt : Nat
  appliedValid : Bool
  rejected : Bool
  settledWindows : List (UInt16 × UInt16)
  rejections : List WindowRequest
  deriving DecidableEq, Repr

/-- What happens between two accesses of the call. -/
inductive GeometryEvent where
  /-- Another task issues a request. -/
  | issue (width height : UInt16)
  | accept (keepValid : Bool)
  /-- A request is rejected before it gets a number. -/
  | reject
  | apply (width height : UInt16)
  /-- A request that has a number is rejected. -/
  | refuse
  deriving DecidableEq, Repr

namespace GeometryCard

def requestSerial (s : GeometryCard) : UInt16 := UInt16.ofNat s.accepted

def appliedSerial (s : GeometryCard) : UInt16 := UInt16.ofNat s.appliedAt

def status (s : GeometryCard) : UInt16 :=
  (if s.appliedValid then geometryAppliedValid else 0)
    ||| (if s.current.isSome then geometryPending else 0)
    ||| (if s.rejected then geometryRejected else 0)

/-- The answer to a query, none if the firmware does not know the key. -/
def value (key : UInt16) (s : GeometryCard) : Option UInt16 :=
  if key = cfgKeyRequestWidth then some s.requestedWidth
  else if key = cfgKeyRequestHeight then some s.requestedHeight
  else if key = cfgKeyAppliedWidth then some s.appliedWidth
  else if key = cfgKeyAppliedHeight then some s.appliedHeight
  else if key = cfgKeyRequestSerial then some s.requestSerial
  else if key = cfgKeyAppliedSerial then some s.appliedSerial
  else if key = cfgKeyGeometryStatus then some s.status
  else if key = cfgKeyGeometryRegs ∧ s.dedicated = true then some cfgGeometryRegsAbi
  else none

def register (offset : UInt32) (s : GeometryCard) : UInt16 :=
  if offset = regFwCapabilities then s.capabilities
  else if offset = regConfigKey then (s.value s.key).getD 0
  else if offset = regConfigKey + 2 then if (s.value s.key).isSome then 1 else 0
  else 0

def push (width height : UInt16) (s : GeometryCard) : GeometryCard :=
  { s with queue := s.queue ++ [{ width, height, inCall := true }] }

def write (offset : UInt32) (value : UInt16) (s : GeometryCard) : GeometryCard :=
  if offset = regConfigKey then
    { s with key := value }
  else if offset = regUser2 then
    { s with user2 := value }
  else if offset = regUser1 then
    { s with user1 := value }
  else if offset = regSetFeature ∧ s.user1 = cardFeatureVideocapGeometry then
    s.push s.user2 value
  else if offset = regVcapGeometryWidth ∧ s.dedicated = true then
    { s with stagedWidth := some value }
  else if offset = regVcapGeometryCommit ∧ s.dedicated = true then
    -- a staged width serves one commit
    match s.stagedWidth with
    | some width => { s.push width value with stagedWidth := none }
    | none => s
  else
    s

def event (s : GeometryCard) (e : GeometryEvent) : GeometryCard :=
  match e with
  | .issue width height => s.push width height
  | .accept keepValid =>
    match s.queue with
    | [] => s
    | r :: rest =>
      {
        s with
        queue := rest
        current := some r
        requestedWidth := r.width
        requestedHeight := r.height
        accepted := s.accepted + 1
        appliedValid := s.appliedValid && keepValid
        rejected := false
      }
  | .reject =>
    match s.queue with
    | [] => s
    | r :: rest => { s with queue := rest, rejected := true, rejections := s.rejections ++ [r] }
  | .apply width height =>
    match s.current with
    | none => s
    | some _ =>
      {
        s with
        current := none
        appliedWidth := width
        appliedHeight := height
        appliedAt := s.accepted
        appliedValid := true
        settledWindows := s.settledWindows ++ [(s.requestedWidth, s.requestedHeight)]
      }
  | .refuse =>
    match s.current with
    | none => s
    | some r => { s with current := none, rejected := true, rejections := s.rejections ++ [r] }

/-- The window that was requested last is applied. -/
def Settled (s : GeometryCard) : Prop :=
  s.current = none ∧ s.appliedValid = true ∧ s.appliedAt = s.accepted

instance (s : GeometryCard) : Decidable s.Settled :=
  inferInstanceAs (Decidable (_ ∧ _))

/-- What the firmware has to say when it is idle: what it processed last is applied or rejected. -/
def Sound (s : GeometryCard) : Prop :=
  s.current = none → s.rejected = false → s.appliedValid = true → s.appliedAt = s.accepted

def earlier (r : WindowRequest) : WindowRequest := { r with inCall := false }

/-- The call begins, and nothing has been issued in it. -/
def begin (s : GeometryCard) : GeometryCard :=
  {
    s with
    queue := s.queue.map earlier
    current := s.current.map earlier
    settledWindows := if s.Settled then [(s.requestedWidth, s.requestedHeight)] else []
    rejections := []
  }

/-- All that was requested is processed, and the last request was not rejected. -/
def Idle (s : GeometryCard) : Prop := s.queue = [] ∧ s.current = none ∧ s.rejected = false

end GeometryCard

structure GeometryAnswer where
  events : List GeometryEvent
  running : Bool
  deriving DecidableEq, Repr

abbrev Requesting := Coroutine GeometryCard Empty Empty GeometryAnswer

def elapseGeometry : Requesting GeometryAnswer :=
  happen GeometryCard.event GeometryAnswer.events

def geometryIo : VcapIo Requesting where
  read16 offset := do
    let _ ← elapseGeometry
    return (← read).register offset
  write16 offset value := do
    let _ ← elapseGeometry
    modify (GeometryCard.write offset value)
  delay := do
    let _ ← elapseGeometry
  keepRunning := do
    let r ← elapseGeometry
    return r.running

/-- `zz_vcap_geometry_apply` -/
def zzVcapGeometryApply (width height : UInt16) (restoring : Bool) : Requesting VcapResult :=
  geometryIo.geometryApply width height restoring

end ZZVcap
