import ZZ9000.Vcap.Phase

/-!
This module contains the client of the capture window of `zz_vcap_geometry.c`. The lock around the
writes of one request is left out, as there is no other writer in between that the client could
tell from one before or after.
-/

namespace ZZVcap

def regUser1 : UInt32 := 0x40
def regUser2 : UInt32 := 0x42
def regSetFeature : UInt32 := 0x60
def regVcapGeometryWidth : UInt32 := 0xa8
def regVcapGeometryCommit : UInt32 := 0xaa
def regFwCapabilities : UInt32 := 0xe6
def regConfigKey : UInt32 := 0xe8
def cardFeatureVideocapGeometry : UInt16 := 5
def fwCapVideocapGeometry : UInt16 := 0x100
def fwCapVideocapGeometryAck : UInt16 := 0x400
def cfgKeyRequestWidth : UInt16 := 28
def cfgKeyRequestHeight : UInt16 := 29
def cfgKeyAppliedWidth : UInt16 := 30
def cfgKeyAppliedHeight : UInt16 := 31
def cfgKeyRequestSerial : UInt16 := 32
def cfgKeyAppliedSerial : UInt16 := 33
def cfgKeyGeometryStatus : UInt16 := 34
def cfgKeyGeometryRegs : UInt16 := 36
def cfgGeometryRegsAbi : UInt16 := 1
def geometryAppliedValid : UInt16 := 1
def geometryPending : UInt16 := 2
def geometryRejected : UInt16 := 4
def geometryWaitTicks : Nat := 150
def geometryAttempts : Nat := 8

/-- `struct zz_vcap_geometry_state` -/
structure VcapGeometryState where
  requestedWidth : UInt16
  requestedHeight : UInt16
  appliedWidth : UInt16
  appliedHeight : UInt16
  requestSerial : UInt16
  appliedSerial : UInt16
  status : UInt16
  deriving DecidableEq, Repr

namespace VcapGeometryState

def appliedValid (state : VcapGeometryState) : Bool := state.status &&& geometryAppliedValid != 0
def pending (state : VcapGeometryState) : Bool := state.status &&& geometryPending != 0
def rejected (state : VcapGeometryState) : Bool := state.status &&& geometryRejected != 0

/-- What was requested last has been applied. -/
def settled (state : VcapGeometryState) : Bool :=
  state.appliedValid && !state.pending && state.requestSerial == state.appliedSerial

def requests (width height : UInt16) (state : VcapGeometryState) : Bool :=
  state.requestedWidth == width && state.requestedHeight == height

/-- What `zz_vcap_geometry_check` says about the state that it has read. -/
def check (width height : UInt16) (state : VcapGeometryState) : VcapResult :=
  if state.rejected then .rejected
  else if !state.settled then .busy
  else if state.requests width height then .ok
  else .stateChanged

/-- What the loop of `zz_vcap_geometry_apply` says about a state, if it says anything yet. -/
def outcome (width height serial expected : UInt16) (state : VcapGeometryState)
    : Option VcapResult :=
  if state.rejected then
    some .rejected
  else if state.requestSerial != serial && state.requestSerial != expected then
    some .stateChanged
  else if state.requestSerial == expected && state.appliedSerial == expected && state.appliedValid
      && !state.pending then
    some (if state.requests width height then .ok else .stateChanged)
  else
    none

end VcapGeometryState

def geometryValid (width height : UInt16) : Bool :=
  (width == 0 || (256 ≤ width && width ≤ 1280 && width &&& 15 == 0))
    && (height == 0 || (100 ≤ height && height ≤ 1024))

namespace VcapIo

variable {m : Type → Type} [Monad m] (io : VcapIo m)

def geometrySupported : m Bool := do
  let required := fwCapVideocapGeometry ||| fwCapVideocapGeometryAck
  let capabilities ← io.read16 regFwCapabilities
  return capabilities &&& required == required

def query (key : UInt16) : m (Option UInt16) := do
  io.write16 regConfigKey key
  let raw ← io.read32 regConfigKey
  return if raw.toUInt16 = 1 then some (raw >>> 16).toUInt16 else none

def queries (keys : List UInt16) : m (Option (List UInt16)) :=
  match keys with
  | [] => return some []
  | key :: keys => do
    match ← io.query key with
    | none => return none
    | some value =>
      let values ← queries keys
      return values.map (value :: ·)

def dedicatedRegisters : m Bool := do
  let abi ← io.query cfgKeyGeometryRegs
  return abi == some cfgGeometryRegsAbi

def writeRequest (registers : Bool) (width height : UInt16) : m Unit :=
  if registers then do
    io.write16 regVcapGeometryWidth width
    io.write16 regVcapGeometryCommit height
  else do
    io.write16 regUser2 width
    io.write16 regUser1 cardFeatureVideocapGeometry
    io.write16 regSetFeature height

/-- The queries of an attempt in their order: the serials and the status are asked for twice. -/
def geometryKeys : List UInt16 :=
  [cfgKeyRequestSerial, cfgKeyAppliedSerial, cfgKeyGeometryStatus, cfgKeyRequestWidth,
    cfgKeyRequestHeight, cfgKeyAppliedWidth, cfgKeyAppliedHeight, cfgKeyRequestSerial,
    cfgKeyAppliedSerial, cfgKeyGeometryStatus]

/-- The state that was read, if it has not changed meanwhile. -/
def geometryOf (values : List UInt16) : Option VcapGeometryState :=
  match values with
  | [requestBefore, appliedBefore, statusBefore, requestedWidth, requestedHeight, appliedWidth,
      appliedHeight, requestSerial, appliedSerial, status] =>
    if requestBefore = requestSerial ∧ appliedBefore = appliedSerial ∧ statusBefore = status then
      some {
        requestedWidth := requestedWidth
        requestedHeight
        appliedWidth
        appliedHeight
        requestSerial
        appliedSerial
        status
      }
    else
      none
  | _ => none

/-- The attempts of `zz_vcap_geometry_read`. -/
def geometryAttempt (n : Nat) : m (Except VcapResult VcapGeometryState) :=
  match n with
  | 0 => return .error .unstable
  | n + 1 => do
    match ← io.queries geometryKeys with
    | none => return .error .unsupported
    | some values =>
      match geometryOf values with
      | none => geometryAttempt n
      | some state => return .ok state

def geometryRead : m (Except VcapResult VcapGeometryState) := do
  if ← io.geometrySupported then
    io.geometryAttempt geometryAttempts
  else
    return .error .unsupported

def geometryCheck (width height : UInt16) : m VcapResult := do
  match ← io.geometryRead with
  | .error result => return result
  | .ok state => return state.check width height

/-- The loop of `zz_vcap_geometry_apply`. -/
def geometryWait (width height serial expected : UInt16) (restoring : Bool) (ticks : Nat)
    : m VcapResult :=
  match ticks with
  | 0 => return .timeout
  | ticks + 1 => do
    if ← io.keepRunningOr restoring then
      match ← io.geometryRead with
      | .error result => return result
      | .ok state =>
        match state.outcome width height serial expected with
        | some result => return result
        | none =>
          io.delay
          geometryWait width height serial expected restoring ticks
    else
      return .cancelled

/-- The request of `zz_vcap_geometry_apply` after the state `before`. -/
def geometryRequest (width height : UInt16) (restoring : Bool) (before : VcapGeometryState)
    : m VcapResult := do
  if before.settled && !before.rejected && before.requests width height then
    return .ok
  else
    io.writeRequest (← io.dedicatedRegisters) width height
    io.geometryWait width height before.requestSerial (before.requestSerial + 1) restoring
      geometryWaitTicks

def geometryApply (width height : UInt16) (restoring : Bool) : m VcapResult := do
  if geometryValid width height then
    match ← io.geometryRead with
    | .error result => return result
    | .ok before =>
      if ← io.keepRunningOr restoring then
        io.geometryRequest width height restoring before
      else
        return .cancelled
  else
    return .invalid

end VcapIo

end ZZVcap
