import ZZ9000.Vcap.Client

/-!
This module contains the capture-phase part of `zz_vcap_client.c`: how the state of the phase engine
is read, and the acknowledged request for a phase.
-/

namespace ZZVcap

def captureCapReg : UInt32 := 0x1240
def captureCapE7m : UInt32 := 0x56510106
def captureCapC28 : UInt32 := 0x56510206
def capturePhaseTargetReg : UInt32 := 0x1246
def capturePhaseCommitReg : UInt32 := 0x1248
def capturePhaseToken : UInt16 := 0xf05a
def capturePhaseStatusReg : UInt32 := 0x124c
def captureClockStatusReg : UInt32 := 0x1250
def vcapPhaseWaitTicks : Nat := 250

inductive VcapResult where
  | ok
  | unsupported
  | invalid
  | clockUnqualified
  | busy
  | engineError
  | timeout
  | cancelled
  | stateChanged
  | unstable
  | rejected
  deriving DecidableEq, Repr

def vcapResultText (result : VcapResult) : String :=
  match result with
  | .ok => "ok"
  | .unsupported => "unsupported capture protocol"
  | .invalid => "invalid capture request"
  | .clockUnqualified => "capture clock is not qualified"
  | .busy => "capture controller is busy"
  | .engineError => "capture controller reported an error"
  | .timeout => "capture controller timed out"
  | .cancelled => "capture operation cancelled"
  | .stateChanged => "capture source state changed"
  | .unstable => "capture register read was unstable"
  | .rejected => "capture request was rejected"

inductive VcapPhaseDomain where
  | none
  | e7m
  | c28
  deriving DecidableEq, Repr

/-- `struct zz_vcap_phase_state` -/
structure VcapPhaseState where
  domain : VcapPhaseDomain
  applied : Int
  ready : Bool
  busy : Bool
  done : Bool
  error : Bool
  clockRaw : UInt32
  phaseRaw : UInt32
  deriving DecidableEq, Repr

def vcapPhaseDomain (phaseCapability : UInt32) : VcapPhaseDomain :=
  if phaseCapability = captureCapC28 then .c28
  else if phaseCapability = captureCapE7m then .e7m
  else .none

def vcapPhaseValid (phase : Int) (domain : VcapPhaseDomain) : Bool :=
  match domain with
  | .e7m => -255 ≤ phase && phase ≤ 255
  | .c28 => -896 ≤ phase && phase ≤ 895
  | .none => false

def vcapPhaseEncode (phase : Int) : UInt16 := (Int16.ofInt phase).toUInt16

def vcapClockQualified (domain : VcapPhaseDomain) (clocks : UInt32) : Bool :=
  if clocks &&& 8 ≠ 0 then false
  else if domain = .e7m then clocks &&& 4 != 0
  else clocks &&& 0x17 == 0x17

def vcapPhaseBits (domain : VcapPhaseDomain) : Nat := if domain = .e7m then 10 else 12

def vcapPhaseDecode (domain : VcapPhaseDomain) (raw : UInt32) : Int :=
  let bits := vcapPhaseBits domain
  let value := raw.toNat % 2 ^ bits
  if value.testBit (bits - 1) then (value : Int) - (2 ^ bits : Nat) else value

/-- `busy`, `done` and `error` are the bits above the phase, and `ready` is the one of C28. -/
def vcapPhaseState (domain : VcapPhaseDomain) (clockRaw phaseRaw : UInt32) : VcapPhaseState where
  domain := domain
  applied := vcapPhaseDecode domain phaseRaw
  ready := if domain = .c28 then phaseRaw.toNat.testBit 15 else true
  busy := phaseRaw.toNat.testBit (vcapPhaseBits domain)
  done := phaseRaw.toNat.testBit (vcapPhaseBits domain + 1)
  error := phaseRaw.toNat.testBit (vcapPhaseBits domain + 2)
  clockRaw := clockRaw
  phaseRaw := phaseRaw

namespace VcapPhaseState

def clockQualified (state : VcapPhaseState) : Bool := vcapClockQualified state.domain state.clockRaw

/-- The engine has done what was asked for. -/
def settledAt (target : Int) (state : VcapPhaseState) : Bool :=
  state.done && state.ready && !state.busy && !state.error && state.applied == target

/-- What `zz_vcap_phase_check` says about the state that it has read. -/
def check (target : Int) (state : VcapPhaseState) : VcapResult :=
  if !vcapPhaseValid target state.domain then .invalid
  else if !state.clockQualified then .clockUnqualified
  else if state.busy then .busy
  else if state.error then .engineError
  else if !state.done || !state.ready || state.applied != target then .stateChanged
  else .ok

end VcapPhaseState

namespace VcapIo

variable {m : Type → Type} [Monad m] (io : VcapIo m)

def keepRunningOr (restoring : Bool) : m Bool := if restoring then pure true else io.keepRunning

def phaseRead : m (Except VcapResult VcapPhaseState) := do
  let domain := vcapPhaseDomain (← io.read32 captureCapReg)
  if domain = .none then
    return .error .unsupported
  else
    let clockRaw ← io.read32 captureClockStatusReg
    let phaseRaw ← io.read32 capturePhaseStatusReg
    return .ok (vcapPhaseState domain clockRaw phaseRaw)

def phaseCheck (target : Int) : m VcapResult := do
  match ← io.phaseRead with
  | .error result => return result
  | .ok state => return state.check target

/-- The first loop of `zz_vcap_phase_apply`. -/
def phaseWaitIdle (restoring : Bool) (ticks : Nat) : m (Except VcapResult VcapPhaseState) :=
  match ticks with
  | 0 => return .error .timeout
  | ticks + 1 => do
    match ← io.phaseRead with
    | .error result => return .error result
    | .ok state =>
      if state.busy then
        if ← io.keepRunningOr restoring then
          io.delay
          phaseWaitIdle restoring ticks
        else
          return .error .cancelled
      else
        return .ok state

/-- The second loop of `zz_vcap_phase_apply`. -/
def phaseWaitDone (target : Int) (restoring : Bool) (ticks : Nat) : m VcapResult :=
  match ticks with
  | 0 => return .timeout
  | ticks + 1 => do
    match ← io.phaseRead with
    | .error result => return result
    | .ok state =>
      if state.settledAt target then
        return if state.clockQualified then .ok else .clockUnqualified
      else
        if ← io.keepRunningOr restoring then
          io.delay
          phaseWaitDone target restoring ticks
        else
          return .cancelled

/-- The request of `zz_vcap_phase_apply` from where the engine is not busy. -/
def phaseRequest (target : Int) (restoring : Bool) (state : VcapPhaseState) : m VcapResult := do
  if !state.clockQualified then
    return .clockUnqualified
  else if state.error && !restoring then
    return .engineError
  else
    io.write16 capturePhaseTargetReg (vcapPhaseEncode target)
    io.write16 capturePhaseCommitReg capturePhaseToken
    io.delay
    io.phaseWaitDone target restoring vcapPhaseWaitTicks

def phaseApply (target : Int) (restoring : Bool) : m VcapResult := do
  match ← io.phaseRead with
  | .error result => return result
  | .ok state =>
    if !vcapPhaseValid target state.domain then
      return .invalid
    else
      match ← io.phaseWaitIdle restoring vcapPhaseWaitTicks with
      | .error result => return result
      | .ok state => io.phaseRequest target restoring state

end VcapIo

end ZZVcap
