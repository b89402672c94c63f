import ZZ9000.Config.Settings
import ZZ9000.Vcap.Capture
import ZZ9000.Vcap.Geometry
import ZZ9000.ZZTop.Align

/-!
This module contains the registers that `video.c` works on: the live crop, the phase engine and the
capture window, which it shares with nobody. Before each read the hardware may do what it has been
asked for.
-/

namespace ZZTop

open ZZVcap

def vcapLiveCapability : UInt32 := 0x1400
def vcapLiveCapabilityValue : UInt32 := 0x564c010f
def vcapLiveMinFw : UInt16 := 0x0208
def fwCapVideocapLive : UInt16 := 2

/-- The phase engine. `status` is the lower half of its status; the upper one is 0. -/
structure PhaseCard where
  capability : UInt32
  clockRaw : UInt32
  target : UInt16
  status : UInt16
  deriving DecidableEq, Repr

namespace PhaseCard

def domain (card : PhaseCard) : VcapPhaseDomain := vcapPhaseDomain card.capability

def state (card : PhaseCard) : VcapPhaseState :=
  vcapPhaseState card.domain card.clockRaw (vcapWord 0 card.status)

/-- The engine becomes busy with the request. -/
def commit (card : PhaseCard) : PhaseCard :=
  { card with status := card.status ||| (1 <<< UInt16.ofNat (vcapPhaseBits card.domain)) }

/-- An engine that is not busy leaves the phase as it is. -/
def advance (status : UInt16) (card : PhaseCard) : PhaseCard :=
  let next := { card with status }
  if card.state.busy then next
  else if !next.state.busy && next.state.applied == card.state.applied then next
  else card

end PhaseCard

/--
The capture window. `window` is the request that has been applied last; a dimension of 0 in it is
automatic.
-/
structure GeometryCard where
  present : Bool
  regsAbi : UInt16
  key : UInt16
  stagedWidth : UInt16
  feature : UInt16
  regWidth : UInt16
  regStaged : Bool
  state : VcapGeometryState
  window : UInt16 × UInt16
  deriving DecidableEq, Repr

namespace GeometryCard

/-- What a key of the configuration says about the capture window. -/
def stateValue (state : VcapGeometryState) (key : UInt16) : UInt16 :=
  if key = cfgKeyRequestWidth then state.requestedWidth
  else if key = cfgKeyRequestHeight then state.requestedHeight
  else if key = cfgKeyAppliedWidth then state.appliedWidth
  else if key = cfgKeyAppliedHeight then state.appliedHeight
  else if key = cfgKeyRequestSerial then state.requestSerial
  else if key = cfgKeyAppliedSerial then state.appliedSerial
  else if key = cfgKeyGeometryStatus then state.status
  else 0

def value (card : GeometryCard) : UInt16 :=
  if card.key = cfgKeyGeometryRegs then card.regsAbi else stateValue card.state card.key

def keyPresent (card : GeometryCard) : Bool :=
  if card.key = cfgKeyGeometryRegs then card.regsAbi != 0 else card.present

def accept (width height : UInt16) (card : GeometryCard) : GeometryCard :=
  { card with
    state := { card.state with
      requestedWidth := width
      requestedHeight := height
      requestSerial := card.state.requestSerial + 1
      status := geometryPending } }

/-- A commit without a width is rejected. -/
def commit (height : UInt16) (card : GeometryCard) : GeometryCard :=
  if card.regStaged then
    { card.accept card.regWidth height with regStaged := false }
  else
    { card with
      state := { card.state with status := card.state.status ||| geometryRejected } }

def write (offset : UInt32) (value : UInt16) (card : GeometryCard) : GeometryCard :=
  if offset = regConfigKey then
    { card with key := value }
  else if offset = regUser2 then
    { card with stagedWidth := value }
  else if offset = regUser1 then
    { card with feature := value }
  else if offset = regSetFeature ∧ card.feature = cardFeatureVideocapGeometry then
    card.accept card.stagedWidth value
  else if offset = regVcapGeometryWidth ∧ card.regsAbi ≠ 0 then
    { card with regWidth := value, regStaged := true }
  else if offset = regVcapGeometryCommit ∧ card.regsAbi ≠ 0 then
    card.commit value
  else
    card

/-- The request on its way is applied, and the window becomes as large. -/
def apply (width height : UInt16) (card : GeometryCard) : GeometryCard :=
  if card.state.pending then
    { card with
      state := { card.state with
        appliedWidth := width
        appliedHeight := height
        appliedSerial := card.state.requestSerial
        status := geometryAppliedValid }
      window := (card.state.requestedWidth, card.state.requestedHeight) }
  else
    card

def reject (card : GeometryCard) : GeometryCard :=
  if card.state.pending then
    { card with state := { card.state with status := geometryRejected } }
  else
    card

end GeometryCard

/-- What the hardware does on its own. -/
inductive VideoEvent where
  | cropApply (effectiveCrop : UInt32)
  | cropReject
  | signal (standardValid ntsc appliedValid replaces : Bool)
  | phase (status : UInt16)
  | clock (raw : UInt32)
  | windowApply (width height : UInt16)
  | windowReject
  | present (present : Bool)
  deriving DecidableEq, Repr

structure VideoCard where
  fwVersion : UInt16
  fwCaps : UInt16
  liveCapability : UInt32
  metadataCap : UInt32
  crop : LiveCard
  phase : PhaseCard
  geometry : GeometryCard
  deriving DecidableEq, Repr

namespace VideoCard

def event (card : VideoCard) (e : VideoEvent) : VideoCard :=
  match e with
  | .cropApply effectiveCrop => { card with crop := card.crop.event (.apply effectiveCrop) }
  | .cropReject => { card with crop := card.crop.event .reject }
  | .signal standardValid ntsc appliedValid replaces =>
    { card with crop := card.crop.event (.signal standardValid ntsc appliedValid replaces) }
  | .phase status => { card with phase := card.phase.advance status }
  | .clock raw => { card with phase := { card.phase with clockRaw := raw } }
  | .windowApply width height => { card with geometry := card.geometry.apply width height }
  | .windowReject => { card with geometry := card.geometry.reject }
  | .present present => { card with geometry := { card.geometry with present } }

def events (es : List VideoEvent) (card : VideoCard) : VideoCard := es.foldl event card

/-- A half of a register of 32 bits. -/
def half (offset reg raw : UInt32) : Option UInt16 :=
  if offset = reg then some (raw >>> 16).toUInt16
  else if offset = reg + 2 then some raw.toUInt16
  else none

def register (card : VideoCard) (offset : UInt32) : UInt16 :=
  if offset = regFwCapabilities then
    card.fwCaps
  else if offset = regConfigKey then
    card.geometry.value
  else if offset = regConfigKey + 2 then
    if card.geometry.keyPresent then 1 else 0
  else
    ((half offset vcapLiveCapability card.liveCapability).or
      ((half offset captureMetadataCapReg card.metadataCap).or
        ((half offset captureCapReg card.phase.capability).or
          ((half offset captureClockStatusReg card.phase.clockRaw).or
            (half offset capturePhaseStatusReg (vcapWord 0 card.phase.status)))))).getD
      (card.crop.register offset)

/-- The registers of the capture window. -/
def geometryRegs : List UInt32 :=
  [regConfigKey, regUser2, regUser1, regSetFeature, regVcapGeometryWidth, regVcapGeometryCommit]

def write (offset : UInt32) (value : UInt16) (card : VideoCard) : VideoCard :=
  if offset = capturePhaseTargetReg then
    { card with phase := { card.phase with target := value } }
  else if offset = capturePhaseCommitReg then
    if value = capturePhaseToken then { card with phase := card.phase.commit } else card
  else if offset ∈ geometryRegs then
    { card with geometry := card.geometry.write offset value }
  else
    { card with crop := card.crop.write offset value }

end VideoCard

end ZZTop
