import ZZ9000.Vcap.Phase

/-!
This module contains `zz_vcap_capture`, which takes a frozen field from the card, and the measures of
`zz9000_capture_calibration.h` that are taken of it.
-/

namespace ZZVcap

def captureSnapshotReg : UInt32 := 0x1260
def captureArmReg : UInt32 := 0x1264
def captureArmToken : UInt16 := 0xca1c
def captureAddressReg : UInt32 := 0x126a
def captureDataReg : UInt32 := 0x126c
def captureGeometryReg : UInt32 := 0x1270
def captureMetadataCapReg : UInt32 := 0x1274
def captureMetadataCap : UInt32 := 0x564d010c
def captureMetadataAddrReg : UInt32 := 0x1278
def captureMetadataDataReg : UInt32 := 0x127c
def captureSnapshotValid : UInt32 := 1
def captureSnapshotBusy : UInt32 := 2
def captureSnapshotArm : UInt32 := 4
def captureSnapshotLace : UInt32 := 8
def captureSnapshotParity : UInt32 := 16
def captureSnapshotNtsc : UInt32 := 32
def captureColumns : Nat := 256
def captureRows : Nat := 4
def captureSamples : Nat := captureColumns * captureRows
def captureMetadataWords : Nat := captureRows * 3
def captureWaitTicks : Nat := 100
def capturePhaseSteps : Int := 1792
def capturePhaseMin : Int := -896
def capturePhaseMax : Int := 895
def captureBins : Nat := 64
def captureBinSteps : Nat := 28
def captureMinEye : Nat := 3

def capturePhaseValid (phase : Int) : Bool := capturePhaseMin ≤ phase && phase ≤ capturePhaseMax

/-- `zz_capture_phase_wrap`; the remainder is the truncating one. -/
def capturePhaseWrap (phase : Int) : Int :=
  let phase := phase.tmod capturePhaseSteps
  let phase := if phase < capturePhaseMin then phase + capturePhaseSteps else phase
  if phase > capturePhaseMax then phase - capturePhaseSteps else phase

def capturePhaseDistance (a b : Int) : Nat := (capturePhaseWrap (a - b)).natAbs

/-- `struct zz_capture_boundary` -/
structure CaptureBoundary where
  origin : Int
  good : Nat
  bad : Nat
  deriving DecidableEq, Repr

namespace CaptureBoundary

def pending (edge : CaptureBoundary) : Bool :=
  if edge.good > edge.bad then edge.good - edge.bad > 1 else edge.bad - edge.good > 1

def next (edge : CaptureBoundary) : Int :=
  capturePhaseWrap (edge.origin + ((edge.good + edge.bad) / 2 : Nat))

def record (clean : Bool) (edge : CaptureBoundary) : CaptureBoundary :=
  let middle := (edge.good + edge.bad) / 2
  if clean then { edge with good := middle } else { edge with bad := middle }

end CaptureBoundary

/-- `struct zz_capture_eye` -/
structure CaptureEye where
  startBin : Nat
  bins : Nat
  phase : Int
  margin : Nat
  fullCircle : Bool
  deriving DecidableEq, Repr

/-- The number of clean bins from the bin on, `n` at most. -/
def cleanLength (clean : Nat → Bool) (bin n : Nat) : Nat :=
  match n with
  | 0 => 0
  | n + 1 => if clean (bin % captureBins) then cleanLength clean (bin + 1) n + 1 else 0

/-- The eye that begins in the bin `i`. -/
def captureEyeAt (clean : Nat → Bool) (i : Nat) : CaptureEye :=
  let length := cleanLength clean i captureBins
  let margin := (length - 1) * captureBinSteps / 2
  {
    startBin := i
    bins := length
    phase := capturePhaseWrap (capturePhaseMin + (i * captureBinSteps + margin : Nat))
    margin
    fullCircle := false
  }

/-- The choice of `zz_capture_select_eye` between what was best so far and the bin `i`. -/
def captureBetterEye (clean : Nat → Bool) (entryPhase : Int) (best : Option CaptureEye) (i : Nat)
    : Option CaptureEye :=
  if !clean i || clean ((i + captureBins - 1) % captureBins) then
    best
  else
    let eye := captureEyeAt clean i
    if eye.bins < captureMinEye then
      best
    else
      match best with
      | none => some eye
      | some found =>
        if eye.bins < found.bins || (eye.bins == found.bins
            && capturePhaseDistance eye.phase entryPhase
              ≥ capturePhaseDistance found.phase entryPhase) then
          some found
        else
          some eye

def captureSelectEye (clean : Nat → Bool) (entryPhase : Int) : Option CaptureEye :=
  if (List.range captureBins).all clean then
    some {
      startBin := 0
      bins := captureBins
      phase := capturePhaseWrap entryPhase
      margin := capturePhaseSteps.toNat / 2
      fullCircle := true
    }
  else
    (List.range captureBins).foldl (captureBetterEye clean entryPhase) none

def capturePatternRgb (pen : Nat) : UInt32 :=
  let r := (pen * 197 + 101) % 256
  let g := ((r <<< 3 ||| r >>> 5) % 256) ^^^ 0x5a
  let b := ((r <<< 5 ||| r >>> 3) % 256) ^^^ 0xa5
  (r <<< 16 ||| g <<< 8 ||| b).toUInt32

/-- `zz_capture_pattern_errors` -/
def capturePatternErrors (samples : List UInt32) : Nat :=
  match (List.range 256).find? fun origin => samples.getD 0 0 == capturePatternRgb origin with
  | none => captureSamples
  | some origin =>
    (List.range captureSamples).countP fun i =>
      samples.getD i 0 != capturePatternRgb (origin + i % captureColumns)

/-- `zz_capture_changed_pixels` -/
def captureChangedPixels (a b : List UInt32) : Nat :=
  (List.range captureSamples).countP fun i => a.getD i 0 != b.getD i 0

/-- `struct zz_vcap_capture_context` -/
structure VcapCaptureContext where
  phase : Int
  requirePhase : Bool
  ntsc : Bool
  lace : Bool
  haveGeometry : Bool
  geometry : UInt32
  deriving DecidableEq, Repr

/-- `struct zz_vcap_capture_data` -/
structure VcapCaptureData where
  status : UInt32
  geometry : UInt32
  pixels : List UInt32
  metadata : List UInt32
  deriving DecidableEq, Repr

/-- A frame newer than `before` has been frozen. -/
def captureFrozen (before status : UInt32) : Bool :=
  status &&& (captureSnapshotValid ||| captureSnapshotBusy) == captureSnapshotValid
    && (status ^^^ before) &&& captureSnapshotArm != 0
    && (before &&& captureSnapshotValid == 0 || status >>> 16 != before >>> 16)

namespace VcapIo

variable {m : Type → Type} [Monad m] (io : VcapIo m)

/-- Go on if the result is `ZZ_VCAP_OK`. -/
def proceed (c : m VcapResult) : ExceptT VcapResult m Unit := do
  let result ← ExceptT.lift c
  if result = .ok then return () else throw result

def refuse (failed : Bool) (result : VcapResult) : ExceptT VcapResult m Unit :=
  if failed then throw result else return ()

def stable (offset : UInt32) : ExceptT VcapResult m UInt32 := do
  match ← ExceptT.lift (io.readStable offset) with
  | none => throw .unstable
  | some value => return value

def captureCapability : ExceptT VcapResult m VcapPhaseDomain := do
  let domain := vcapPhaseDomain (← ExceptT.lift (io.read32 captureCapReg))
  refuse (domain == .none) .unsupported
  let metadataCap ← ExceptT.lift (io.read32 captureMetadataCapReg)
  refuse (metadataCap != captureMetadataCap) .unsupported
  return domain

def requirePhase (context : VcapCaptureContext) : ExceptT VcapResult m Unit :=
  if context.requirePhase then proceed (io.phaseCheck context.phase) else return ()

/-- The loop of `zz_vcap_capture`, which ends with the status of the new frame. -/
def captureAwait (context : VcapCaptureContext) (before : UInt32) (ticks : Nat)
    : ExceptT VcapResult m UInt32 :=
  match ticks with
  | 0 => throw .timeout
  | ticks + 1 => do
    let running ← ExceptT.lift io.keepRunning
    refuse (!running) .cancelled
    io.requirePhase context
    let status ← io.stable captureSnapshotReg
    if captureFrozen before status then
      return status
    else
      ExceptT.lift io.delay
      captureAwait context before ticks

/-- The words of a frozen block that begins at the index `i`. -/
def captureBlock (addressReg dataReg : UInt32) (i n : Nat) : m (List UInt32) :=
  match n with
  | 0 => return []
  | n + 1 => do
    io.write16 addressReg (UInt16.ofNat i)
    let word ← io.read32 dataReg
    let words ← captureBlock addressReg dataReg (i + 1) n
    return word :: words

/-- The pixels are always asked for; `metadata` says whether the metadata are. -/
def captureData (status geometry : UInt32) (metadata : Bool) : m VcapCaptureData := do
  let pixels ← io.captureBlock captureAddressReg captureDataReg 0 captureSamples
  let words ← io.captureBlock captureMetadataAddrReg captureMetadataDataReg 0
    (if metadata then captureMetadataWords else 0)
  return { status, geometry, pixels, metadata := words }

/-- `zz_vcap_capture` -/
def capture (context : VcapCaptureContext) (metadata : Bool)
    : ExceptT VcapResult m VcapCaptureData := do
  let domain ← io.captureCapability
  refuse (context.requirePhase && !vcapPhaseValid context.phase domain) .invalid
  io.requirePhase context
  let before ← io.stable captureSnapshotReg
  refuse (before &&& captureSnapshotBusy != 0) .busy
  ExceptT.lift (io.write16 captureArmReg captureArmToken)
  let status ← io.captureAwait context before captureWaitTicks
  let geometry ← ExceptT.lift (io.read32 captureGeometryReg)
  refuse (context.requirePhase && ((status &&& captureSnapshotNtsc != 0) != context.ntsc
    || (status &&& captureSnapshotLace != 0) != context.lace)) .stateChanged
  refuse (context.haveGeometry && geometry != context.geometry) .stateChanged
  let data ← ExceptT.lift (io.captureData status geometry metadata)
  let after ← io.stable captureSnapshotReg
  io.requirePhase context
  refuse (after != status) .stateChanged
  let geometryAfter ← ExceptT.lift (io.read32 captureGeometryReg)
  refuse (geometryAfter != geometry) .stateChanged
  return data

end VcapIo

end ZZVcap
