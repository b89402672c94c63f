import Mathlib.Data.UInt

/-!
This module contains the state model for the acknowledged native-video calibration of
`zz_vcap_live.c`: the control word, the status word, and what the arrow keys do to a crop.
-/

namespace ZZVcap

def vcapCropMax : UInt16 := 4095
def vcapCropHCompat : UInt32 := 188
def vcapCropVCompat : UInt32 := 26
def vcapCropHAutoFlag : UInt32 := 0x10000000
def vcapCropVAutoFlag : UInt32 := 0x20000000
def vcapStatusStandardValid : UInt32 := 0x8000
def vcapStatusNtsc : UInt32 := 0x4000
def vcapStatusRejected : UInt32 := 0x2000
def vcapStatusAppliedValid : UInt32 := 2
def vcapStatusBusy : UInt32 := 1

inductive VcapMove where
  | left
  | right
  | up
  | down
  deriving DecidableEq, Repr

inductive VcapRequestResult where
  | conflict
  | pending
  | applied
  deriving DecidableEq, Repr

/-- `struct zz_vcap_control` -/
structure VcapControl where
  sample : UInt16
  fullWidth : UInt16
  cropH : UInt16
  cropV : UInt16
  cropHPresent : UInt16
  cropVPresent : UInt16
  deriving DecidableEq, Repr

/-- `struct zz_vcap_status` -/
structure VcapStatus where
  requestSequence : UInt8
  appliedSequence : UInt8
  standardValid : Bool
  ntsc : Bool
  rejected : Bool
  appliedValid : Bool
  busy : Bool
  deriving DecidableEq, Repr

/-- `struct zz_vcap_path` -/
structure VcapPath where
  sample : UInt16
  fullWidth : UInt16
  deriving DecidableEq, Repr

/-- `struct zz_vcap_working` -/
structure VcapWorking where
  control : VcapControl
  cropH : UInt16
  cropV : UInt16
  deriving DecidableEq, Repr

/-- `struct zz_vcap_snapshot` -/
structure VcapSnapshot where
  status : UInt32
  raw : UInt32
  effectiveH : UInt16
  effectiveV : UInt16
  deriving DecidableEq, Repr

/-- Two 16-bit reads as `zz_vcap_read32` joins them. -/
def vcapWord (high low : UInt16) : UInt32 := (high.toUInt32 <<< 16) ||| low.toUInt32

def VcapControl.valid (control : VcapControl) : Bool :=
  control.sample ≤ 2 && control.fullWidth ≤ 1 && control.cropH ≤ vcapCropMax
    && control.cropV ≤ vcapCropMax && control.cropHPresent ≤ 1 && control.cropVPresent ≤ 1

def vcapControlPack (control : VcapControl) : UInt32 :=
  if control.valid then
    let cropH := if control.cropHPresent ≠ 0 then control.cropH.toUInt32 else vcapCropHCompat
    let cropV := if control.cropVPresent ≠ 0 then control.cropV.toUInt32 else vcapCropVCompat
    let raw := (cropV <<< 16) ||| (cropH <<< 4) ||| (control.fullWidth.toUInt32 <<< 2)
      ||| control.sample.toUInt32
    let raw := if control.cropHPresent = 0 then raw ||| vcapCropHAutoFlag else raw
    if control.cropVPresent = 0 then raw ||| vcapCropVAutoFlag else raw
  else
    0

def vcapControlUnpack (raw : UInt32) : Option VcapControl :=
  if raw &&& 0xc0000000 ≠ 0 ∨ raw &&& 3 > 2 then
    none
  else
    some {
      sample := (raw &&& 3).toUInt16
      fullWidth := ((raw >>> 2) &&& 1).toUInt16
      cropH := ((raw >>> 4) &&& 0x0fff).toUInt16
      cropV := ((raw >>> 16) &&& 0x0fff).toUInt16
      cropHPresent := if raw &&& vcapCropHAutoFlag = 0 then 1 else 0
      cropVPresent := if raw &&& vcapCropVAutoFlag = 0 then 1 else 0
    }

/-- `zz_vcap_effective_unpack`: the horizontal and the vertical crop. -/
def vcapEffectiveUnpack (raw : UInt32) : UInt16 × UInt16 :=
  ((raw &&& 0x0fff).toUInt16, ((raw >>> 16) &&& 0x0fff).toUInt16)

def vcapStatusUnpack (raw : UInt32) : VcapStatus where
  requestSequence := ((raw >>> 24) &&& 0xff).toUInt8
  appliedSequence := ((raw >>> 16) &&& 0xff).toUInt8
  standardValid := raw &&& vcapStatusStandardValid != 0
  ntsc := raw &&& vcapStatusNtsc != 0
  rejected := raw &&& vcapStatusRejected != 0
  appliedValid := raw &&& vcapStatusAppliedValid != 0
  busy := raw &&& vcapStatusBusy != 0

def vcapNextSequence (requestSequence : UInt8) : UInt8 := requestSequence + 1

/-- No request is on its way, and the applied control is one. -/
def VcapStatus.settled (status : VcapStatus) : Bool :=
  status.appliedValid && !status.busy && status.requestSequence == status.appliedSequence

-- Rejected is sticky and may describe a competing request, so it decides nothing.
def vcapRequestComplete (raw : UInt32) (expectedSequence : UInt8) : Bool :=
  let status := vcapStatusUnpack raw
  status.requestSequence == expectedSequence && status.appliedSequence == expectedSequence
    && status.appliedValid && !status.busy

def vcapRequestResult (status : UInt32) (expectedSequence : UInt8) (appliedRaw expectedRaw : UInt32)
    : VcapRequestResult :=
  if vcapRequestComplete status expectedSequence then
    if appliedRaw = expectedRaw then .applied else .conflict
  else
    .pending

def vcapSnapshotStatusValid (before after : UInt32) : Bool :=
  before == after && (vcapStatusUnpack before).settled

def vcapAddClamped (value amount : UInt16) : UInt16 :=
  if value ≥ vcapCropMax - amount then vcapCropMax else value + amount

def vcapSubClamped (value amount : UInt16) : UInt16 :=
  if value ≤ amount then 0 else value - amount

def vcapAccept (working : VcapWorking) : VcapWorking :=
  { working with
    control := { working.control with
      cropH := working.cropH
      cropV := working.cropV
      cropHPresent := 1
      cropVPresent := 1 } }

/-- `zz_vcap_adjust`, which gives nothing where it returns 0. -/
def vcapAdjust (working : VcapWorking) (move : VcapMove) (coarse : Bool) : Option VcapWorking :=
  if !working.control.valid || working.cropH > vcapCropMax || working.cropV > vcapCropMax then
    none
  else
    let amount := if coarse then 16 else 1
    let (cropH, cropV) :=
      match move with
      | .left => (vcapAddClamped working.cropH amount, working.cropV)
      | .right => (vcapSubClamped working.cropH amount, working.cropV)
      | .up => (working.cropH, vcapAddClamped working.cropV amount)
      | .down => (working.cropH, vcapSubClamped working.cropV amount)
    if cropH = working.cropH ∧ cropV = working.cropV then
      none
    else
      some (vcapAccept { working with cropH, cropV })

end ZZVcap
