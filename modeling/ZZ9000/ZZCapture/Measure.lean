import ZZ9000.Vcap.Capture

/-!
This module contains `measure_phase` of ZZCapture, which compares fields of the same parity until it
has seen enough of them.
-/

namespace ZZCapture

open ZZVcap

def sweepComparisons : UInt32 := 10
def retestComparisons : UInt32 := 50

/-- `struct score` -/
structure Score where
  wrong : UInt32
  changed : UInt32
  deriving DecidableEq, Repr

/-- `coverage`; the parities are `false` and `true`. -/
structure Coverage where
  phase : Int
  samples : Bool → UInt32
  comparisons : Bool → UInt32
  cadenceWaits : UInt32
  firstSequence : UInt32
  lastSequence : UInt32
  minStep : UInt32
  maxStep : UInt32

/-- What `first_failure` keeps of a capture, without the registers that are read on that occasion. -/
structure FailedCapture where
  failed : VcapCaptureData
  reference : Option VcapCaptureData
  phase : Int
  capturedMeasurement : UInt32
  sample : UInt32
  parity : Bool
  wrong : UInt32
  changed : UInt32
  deriving DecidableEq, Repr

/-- `first_failure` -/
structure FirstFailure where
  enabled : Bool
  measurement : UInt32
  found : Option FailedCapture
  deriving DecidableEq, Repr

/--
The variables of the loop of `measure_phase`. `captured` counts the capture at hand as well.
`compared` are the captures that were compared, each with the one that it was compared with.
-/
structure PhaseMeasure where
  captured : UInt32
  previous : Bool → Option VcapCaptureData
  lastSample : Bool → UInt32
  lastParity : Option Bool
  coverage : Coverage
  score : Score
  firstFailure : FirstFailure
  compared : List (VcapCaptureData × VcapCaptureData)

/-- How `measure_phase` ends. It succeeds if it is complete. -/
inductive PhaseOutcome where
  | notApplied
  | interrupted
  | complete (s : PhaseMeasure)
  | starved (s : PhaseMeasure)
  | exhausted (s : PhaseMeasure)

/-- The captures within which each needed parity has to arrive. -/
def fieldLimit (count : UInt32) : UInt32 := 6 * (count + 1)

def totalLimit (lace : Bool) (count : UInt32) : UInt32 :=
  fieldLimit count * (if lace then count + 1 else 1)

def parityOf (lace : Bool) (data : VcapCaptureData) : Bool :=
  lace && data.status &&& captureSnapshotParity != 0

namespace Coverage

def init (target : Int) : Coverage where
  phase := target
  samples := fun _ => 0
  comparisons := fun _ => 0
  cadenceWaits := 0
  firstSequence := 0
  lastSequence := 0
  minStep := 0
  maxStep := 0

/-- The frame number of a capture that follows `captured` others. -/
def addSequence (captured sequence : UInt32) (c : Coverage) : Coverage :=
  if captured = 0 then
    { c with firstSequence := sequence, lastSequence := sequence }
  else
    let step := (sequence - c.lastSequence) &&& 0xffff
    {
      c with
      minStep := if captured = 1 ∨ step < c.minStep then step else c.minStep
      maxStep := if step > c.maxStep then step else c.maxStep
      lastSequence := sequence
    }

def addSample (parity compared : Bool) (c : Coverage) : Coverage :=
  {
    c with
    samples := Function.update c.samples parity (c.samples parity + 1)
    comparisons :=
      if compared then
        Function.update c.comparisons parity (c.comparisons parity + 1)
      else
        c.comparisons
  }

end Coverage

def FirstFailure.note (f : FirstFailure) (c : FailedCapture) : FirstFailure :=
  if f.enabled && f.found.isNone && (c.wrong != 0 || c.changed != 0) then
    { f with found := some c }
  else
    f

namespace PhaseMeasure

def init (target : Int) (firstFailure : FirstFailure) : PhaseMeasure where
  captured := 0
  previous := fun _ => none
  lastSample := fun _ => 0
  lastParity := none
  coverage := .init target
  score := { wrong := 0, changed := 0 }
  firstFailure := firstFailure
  compared := []

def changedFrom (previous : Option VcapCaptureData) (data : VcapCaptureData) : UInt32 :=
  match previous with
  | none => 0
  | some reference => (captureChangedPixels data.pixels reference.pixels).toUInt32

/-- The body of the loop up to the tests of the quotas. -/
def scoreCapture (parity : Bool) (data : VcapCaptureData) (s : PhaseMeasure) : PhaseMeasure :=
  let reference := s.previous parity
  let wrong := (capturePatternErrors data.pixels).toUInt32
  let changed := changedFrom reference data
  {
    captured := s.captured + 1
    previous := Function.update s.previous parity (some data)
    lastSample := Function.update s.lastSample parity (s.captured + 1)
    lastParity := s.lastParity
    coverage := (s.coverage.addSequence s.captured (data.status >>> 16)).addSample parity
      reference.isSome
    score := { wrong := s.score.wrong + wrong, changed := s.score.changed + changed }
    firstFailure := s.firstFailure.note {
      failed := data
      reference
      phase := s.coverage.phase
      capturedMeasurement := s.firstFailure.measurement
      sample := s.captured + 1
      parity
      wrong
      changed
    }
    compared := s.compared ++ reference.toList.map fun reference => (data, reference)
  }

/-- Both parities are needed if the display is interlaced. -/
def needed (lace : Bool) : List Bool := if lace then [false, true] else [false]

def quotasReached (lace : Bool) (count : UInt32) (s : PhaseMeasure) : Bool :=
  s.coverage.comparisons false ≥ count && (!lace || s.coverage.comparisons true ≥ count)

def fieldMissing (lace : Bool) (count : UInt32) (s : PhaseMeasure) : Bool :=
  (needed lace).any fun i =>
    s.coverage.comparisons i < count && s.captured - s.lastSample i ≥ fieldLimit count

/-- The end of the body: the next vertical blank is awaited if a parity repeats. -/
def keepCadence (lace : Bool) (count : UInt32) (parity : Bool) (s : PhaseMeasure) : PhaseMeasure :=
  if lace && s.lastParity == some parity && s.coverage.comparisons (!parity) < count then
    {
      s with
      coverage := { s.coverage with cadenceWaits := s.coverage.cadenceWaits + 1 }
      lastParity := some parity
    }
  else
    { s with lastParity := some parity }

end PhaseMeasure

/-- The loop of `measure_phase`, `n` turns at most. A capture that fails is `none`. -/
def measureCaptures (lace : Bool) (count : UInt32) (captures : Nat → Option VcapCaptureData)
    (n : Nat) (s : PhaseMeasure) : PhaseOutcome :=
  match n with
  | 0 => .exhausted s
  | n + 1 =>
    match captures s.captured.toNat with
    | none => .interrupted
    | some data =>
      let parity := parityOf lace data
      let s := s.scoreCapture parity data
      if s.quotasReached lace count then
        .complete s
      else if s.fieldMissing lace count then
        .starved s
      else
        measureCaptures lace count captures n (s.keepCadence lace count parity)

/--
`measure_phase`. `applied` says whether the phase was acknowledged, and `discarded` whether the two
captures after it were taken.
-/
def measurePhase (target : Int) (lace : Bool) (count : UInt32) (firstFailure : FirstFailure)
    (applied discarded : Bool) (captures : Nat → Option VcapCaptureData) : PhaseOutcome :=
  let firstFailure :=
    if firstFailure.enabled then
      { firstFailure with measurement := firstFailure.measurement + 1 }
    else
      firstFailure
  if !applied then
    .notApplied
  else if !discarded then
    .interrupted
  else
    measureCaptures lace count captures (totalLimit lace count).toNat (.init target firstFailure)

end ZZCapture
