import ZZ9000.Ahi.Capture

/-!
This module contains the staging of mixed periods for an audio lease: the byte order of a period,
the accumulator in front of the granted ring, and a pass of `fabric_lease_pump` that has the lease.
-/

namespace ZZAhi

open Streams

def bounceBufsz : UInt32 := 3840
def leaseRunwayPeriods : Nat := 2

/-- The producer session of the fabric library, as far as the pump uses it. -/
structure AudioRing (ρ : Type) where
  freeBytes : ρ → UInt32
  write : ρ → List UInt8 → UInt32 × ρ
  /-- `true` where the credits tell that the lease is revoked. -/
  takeCredits : ρ → Bool × ρ
  publish : ρ → ρ
  sourceRate : ρ → UInt32
  paused : ρ → Bool
  /-- `write_cursor - consumed_cursor` -/
  runway : ρ → Nat
  resume : ρ → ρ

/-- The fields of `struct z9ax` for the lease. -/
structure Lease (ρ : Type) where
  session : ρ
  accum : Nat → UInt8
  fill : UInt32
  sourceBe : Bool

/-- What a pass meets: the state of the driver, and what the hooks of AHI do. -/
structure Pass where
  buffSamples : UInt32
  playStop : Bool
  disableCnt : UInt32
  hooks : Bool
  /-- `PreTimer` asks to skip the mix. -/
  preTimer : Bool
  /-- What `MixerFunc` leaves in the bounce buffer. -/
  mixed : Nat → UInt8

def swab16 (word : UInt16) : UInt16 := (word >>> 8) ||| (word <<< 8)

def swapWord (buffer : Nat → UInt8) (i : Nat) : Nat → UInt8 :=
  writeBe16 buffer (2 * i) (swab16 (readBe16 buffer (2 * i)))

def fabricSwapPeriodLe (buffer : Nat → UInt8) (bytes : UInt32) : Nat → UInt8 :=
  (List.range (bytes / 2).toNat).foldl swapWord buffer

variable {ρ : Type} (ring : AudioRing ρ)

/-- Each turn drains a period, so that `fuel` is enough from the fill level on. -/
def flushLoop (leasePeriod : UInt32) (fuel : Nat) (z : Lease ρ) : Lease ρ :=
  match fuel with
  | 0 => z
  | fuel + 1 =>
    if z.fill ≥ leasePeriod ∧ ring.freeBytes z.session ≥ leasePeriod then
      let written := ring.write z.session (load z.accum 0 leasePeriod.toNat)
      if written.1 ≠ leasePeriod then
        { z with session := written.2 }
      else
        let fill := z.fill - leasePeriod
        let accum := store z.accum 0 (load z.accum leasePeriod.toNat fill.toNat)
        flushLoop leasePeriod fuel { z with session := written.2, accum, fill }
    else
      z

def fabricLeaseFlushAccum (leasePeriod : UInt32) (z : Lease ρ) : Lease ρ :=
  flushLoop ring leasePeriod z.fill.toNat z

/-- The mixed period goes behind the ones in the accumulator, or is dropped as a whole. -/
def stageMixed (leasePeriod : UInt32) (p : Pass) (z : Lease ρ) : Lease ρ :=
  let mixBytes := p.buffSamples <<< 2
  let room := bounceBufsz - z.fill
  if mixBytes ≠ 0 ∧ mixBytes = leasePeriod ∧ mixBytes ≤ room then
    let audioBuf := if z.sourceBe then p.mixed else fabricSwapPeriodLe p.mixed mixBytes
    { z with
      accum := store z.accum z.fill.toNat (load audioBuf 0 mixBytes.toNat)
      fill := z.fill + mixBytes }
  else
    z

def leasePeriodOf (sourceRate : UInt32) : UInt32 := (sourceRate / 50) * 4

/-- The part of the pump that mixes. -/
def leaseMix (p : Pass) (z : Lease ρ) : Lease ρ :=
  let leasePeriod := leasePeriodOf (ring.sourceRate z.session)
  if leasePeriod ≠ 0 ∧ leasePeriod ≤ bounceBufsz ∧ !p.playStop ∧ p.disableCnt = 0 ∧ p.hooks then
    let z := fabricLeaseFlushAccum ring leasePeriod z
    let z := if p.preTimer then z else stageMixed leasePeriod p z
    let z := fabricLeaseFlushAccum ring leasePeriod z
    if ring.paused z.session
        ∧ ring.runway z.session ≥ leaseRunwayPeriods * leasePeriod.toNat then
      { z with session := ring.resume z.session }
    else
      z
  else
    z

/-- A pass of `fabric_lease_pump` with the lease. The result is `none` where the lease is gone. -/
def fabricLeasePump (p : Pass) (z : Lease ρ) : Option (Lease ρ) :=
  let credited := ring.takeCredits z.session
  if credited.1 then
    none
  else
    let z := { z with session := credited.2 }
    if p.buffSamples > bounceMaxFrames then
      some z
    else
      let z := leaseMix ring p z
      some { z with session := ring.publish z.session }

/-- The passes while the lease lasts. -/
def runLease (passes : List Pass) (z : Lease ρ) : Option (Lease ρ) :=
  match passes with
  | [] => some z
  | p :: passes => (fabricLeasePump ring p z).bind (runLease passes)

end ZZAhi
