import ZZ9000.Numerics.Rounding
import ZZ9000.Rtg.Mode

/-!
This module contains the clocks of custom modes from `zz_custom_mode.h`: the clock of a PLL tuple
and the search for the tuple that comes nearest to a clock.
-/

namespace ZZRtg

def customMinClockHz : UInt32 := 25000000
def customMaxClockHz : UInt32 := 165000000

def customClockHz (mul div div2 : UInt16) : UInt32 :=
  if mul < 2 ∨ mul > 64 ∨ div < 1 ∨ div > 5 ∨ div2 < 1 ∨ div2 > 128
      ∨ 100 * mul.toUInt32 < 1000 * div.toUInt32 ∨ 100 * mul.toUInt32 > 1500 * div.toUInt32 then
    0
  else
    let denominator := div.toUInt32 * div2.toUInt32
    let numerator := 100000000 * mul.toUInt64
    ((numerator + (denominator / 2).toUInt64) / denominator.toUInt64).toUInt32

/-- The best tuple that the search has found. -/
structure BestClock where
  error : UInt32
  hz : UInt32
  mul : UInt16
  div : UInt16
  div2 : UInt16
  deriving DecidableEq, Repr

def noClock : BestClock where
  error := 0xffffffff
  hz := 0
  mul := 0
  div := 0
  div2 := 0

def clockError (requested hz : UInt32) : UInt32 :=
  if hz > requested then hz - requested else requested - hz

/-- The body of the innermost loop. -/
def tryCandidate (requested : UInt32) (mul div : UInt16) (candidate : UInt32) (best : BestClock)
    : BestClock :=
  if candidate < 1 ∨ candidate > 128 then
    best
  else
    let hz := customClockHz mul div candidate.toUInt16
    if hz < customMinClockHz ∨ hz > customMaxClockHz then
      best
    else
      let error := clockError requested hz
      if error < best.error then
        { error, hz, mul, div, div2 := candidate.toUInt16 }
      else
        best

/-- The innermost loop has two turns, `fuel` of them are left. -/
def tryCandidates (requested : UInt32) (mul div : UInt16) (fuel : Nat) (candidate : UInt32)
    (best : BestClock) : BestClock :=
  match fuel with
  | 0 => best
  | fuel + 1 =>
    if best.error ≠ 0 then
      tryCandidates requested mul div fuel (candidate + 1)
        (tryCandidate requested mul div candidate best)
    else
      best

def outputDiv (requested : UInt32) (mul div : UInt16) : UInt32 :=
  ((100000000 * mul.toUInt64) / (requested.toUInt64 * div.toUInt64)).toUInt32

def tryMuls (requested : UInt32) (div : UInt16) (fuel : Nat) (mul : UInt16) (best : BestClock)
    : BestClock :=
  match fuel with
  | 0 => best
  | fuel + 1 =>
    if mul ≤ 64 ∧ mul ≤ 15 * div ∧ best.error ≠ 0 then
      tryMuls requested div fuel (mul + 1)
        (tryCandidates requested mul div 2 (outputDiv requested mul div) best)
    else
      best

def tryDivs (requested : UInt32) (fuel : Nat) (div : UInt16) (best : BestClock) : BestClock :=
  match fuel with
  | 0 => best
  | fuel + 1 =>
    if div ≤ 5 ∧ best.error ≠ 0 then
      tryDivs requested fuel (div + 1) (tryMuls requested div 65 (10 * div) best)
    else
      best

/-- The clock that is achieved, or 0, and the mode with its tuple. -/
def customResolveClock (requested : UInt32) (mode : CustomMode) : UInt32 × CustomMode :=
  if requested < customMinClockHz ∨ requested > customMaxClockHz then
    (0, mode)
  else
    let best := tryDivs requested 5 1 noClock
    if best.hz = 0 ∨ best.error > requested / 200 then
      (0, mode)
    else
      (best.hz, { mode with mul := best.mul, div := best.div, div2 := best.div2 })

end ZZRtg
