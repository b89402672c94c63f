import ZZ9000.Rtg.CustomClock

/-!
This module contains the verification of the search for a PLL tuple: of all tuples that the clock
wizard takes, the result comes nearest to the clock that is asked for.
-/

namespace ZZRtg

open Numerics

/-- A multiplier and its two dividers. -/
structure Pll where
  mul : UInt16
  div : UInt16
  div2 : UInt16
  deriving DecidableEq, Repr

def Pll.hz (t : Pll) : UInt32 := customClockHz t.mul t.div t.div2

/-- A tuple with a clock that a custom mode may have. -/
def Pll.Legal (t : Pll) : Prop := customMinClockHz ≤ t.hz ∧ t.hz ≤ customMaxClockHz

/-- By how much a clock misses the requested one. -/
def miss (requested hz : UInt32) : Nat :=
  (hz.toNat - requested.toNat) + (requested.toNat - hz.toNat)

/-- The ranges that `zz_custom_clock_hz` checks. -/
structure Pll.InRange (t : Pll) : Prop where
  mul_le : t.mul.toNat ≤ 64
  div_pos : 1 ≤ t.div.toNat
  div_le : t.div.toNat ≤ 5
  div2_pos : 1 ≤ t.div2.toNat
  div2_le : t.div2.toNat ≤ 128
  vco_low : 10 * t.div.toNat ≤ t.mul.toNat
  vco_high : t.mul.toNat ≤ 15 * t.div.toNat

theorem toNat_scaled {k : UInt32} (hk : k.toNat ≤ 1500) (m : UInt16)
    : (k * m.toUInt32).toNat = k.toNat * m.toNat := by
  have bound : k.toNat * m.toNat ≤ 1500 * 65535 :=
    Nat.mul_le_mul hk (Nat.le_of_lt_succ m.toNat_lt)
  rw [UInt32.toNat_mul, UInt16.toNat_toUInt32, Nat.mod_eq_of_lt (by omega)]

namespace Pll

theorem inRange_iff (t : Pll)
    : t.InRange
        ↔ ¬ (t.mul < 2 ∨ t.mul > 64 ∨ t.div < 1 ∨ t.div > 5 ∨ t.div2 < 1 ∨ t.div2 > 128
          ∨ 100 * t.mul.toUInt32 < 1000 * t.div.toUInt32
          ∨ 100 * t.mul.toUInt32 > 1500 * t.div.toUInt32) := by
  have k100 : (100 : UInt32).toNat = 100 := rfl
  have k1000 : (1000 : UInt32).toNat = 1000 := rfl
  have k1500 : (1500 : UInt32).toNat = 1500 := rfl
  have n1 : (1 : UInt16).toNat = 1 := rfl
  have n2 : (2 : UInt16).toNat = 2 := rfl
  have n5 : (5 : UInt16).toNat = 5 := rfl
  have n64 : (64 : UInt16).toNat = 64 := rfl
  have n128 : (128 : UInt16).toNat = 128 := rfl
  have low := toNat_scaled (k := 1000) (by decide) t.div
  have high := toNat_scaled (k := 1500) (by decide) t.div
  have scaled := toNat_scaled (k := 100) (by decide) t.mul
  simp only [gt_iff_lt, UInt16.lt_iff_toNat_lt, UInt32.lt_iff_toNat_lt, low, high, scaled, k100,
    k1000, k1500, n1, n2, n5, n64, n128]
  constructor
  . intro h
    have := h.mul_le
    have := h.div_pos
    have := h.div_le
    have := h.div2_pos
    have := h.div2_le
    have := h.vco_low
    have := h.vco_high
    omega
  . intro h
    constructor
    all_goals omega

theorem inRange_of_hz_ne_zero {t : Pll} (h : t.hz ≠ 0)
    : t.InRange := by
  rw [inRange_iff]
  intro guard
  apply h
  unfold hz customClockHz
  rw [if_pos guard]

/-- The divider of the feedback and that of the output as one. -/
theorem toNat_denominator {t : Pll} (h : t.InRange)
    : (t.div.toUInt32 * t.div2.toUInt32).toNat = t.div.toNat * t.div2.toNat := by
  have product : t.div.toNat * t.div2.toNat ≤ 5 * 128 := Nat.mul_le_mul h.div_le h.div2_le
  rw [UInt32.toNat_mul, UInt16.toNat_toUInt32, UInt16.toNat_toUInt32, Nat.mod_eq_of_lt (by omega)]

theorem toNat_hz {t : Pll} (h : t.InRange)
    : t.hz.toNat = roundDiv (100000000 * t.mul.toNat) (t.div.toNat * t.div2.toNat) := by
  have product : t.div.toNat * t.div2.toNat ≤ 5 * 128 := Nat.mul_le_mul h.div_le h.div2_le
  have positive : 0 < t.div.toNat * t.div2.toNat := Nat.mul_pos h.div_pos h.div2_pos
  have denominator := toNat_denominator h
  have mul_le := h.mul_le
  have numerator : (100000000 * t.mul.toUInt64).toNat = 100000000 * t.mul.toNat := by
    rw [UInt64.toNat_mul, UInt16.toNat_toUInt64]
    have : (100000000 : UInt64).toNat = 100000000 := rfl
    rw [this, Nat.mod_eq_of_lt (by omega)]
  have half : (t.div.toUInt32 * t.div2.toUInt32 / 2).toUInt64.toNat
      = t.div.toNat * t.div2.toNat / 2 := by
    rw [UInt32.toNat_toUInt64, UInt32.toNat_div, denominator]
    rfl
  have bound : roundDiv (100000000 * t.mul.toNat) (t.div.toNat * t.div2.toNat) < 2 ^ 32 := by
    have narrow := roundDiv_anti (100000000 * t.mul.toNat) h.div_pos
      (Nat.le_mul_of_pos_right t.div.toNat h.div2_pos)
    have wide : roundDiv (100000000 * t.mul.toNat) t.div.toNat < 2 ^ 32 := by
      rw [roundDiv_lt_iff h.div_pos]
      have := h.div_pos
      have := h.vco_high
      omega
    omega
  have sum : (100000000 * t.mul.toNat + t.div.toNat * t.div2.toNat / 2) % 2 ^ 64
      = 100000000 * t.mul.toNat + t.div.toNat * t.div2.toNat / 2 := Nat.mod_eq_of_lt (by omega)
  unfold hz customClockHz
  rw [if_neg ((inRange_iff t).mp h)]
  dsimp only
  rw [UInt64.toNat_toUInt32, UInt64.toNat_div, UInt64.toNat_add, numerator, half,
    UInt32.toNat_toUInt64, denominator, sum]
  exact Nat.mod_eq_of_lt bound

theorem Legal.inRange {t : Pll} (h : t.Legal)
    : t.InRange := by
  apply inRange_of_hz_ne_zero
  intro zero
  have low := h.1
  rw [zero] at low
  exact absurd low (by decide)

end Pll

section Optimum

/-!
For a multiplier and a divider the two output dividers around the exact one are the best: clocks
fall with the divider, and the requested clock lies between those of the two.
-/

variable {requested : UInt32} {t : Pll}

/-- The output divider whose clock is not below the requested one. -/
def floorDiv (requested : UInt32) (mul div : UInt16) : Nat :=
  100000000 * mul.toNat / (requested.toNat * div.toNat)

theorem floorDiv_le (low : customMinClockHz ≤ requested) (h : t.InRange)
    : floorDiv requested t.mul t.div ≤ 60 := by
  have floor : 25000000 ≤ requested.toNat := UInt32.le_iff_toNat_le.mp low
  have step : 25000000 * t.div.toNat ≤ requested.toNat * t.div.toNat :=
    Nat.mul_le_mul_right _ floor
  have := h.div_pos
  have := h.vco_high
  unfold floorDiv
  rw [← Nat.lt_succ_iff, Nat.div_lt_iff_lt_mul (by omega)]
  omega

theorem le_hz_of_le_floorDiv (low : customMinClockHz ≤ requested) (h : t.InRange)
    (hle : t.div2.toNat ≤ floorDiv requested t.mul t.div)
    : requested.toNat ≤ t.hz.toNat := by
  have floor : 25000000 ≤ requested.toNat := UInt32.le_iff_toNat_le.mp low
  have positive : 0 < requested.toNat * t.div.toNat := Nat.mul_pos (by omega) h.div_pos
  have exact_ := (Nat.le_div_iff_mul_le positive).mp hle
  rw [Pll.toNat_hz h, le_roundDiv_iff (Nat.mul_pos h.div_pos h.div2_pos)]
  have same : requested.toNat * (t.div.toNat * t.div2.toNat)
      = t.div2.toNat * (requested.toNat * t.div.toNat) := by ring
  omega

theorem hz_le_of_floorDiv_lt (low : customMinClockHz ≤ requested) (h : t.InRange)
    (hlt : floorDiv requested t.mul t.div < t.div2.toNat)
    : t.hz.toNat ≤ requested.toNat := by
  have floor : 25000000 ≤ requested.toNat := UInt32.le_iff_toNat_le.mp low
  have positive : 0 < requested.toNat * t.div.toNat := Nat.mul_pos (by omega) h.div_pos
  have exact_ := (Nat.div_lt_iff_lt_mul positive).mp hlt
  rw [← Nat.lt_succ_iff, Pll.toNat_hz h, roundDiv_lt_iff (Nat.mul_pos h.div_pos h.div2_pos)]
  have same : (requested.toNat + 1) * (t.div.toNat * t.div2.toNat)
      = t.div2.toNat * (requested.toNat * t.div.toNat) + t.div.toNat * t.div2.toNat := by ring
  rw [Nat.succ_eq_add_one, same]
  omega

/-- Clocks fall with the output divider. -/
theorem hz_anti {mul div c e : UInt16} (hc : (Pll.mk mul div c).InRange)
    (he : (Pll.mk mul div e).InRange) (h : c.toNat ≤ e.toNat)
    : (Pll.mk mul div e).hz.toNat ≤ (Pll.mk mul div c).hz.toNat := by
  rw [Pll.toNat_hz hc, Pll.toNat_hz he]
  apply roundDiv_anti
  . exact Nat.mul_pos hc.div_pos hc.div2_pos
  . exact Nat.mul_le_mul_left _ h

/-- One of the two candidates is legal and misses the clock by no more than any other tuple. -/
theorem exists_candidate (low : customMinClockHz ≤ requested) (high : requested ≤ customMaxClockHz)
    (legal : t.Legal)
    : ∃ c : UInt16, (c.toNat = floorDiv requested t.mul t.div
          ∨ c.toNat = floorDiv requested t.mul t.div + 1)
        ∧ (Pll.mk t.mul t.div c).Legal
        ∧ miss requested (Pll.mk t.mul t.div c).hz ≤ miss requested t.hz := by
  have range := legal.inRange
  have few := floorDiv_le low range
  have minClock : customMinClockHz.toNat = 25000000 := rfl
  have maxClock : customMaxClockHz.toNat = 165000000 := rfl
  have legalLow := UInt32.le_iff_toNat_le.mp legal.1
  have legalHigh := UInt32.le_iff_toNat_le.mp legal.2
  have low' := UInt32.le_iff_toNat_le.mp low
  have high' := UInt32.le_iff_toNat_le.mp high
  by_cases hle : t.div2.toNat ≤ floorDiv requested t.mul t.div
  . have toNat_c : (UInt16.ofNat (floorDiv requested t.mul t.div)).toNat
        = floorDiv requested t.mul t.div := by
      rw [UInt16.toNat_ofNat', Nat.mod_eq_of_lt (by omega)]
    have pos := range.div2_pos
    have candidate : (Pll.mk t.mul t.div
        (UInt16.ofNat (floorDiv requested t.mul t.div))).InRange :=
      { range with div2_pos := by dsimp only; omega, div2_le := by dsimp only; omega }
    have above := le_hz_of_le_floorDiv low candidate (Nat.le_of_eq toNat_c)
    have below : (Pll.mk t.mul t.div (UInt16.ofNat (floorDiv requested t.mul t.div))).hz.toNat
        ≤ t.hz.toNat := hz_anti range candidate (by rw [toNat_c]; exact hle)
    refine ⟨_, .inl toNat_c, ⟨?_, ?_⟩, ?_⟩
    . rw [UInt32.le_iff_toNat_le]
      omega
    . rw [UInt32.le_iff_toNat_le]
      omega
    . unfold miss
      omega
  . have toNat_c : (UInt16.ofNat (floorDiv requested t.mul t.div + 1)).toNat
        = floorDiv requested t.mul t.div + 1 := by
      rw [UInt16.toNat_ofNat', Nat.mod_eq_of_lt (by omega)]
    have candidate : (Pll.mk t.mul t.div
        (UInt16.ofNat (floorDiv requested t.mul t.div + 1))).InRange :=
      { range with div2_pos := by dsimp only; omega, div2_le := by dsimp only; omega }
    have below := hz_le_of_floorDiv_lt low candidate (by dsimp only; omega)
    have above : t.hz.toNat
        ≤ (Pll.mk t.mul t.div (UInt16.ofNat (floorDiv requested t.mul t.div + 1))).hz.toNat :=
      hz_anti candidate range (by rw [toNat_c]; omega)
    refine ⟨_, .inr toNat_c, ⟨?_, ?_⟩, ?_⟩
    . rw [UInt32.le_iff_toNat_le]
      omega
    . rw [UInt32.le_iff_toNat_le]
      omega
    . unfold miss
      omega

end Optimum

section Search

/-!
The search keeps the best tuple so far. What carries the result through the loops is that a legal
tuple that a loop has passed is missed by no more than the error that the search holds.
-/

/-- What the search may hold: nothing, or a legal tuple with its clock and its error. -/
inductive Found (requested : UInt32) : BestClock → Prop where
  | none : Found requested noClock
  | tuple (t : Pll) (error : UInt32) (legal : t.Legal) (hmiss : error.toNat = miss requested t.hz)
      : Found requested { error, hz := t.hz, mul := t.mul, div := t.div, div2 := t.div2 }

/-- The search holds a tuple that misses the clock by no more than `t`. -/
def Covers (requested : UInt32) (best : BestClock) (t : Pll) : Prop :=
  best.error.toNat ≤ miss requested t.hz

/-- A part of the search goes from one best tuple to one that is no worse. -/
structure Improves (requested : UInt32) (best best' : BestClock) : Prop where
  found : Found requested best → Found requested best'
  error_le : best'.error.toNat ≤ best.error.toNat

variable {requested : UInt32} {best best' : BestClock} {t : Pll}

theorem Improves.refl (best : BestClock)
    : Improves requested best best := ⟨id, Nat.le_refl _⟩

theorem Improves.trans {best'' : BestClock} (h : Improves requested best best')
    (h' : Improves requested best' best'')
    : Improves requested best best'' :=
  ⟨h'.found ∘ h.found, Nat.le_trans h'.error_le h.error_le⟩

theorem Covers.improves (h : Covers requested best t) (improves : Improves requested best best')
    : Covers requested best' t := Nat.le_trans improves.error_le h

theorem covers_of_error_eq_zero (h : best.error = 0) (t : Pll)
    : Covers requested best t := by
  unfold Covers
  rw [h]
  exact Nat.zero_le _

theorem toNat_clockError (requested hz : UInt32)
    : (clockError requested hz).toNat = miss requested hz := by
  unfold clockError miss
  split
  . next h =>
    have h := UInt32.lt_iff_toNat_lt.mp h
    rw [UInt32.toNat_sub_of_le _ _ (UInt32.le_iff_toNat_le.mpr (Nat.le_of_lt h))]
    omega
  . next h =>
    have h := UInt32.le_iff_toNat_le.mp (UInt32.not_lt.mp h)
    rw [UInt32.toNat_sub_of_le _ _ (UInt32.le_iff_toNat_le.mpr h)]
    omega

theorem improves_tryCandidate (requested : UInt32) (mul div : UInt16) (candidate : UInt32)
    (best : BestClock)
    : Improves requested best (tryCandidate requested mul div candidate best) := by
  unfold tryCandidate
  split
  . exact .refl _
  . dsimp only
    split
    . exact .refl _
    . next inside =>
      split
      . next better =>
        constructor
        . intro _
          have legal : (Pll.mk mul div candidate.toUInt16).Legal := by
            constructor
            . exact UInt32.not_lt.mp (not_or.mp inside).1
            . exact UInt32.not_lt.mp (not_or.mp inside).2
          exact .tuple _ _ legal (toNat_clockError _ _)
        . exact Nat.le_of_lt (UInt32.lt_iff_toNat_lt.mp better)
      . exact .refl _

theorem covers_tryCandidate {candidate : UInt32} (legal : t.Legal)
    (same : candidate.toNat = t.div2.toNat) (best : BestClock)
    : Covers requested (tryCandidate requested t.mul t.div candidate best) t := by
  have div2 : candidate.toUInt16 = t.div2 := by
    apply UInt16.toNat_inj.mp
    rw [UInt32.toNat_toUInt16, same, Nat.mod_eq_of_lt t.div2.toNat_lt]
  have clock : customClockHz t.mul t.div candidate.toUInt16 = t.hz := by
    rw [div2]
    rfl
  have range := legal.inRange
  have inside : ¬ (candidate < 1 ∨ candidate > 128) := by
    have one : (1 : UInt32).toNat = 1 := rfl
    have last : (128 : UInt32).toNat = 128 := rfl
    have := range.div2_pos
    have := range.div2_le
    simp only [gt_iff_lt, UInt32.lt_iff_toNat_lt]
    omega
  unfold tryCandidate Covers
  rw [if_neg inside, clock]
  dsimp only
  rw [if_neg (not_or.mpr ⟨UInt32.not_lt.mpr legal.1, UInt32.not_lt.mpr legal.2⟩)]
  split
  . exact Nat.le_of_eq (toNat_clockError _ _)
  . next worse =>
    rw [← toNat_clockError]
    exact UInt32.le_iff_toNat_le.mp (UInt32.not_lt.mp worse)

theorem improves_tryCandidates (requested : UInt32) (mul div : UInt16) (fuel : Nat)
    (candidate : UInt32) (best : BestClock)
    : Improves requested best (tryCandidates requested mul div fuel candidate best) := by
  induction fuel generalizing candidate best with
  | zero => exact .refl _
  | succ fuel ih =>
    unfold tryCandidates
    split
    . exact .trans (improves_tryCandidate _ _ _ _ _) (ih _ _)
    . exact .refl _

theorem covers_tryCandidates (legal : t.Legal) (fuel : Nat) (candidate : UInt32)
    (small : candidate.toNat ≤ 200) (first : candidate.toNat ≤ t.div2.toNat)
    (last : t.div2.toNat < candidate.toNat + fuel) (best : BestClock)
    : Covers requested (tryCandidates requested t.mul t.div fuel candidate best) t := by
  induction fuel generalizing candidate best with
  | zero => omega
  | succ fuel ih =>
    unfold tryCandidates
    split
    . by_cases same : candidate.toNat = t.div2.toNat
      . exact (covers_tryCandidate legal same best).improves (improves_tryCandidates _ _ _ _ _ _)
      . have one : (1 : UInt32).toNat = 1 := rfl
        have next : (candidate + 1).toNat = candidate.toNat + 1 := by
          rw [UInt32.toNat_add, one, Nat.mod_eq_of_lt (by omega)]
        have := legal.inRange.div2_le
        apply ih
        . omega
        . omega
        . omega
    . next done =>
      exact covers_of_error_eq_zero (not_not.mp done) t

theorem toNat_outputDiv (low : customMinClockHz ≤ requested) (range : t.InRange)
    : (outputDiv requested t.mul t.div).toNat = floorDiv requested t.mul t.div := by
  have few := floorDiv_le low range
  have mul_le := range.mul_le
  have div_le := range.div_le
  have numerator : (100000000 * t.mul.toUInt64).toNat = 100000000 * t.mul.toNat := by
    have scale : (100000000 : UInt64).toNat = 100000000 := rfl
    rw [UInt64.toNat_mul, UInt16.toNat_toUInt64, scale, Nat.mod_eq_of_lt (by omega)]
  have denominator : (requested.toUInt64 * t.div.toUInt64).toNat
      = requested.toNat * t.div.toNat := by
    have product : requested.toNat * t.div.toNat ≤ 2 ^ 32 * 5 :=
      Nat.mul_le_mul (Nat.le_of_lt requested.toNat_lt) div_le
    rw [UInt64.toNat_mul, UInt16.toNat_toUInt64, UInt32.toNat_toUInt64,
      Nat.mod_eq_of_lt (by omega)]
  unfold floorDiv at few
  unfold outputDiv floorDiv
  rw [UInt64.toNat_toUInt32, UInt64.toNat_div, numerator, denominator, Nat.mod_eq_of_lt (by omega)]

/-- The two turns of the innermost loop cover every output divider. -/
theorem covers_outputDivs (low : customMinClockHz ≤ requested)
    (high : requested ≤ customMaxClockHz) (legal : t.Legal) (best : BestClock)
    : Covers requested
        (tryCandidates requested t.mul t.div 2 (outputDiv requested t.mul t.div) best) t := by
  have first := toNat_outputDiv low legal.inRange
  have few := floorDiv_le low legal.inRange
  cases exists_candidate low high legal with | intro c h =>
  have covered : Covers requested
      (tryCandidates requested t.mul t.div 2 (outputDiv requested t.mul t.div) best)
      { t with div2 := c } := by
    have turn := h.1
    apply covers_tryCandidates h.2.1
    . omega
    . dsimp only
      omega
    . dsimp only
      omega
  exact Nat.le_trans covered h.2.2

theorem improves_tryMuls (requested : UInt32) (div : UInt16) (fuel : Nat) (mul : UInt16)
    (best : BestClock)
    : Improves requested best (tryMuls requested div fuel mul best) := by
  induction fuel generalizing mul best with
  | zero => exact .refl _
  | succ fuel ih =>
    unfold tryMuls
    split
    . exact .trans (improves_tryCandidates _ _ _ _ _ _) (ih _ _)
    . exact .refl _

theorem covers_tryMuls (low : customMinClockHz ≤ requested) (high : requested ≤ customMaxClockHz)
    (legal : t.Legal) (fuel : Nat) (mul : UInt16) (first : mul.toNat ≤ t.mul.toNat)
    (last : t.mul.toNat < mul.toNat + fuel) (best : BestClock)
    : Covers requested (tryMuls requested t.div fuel mul best) t := by
  induction fuel generalizing mul best with
  | zero => omega
  | succ fuel ih =>
    have range := legal.inRange
    have := range.mul_le
    have := range.div_le
    have := range.vco_high
    unfold tryMuls
    split
    . by_cases same : mul = t.mul
      . rw [same]
        exact (covers_outputDivs low high legal best).improves (improves_tryMuls _ _ _ _ _)
      . have apart : mul.toNat ≠ t.mul.toNat := fun h => same (UInt16.toNat_inj.mp h)
        have one : (1 : UInt16).toNat = 1 := rfl
        have next : (mul + 1).toNat = mul.toNat + 1 := by
          rw [UInt16.toNat_add, one, Nat.mod_eq_of_lt (by omega)]
        apply ih
        . omega
        . omega
    . next done =>
      have inside : mul ≤ 64 ∧ mul ≤ 15 * t.div := by
        have most : (64 : UInt16).toNat = 64 := rfl
        have fifteen : (15 : UInt16).toNat = 15 := rfl
        rw [UInt16.le_iff_toNat_le, UInt16.le_iff_toNat_le, UInt16.toNat_mul, most, fifteen,
          Nat.mod_eq_of_lt (by omega)]
        omega
      apply covers_of_error_eq_zero
      by_contra nonzero
      exact done ⟨inside.1, inside.2, nonzero⟩

theorem improves_tryDivs (requested : UInt32) (fuel : Nat) (div : UInt16) (best : BestClock)
    : Improves requested best (tryDivs requested fuel div best) := by
  induction fuel generalizing div best with
  | zero => exact .refl _
  | succ fuel ih =>
    unfold tryDivs
    split
    . exact .trans (improves_tryMuls _ _ _ _ _) (ih _ _)
    . exact .refl _

theorem covers_tryDivs (low : customMinClockHz ≤ requested) (high : requested ≤ customMaxClockHz)
    (legal : t.Legal) (fuel : Nat) (div : UInt16) (first : div.toNat ≤ t.div.toNat)
    (last : t.div.toNat < div.toNat + fuel) (best : BestClock)
    : Covers requested (tryDivs requested fuel div best) t := by
  induction fuel generalizing div best with
  | zero => omega
  | succ fuel ih =>
    have range := legal.inRange
    have := range.div_le
    unfold tryDivs
    split
    . by_cases same : div = t.div
      . have ten : (10 : UInt16).toNat = 10 := rfl
        have firstMul : (10 * t.div).toNat = 10 * t.div.toNat := by
          rw [UInt16.toNat_mul, ten, Nat.mod_eq_of_lt (by omega)]
        have := range.mul_le
        have := range.vco_low
        have covered : Covers requested (tryMuls requested t.div 65 (10 * t.div) best) t := by
          apply covers_tryMuls low high legal
          . omega
          . omega
        rw [same]
        exact covered.improves (improves_tryDivs _ _ _ _)
      . have apart : div.toNat ≠ t.div.toNat := fun h => same (UInt16.toNat_inj.mp h)
        have one : (1 : UInt16).toNat = 1 := rfl
        have next : (div + 1).toNat = div.toNat + 1 := by
          rw [UInt16.toNat_add, one, Nat.mod_eq_of_lt (by omega)]
        apply ih
        . omega
        . omega
    . next done =>
      have inside : div ≤ 5 := by
        have five : (5 : UInt16).toNat = 5 := rfl
        rw [UInt16.le_iff_toNat_le]
        omega
      apply covers_of_error_eq_zero
      by_contra nonzero
      exact done ⟨inside, nonzero⟩

end Search

section Result

variable {requested : UInt32}

/-- The whole search, for a clock that a custom mode may have. -/
theorem found_search (requested : UInt32)
    : Found requested (tryDivs requested 5 1 noClock) :=
  (improves_tryDivs requested 5 1 noClock).found .none

theorem covers_search (low : customMinClockHz ≤ requested) (high : requested ≤ customMaxClockHz)
    {t : Pll} (legal : t.Legal)
    : Covers requested (tryDivs requested 5 1 noClock) t := by
  have one : (1 : UInt16).toNat = 1 := rfl
  have := legal.inRange.div_pos
  have := legal.inRange.div_le
  apply covers_tryDivs low high legal
  . omega
  . omega

theorem Pll.Legal.hz_ne_zero {t : Pll} (legal : t.Legal)
    : t.hz ≠ 0 := by
  intro zero
  have low := legal.1
  rw [zero] at low
  exact absurd low (by decide)

/-- What `zz_custom_resolve_clock` may return: nothing, or a legal tuple that no other beats. -/
inductive Resolved (requested : UInt32) (mode : CustomMode) : UInt32 × CustomMode → Prop where
  | refused
      (h : requested < customMinClockHz ∨ requested > customMaxClockHz
        ∨ ∀ t : Pll, t.Legal → requested.toNat / 200 < miss requested t.hz)
      : Resolved requested mode (0, mode)
  | tuple (t : Pll) (legal : t.Legal)
      (inside : customMinClockHz ≤ requested ∧ requested ≤ customMaxClockHz)
      (near : miss requested t.hz ≤ requested.toNat / 200)
      (optimal : ∀ u : Pll, u.Legal → miss requested t.hz ≤ miss requested u.hz)
      : Resolved requested mode (t.hz, { mode with mul := t.mul, div := t.div, div2 := t.div2 })

theorem resolved_customResolveClock (requested : UInt32) (mode : CustomMode)
    : Resolved requested mode (customResolveClock requested mode) := by
  unfold customResolveClock
  split
  . next outside =>
    apply Resolved.refused
    cases outside with
    | inl low => exact .inl low
    | inr high => exact .inr (.inl high)
  . next inside =>
    have low := UInt32.not_lt.mp (not_or.mp inside).1
    have high := UInt32.not_lt.mp (not_or.mp inside).2
    have covers := fun t legal => @covers_search requested low high t legal
    have found := found_search requested
    have limit : (requested / 200).toNat = requested.toNat / 200 := UInt32.toNat_div _ _
    dsimp only
    generalize tryDivs requested 5 1 noClock = best at covers found
    cases found with
    | none =>
      rw [if_pos (.inl rfl)]
      apply Resolved.refused
      right
      right
      intro t legal
      -- a legal tuple would be covered, but nothing misses the clock by that much
      have most : (0xffffffff : UInt32).toNat = 2 ^ 32 - 1 := rfl
      have maxClock : customMaxClockHz.toNat = 165000000 := rfl
      have covered : (0xffffffff : UInt32).toNat ≤ miss requested t.hz := covers t legal
      have := UInt32.le_iff_toNat_le.mp legal.2
      have := UInt32.le_iff_toNat_le.mp high
      unfold miss at covered
      omega
    | tuple t error legal hmiss =>
      split
      . next far =>
        apply Resolved.refused
        right
        right
        intro u legal'
        have covered : error.toNat ≤ miss requested u.hz := covers u legal'
        cases far with
        | inl zero => exact absurd zero legal.hz_ne_zero
        | inr far =>
          have far := UInt32.lt_iff_toNat_lt.mp far
          dsimp only at far
          omega
      . next near =>
        apply Resolved.tuple t legal ⟨low, high⟩
        . have near := UInt32.le_iff_toNat_le.mp (UInt32.not_lt.mp (not_or.mp near).2)
          dsimp only at near
          omega
        . intro u legal'
          rw [← hmiss]
          exact covers u legal'

/-- A clock that a tuple has is resolved to itself. -/
theorem customResolveClock_hz (t : Pll) (legal : t.Legal) (mode : CustomMode)
    : (customResolveClock t.hz mode).1 = t.hz := by
  have self : miss t.hz t.hz = 0 := by
    unfold miss
    omega
  have resolved := resolved_customResolveClock t.hz mode
  generalize customResolveClock t.hz mode = result at resolved
  cases resolved with
  | refused h =>
    have low := UInt32.le_iff_toNat_le.mp legal.1
    have high := UInt32.le_iff_toNat_le.mp legal.2
    rcases h with below | above | far
    . have below := UInt32.lt_iff_toNat_lt.mp below
      omega
    . have above := UInt32.lt_iff_toNat_lt.mp above
      omega
    . have far := far t legal
      omega
  | tuple u _ _ _ optimal =>
    have exact_ := optimal t legal
    unfold miss at exact_
    apply UInt32.toNat_inj.mp
    dsimp only
    omega

/-- The clock does not depend on the mode that the tuple is stored in. -/
theorem customResolveClock_congr (requested : UInt32) (mode mode' : CustomMode)
    : (customResolveClock requested mode).1 = (customResolveClock requested mode').1 := by
  unfold customResolveClock
  split
  . rfl
  . dsimp only
    split
    . rfl
    . rfl

/-- A clock that is not refused is that of a legal tuple, which the mode then holds. -/
theorem exists_tuple_of_ne_zero {requested : UInt32} {mode : CustomMode}
    (h : (customResolveClock requested mode).1 ≠ 0)
    : ∃ t : Pll, t.Legal ∧ customResolveClock requested mode
        = (t.hz, { mode with mul := t.mul, div := t.div, div2 := t.div2 }) := by
  have resolved := resolved_customResolveClock requested mode
  generalize customResolveClock requested mode = result at resolved h
  cases resolved with
  | refused _ => exact absurd rfl h
  | tuple t legal _ _ _ => exact ⟨t, legal, rfl⟩

/--
A request is refused exactly if it is out of range or every legal tuple misses it by more than a
two hundredth. Otherwise the clock is that of the tuple that is stored, no legal tuple is closer,
and the clock is resolved to itself.
-/
theorem customResolveClock_optimal (requested : UInt32) (mode : CustomMode)
    : let hz := (customResolveClock requested mode).1
      let mode' := (customResolveClock requested mode).2
      (hz = 0 ↔ requested < 25000000 ∨ requested > 165000000
        ∨ ∀ t : Pll, t.Legal → requested.toNat < 200 * miss requested t.hz)
      ∧ (hz ≠ 0 →
        mode' = { mode with mul := mode'.mul, div := mode'.div, div2 := mode'.div2 }
        ∧ hz = customClockHz mode'.mul mode'.div mode'.div2
        ∧ 25000000 ≤ hz ∧ hz ≤ 165000000
        ∧ (∀ t : Pll, t.Legal → miss requested hz ≤ miss requested t.hz)
        ∧ ∀ again : CustomMode, (customResolveClock hz again).1 = hz) := by
  have resolved := resolved_customResolveClock requested mode
  generalize customResolveClock requested mode = result at resolved
  cases resolved with
  | refused h =>
    constructor
    . constructor
      . intro _
        rcases h with below | above | far
        . exact .inl below
        . exact .inr (.inl above)
        . right
          right
          intro t legal
          have := far t legal
          omega
      . intro _
        rfl
    . intro nonzero
      exact absurd rfl nonzero
  | tuple t legal inside near optimal =>
    constructor
    . constructor
      . intro zero
        exact absurd zero legal.hz_ne_zero
      . intro refused
        rcases refused with below | above | far
        . exact absurd inside.1 (UInt32.not_le.mpr below)
        . exact absurd inside.2 (UInt32.not_le.mpr above)
        . have far := far t legal
          omega
    . intro _
      constructor
      . rfl
      constructor
      . rfl
      constructor
      . exact legal.1
      constructor
      . exact legal.2
      constructor
      . exact optimal
      . exact customResolveClock_hz t legal

end Result

end ZZRtg
