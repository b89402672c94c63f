import Mathlib.Algebra.Order.Ring.Nat
import Mathlib.Tactic.Ring

/-!
This module contains the division of natural numbers that rounds to nearest, ties up, and the
accumulator that produces the quotients of an arithmetic progression with it one after the other.
-/

namespace Numerics

/-- The quotient rounded to nearest, ties up. -/
def roundDiv (a d : Nat) : Nat := (a + d / 2) / d

/-- What `roundDiv` leaves over, half a divisor included. -/
def roundRem (a d : Nat) : Nat := (a + d / 2) % d

theorem roundRem_lt (a : Nat) {d : Nat} (hd : 0 < d)
    : roundRem a d < d := by
  apply Nat.mod_lt
  exact hd

theorem roundDiv_mul_add_roundRem (a d : Nat)
    : d * roundDiv a d + roundRem a d = a + d / 2 := by
  apply Nat.div_add_mod

/-- The closed form with one bias for even and odd divisors. -/
theorem roundDiv_eq_doubled (a d : Nat)
    : roundDiv a d = (2 * a + d) / (2 * d) := by
  have half : (2 * a + d) / 2 = a + d / 2 := by omega
  rw [roundDiv, ← Nat.div_div_eq_div_mul, half]

theorem le_roundDiv_iff {a d q : Nat} (hd : 0 < d)
    : q ≤ roundDiv a d ↔ 2 * (q * d) ≤ 2 * a + d := by
  rw [roundDiv_eq_doubled, Nat.le_div_iff_mul_le (by omega)]
  have reorder : q * (2 * d) = 2 * (q * d) := by ring
  rw [reorder]

theorem roundDiv_lt_iff {a d q : Nat} (hd : 0 < d)
    : roundDiv a d < q ↔ 2 * a + d < 2 * (q * d) := by
  have h := @le_roundDiv_iff a d q hd
  omega

theorem roundDiv_anti (a : Nat) {d e : Nat} (hd : 0 < d) (h : d ≤ e)
    : roundDiv a e ≤ roundDiv a d := by
  rw [le_roundDiv_iff hd]
  have bound := (@le_roundDiv_iff a e _ (by omega)).mp (Nat.le_refl _)
  cases hq : roundDiv a e with
  | zero => omega
  | succ q =>
    rw [hq] at bound
    have shrink : (2 * q + 1) * d ≤ (2 * q + 1) * e := Nat.mul_le_mul_left _ h
    have atE : 2 * ((q + 1) * e) = (2 * q + 1) * e + e := by ring
    have atD : 2 * ((q + 1) * d) = (2 * q + 1) * d + d := by ring
    omega

/-!
One step of the accumulator: the remainder grows by a slope that is at most the divisor, and where
it reaches the divisor the quotient takes one step.
-/

theorem roundDiv_add_of_carry {a d s : Nat} (hs : s ≤ d) (hd : 0 < d) (h : d ≤ roundRem a d + s)
    : roundDiv (a + s) d = roundDiv a d + 1 ∧ roundRem (a + s) d = roundRem a d + s - d := by
  have split := roundDiv_mul_add_roundRem a d
  have bound := roundRem_lt a hd
  have total : a + s + d / 2 = (roundRem a d + s - d) + d * (roundDiv a d + 1) := by
    rw [Nat.mul_add]
    omega
  unfold roundDiv roundRem at *
  rw [total, Nat.add_mul_div_left _ _ hd, Nat.add_mul_mod_self_left]
  rw [Nat.div_eq_of_lt (by omega), Nat.mod_eq_of_lt (by omega)]
  omega

theorem roundDiv_add_of_no_carry {a d s : Nat} (hd : 0 < d) (h : roundRem a d + s < d)
    : roundDiv (a + s) d = roundDiv a d ∧ roundRem (a + s) d = roundRem a d + s := by
  have split := roundDiv_mul_add_roundRem a d
  have total : a + s + d / 2 = (roundRem a d + s) + d * roundDiv a d := by omega
  unfold roundDiv roundRem at *
  rw [total, Nat.add_mul_div_left _ _ hd, Nat.add_mul_mod_self_left]
  rw [Nat.div_eq_of_lt h, Nat.mod_eq_of_lt h]
  omega

end Numerics
