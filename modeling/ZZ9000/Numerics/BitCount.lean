import Mathlib.Data.List.Basic
import Mathlib.Data.Nat.Bitwise

/-!
This module contains the number of bits that are set in a number, and the loop that counts them by
clearing the lowest one again and again.
-/

namespace Numerics

/-- The number of set bits among the low `n` ones. -/
def bitCount (n x : Nat) : Nat := (List.range n).countP fun i => x.testBit i

@[simp] theorem bitCount_zero_left (x : Nat) : bitCount 0 x = 0 := rfl

theorem bitCount_succ (n x : Nat)
    : bitCount (n + 1) x = x % 2 + bitCount n (x / 2) := by
  unfold bitCount
  rw [List.range_succ_eq_map, List.countP_cons, List.countP_map, Nat.add_comm]
  congr 1
  . rw [Nat.testBit_zero]
    split
    . next h =>
      have := of_decide_eq_true h
      omega
    . next h =>
      have := of_decide_eq_false (Bool.not_eq_true _ ▸ h)
      omega
  . apply List.countP_congr
    intro i _
    simp [Function.comp, Nat.testBit_succ]

@[simp] theorem bitCount_zero_right (n : Nat) : bitCount n 0 = 0 := by
  induction n with
  | zero => rfl
  | succ n ih =>
    rw [bitCount_succ]
    simp [ih]

theorem bitCount_le (n x : Nat) : bitCount n x ≤ n := by
  unfold bitCount
  have := @List.countP_le_length _ (fun i => x.testBit i) (List.range n)
  rw [List.length_range] at this
  exact this

/-- Clearing the lowest set bit halves with the number, unless it is the last bit. -/
theorem and_sub_one_even {y : Nat} (h : y ≠ 0)
    : (2 * y) &&& (2 * y - 1) = 2 * (y &&& (y - 1)) := by
  apply Nat.eq_of_testBit_eq
  intro i
  have hodd : 2 * y - 1 = 2 * (y - 1) + 1 := by
    omega
  rw [hodd, Nat.testBit_and]
  cases i with
  | zero => simp [Nat.testBit_zero]
  | succ i =>
    simp only [Nat.testBit_succ]
    rw [Nat.mul_div_cancel_left _ (by omega), Nat.mul_div_cancel_left _ (by omega)]
    rw [Nat.testBit_and]
    congr 2
    omega

theorem and_sub_one_odd (y : Nat)
    : (2 * y + 1) &&& (2 * y + 1 - 1) = 2 * y := by
  apply Nat.eq_of_testBit_eq
  intro i
  rw [Nat.add_sub_cancel, Nat.testBit_and]
  cases i with
  | zero => simp [Nat.testBit_zero]
  | succ i =>
    simp only [Nat.testBit_succ]
    have hhalf : (2 * y + 1) / 2 = 2 * y / 2 := by
      omega
    rw [hhalf, Bool.and_self]

/-- One bit fewer is set when the lowest one has been cleared. -/
theorem bitCount_and_sub_one {n x : Nat} (hx : x ≠ 0) (hn : x < 2 ^ n)
    : bitCount n (x &&& (x - 1)) + 1 = bitCount n x := by
  induction n generalizing x with
  | zero => omega
  | succ n ih =>
    rw [Nat.pow_succ] at hn
    rw [bitCount_succ, bitCount_succ n x]
    cases Nat.mod_two_eq_zero_or_one x with
    | inl heven =>
      have htwice : x = 2 * (x / 2) := by
        omega
      have hhalf := ih (x := x / 2) (by omega) (by omega)
      have hclear := and_sub_one_even (y := x / 2) (by omega)
      rw [← htwice] at hclear
      rw [hclear, Nat.mul_div_cancel_left _ (by omega)]
      omega
    | inr hodd =>
      have htwice : x = 2 * (x / 2) + 1 := by
        omega
      have hclear := and_sub_one_odd (x / 2)
      rw [← htwice] at hclear
      rw [hclear]
      have hhalf : 2 * (x / 2) / 2 = x / 2 := by
        omega
      rw [hhalf]
      omega

end Numerics
