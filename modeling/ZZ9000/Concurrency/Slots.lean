import Mathlib.Algebra.BigOperators.Group.Finset.Basic
import Mathlib.Algebra.Order.BigOperators.Group.Finset
import Mathlib.Data.Fintype.Basic
import Mathlib.Tactic.Common

/-!
This module contains accounting over tables of slots: the total weight of a table, and how it
changes with one of its slots.
-/

namespace Concurrency

variable {ι α : Type} [Fintype ι]

def total (weight : α → Nat) (slots : ι → α) : Nat := ∑ i, weight (slots i)

theorem le_total (weight : α → Nat) (slots : ι → α) (i : ι)
    : weight (slots i) ≤ total weight slots := by
  unfold total
  apply Finset.single_le_sum (fun j _ => Nat.zero_le (weight (slots j)))
  exact Finset.mem_univ i

theorem total_eq_zero {weight : α → Nat} {slots : ι → α} (h : ∀ i, weight (slots i) = 0)
    : total weight slots = 0 := by
  unfold total
  apply Finset.sum_eq_zero
  intro i _
  apply h

variable [DecidableEq ι]

theorem total_update (weight : α → Nat) (slots : ι → α) (i : ι) (a : α)
    : total weight (Function.update slots i a) + weight (slots i)
        =
      total weight slots + weight a := by
  unfold total
  rw [← Finset.add_sum_erase _ _ (Finset.mem_univ i)]
  rw [← Finset.add_sum_erase _ (fun j => weight (slots j)) (Finset.mem_univ i)]
  have hrest : ∑ j ∈ Finset.univ.erase i, weight (Function.update slots i a j)
      = ∑ j ∈ Finset.univ.erase i, weight (slots j) := by
    apply Finset.sum_congr rfl
    intro j hj
    rw [Function.update_of_ne (Finset.ne_of_mem_erase hj)]
  rw [hrest]
  rw [Function.update_self]
  omega

theorem total_update_of_eq {weight : α → Nat} {slots : ι → α} {i : ι} {a : α}
    (h : weight a = weight (slots i))
    : total weight (Function.update slots i a) = total weight slots := by
  have := total_update weight slots i a
  omega

theorem add_le_total (weight : α → Nat) (slots : ι → α) {i j : ι} (h : i ≠ j)
    : weight (slots i) + weight (slots j) ≤ total weight slots := by
  unfold total
  rw [← Finset.add_sum_erase _ _ (Finset.mem_univ i)]
  apply Nat.add_le_add_left
  apply Finset.single_le_sum (fun k _ => Nat.zero_le (weight (slots k)))
  simp [h.symm]

end Concurrency
