import Mathlib.Tactic.Common

/-!
This module contains folds over the full blocks of a list. A hash that buffers the block its input
has not completed yet computes such a fold, wherever the pieces of its input end.
-/

namespace Streams

variable {α σ : Type}

/-- The state after the full blocks of `l`, and the elements after them. -/
def foldBlocks (size : Nat) (f : σ → List α → σ) (s : σ) (l : List α) : σ × List α :=
  if 0 < size ∧ size ≤ l.length then
    foldBlocks size f (f s (l.take size)) (l.drop size)
  else
    (s, l)
termination_by l.length
decreasing_by
  rw [List.length_drop]
  omega

variable {size : Nat} {f : σ → List α → σ}

theorem foldBlocks_of_lt {l : List α} (h : l.length < size) (s : σ)
    : foldBlocks size f s l = (s, l) := by
  rw [foldBlocks, if_neg (by omega)]

theorem foldBlocks_of_le {l : List α} (hsize : 0 < size) (h : size ≤ l.length) (s : σ)
    : foldBlocks size f s l = foldBlocks size f (f s (l.take size)) (l.drop size) := by
  rw [foldBlocks, if_pos ⟨hsize, h⟩]

theorem foldBlocks_block {block : List α} (hsize : 0 < size) (h : block.length = size) (s : σ)
    (l : List α)
    : foldBlocks size f s (block ++ l) = foldBlocks size f (f s block) l := by
  rw [foldBlocks_of_le hsize (by rw [List.length_append]; omega)]
  rw [← h, List.take_left, List.drop_left]

theorem length_foldBlocks (hsize : 0 < size) (s : σ) (l : List α)
    : (foldBlocks size f s l).2.length = l.length % size := by
  fun_induction foldBlocks size f s l with
  | case1 s l h ih =>
    rw [ih, List.length_drop]
    exact (Nat.mod_eq_sub_mod h.2).symm
  | case2 s l h =>
    have hlt := Nat.lt_of_not_le (not_and.mp h hsize)
    exact (Nat.mod_eq_of_lt hlt).symm

/-- Only what the first part leaves over matters for the second. -/
theorem foldBlocks_append (hsize : 0 < size) (s : σ) (l l' : List α)
    : foldBlocks size f s (l ++ l')
        =
      foldBlocks size f (foldBlocks size f s l).1 ((foldBlocks size f s l).2 ++ l') := by
  fun_induction foldBlocks size f s l with
  | case1 s l h ih =>
    rw [← ih]
    rw [foldBlocks_of_le hsize (by rw [List.length_append]; omega)]
    rw [List.take_append_of_le_length h.2, List.drop_append_of_le_length h.2]
  | case2 s l h => rfl

end Streams
