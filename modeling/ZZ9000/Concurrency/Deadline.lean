import Mathlib.Data.Nat.Count
import Mathlib.Tactic.Common

/-!
This module contains deadlines over a sequence of turns: an event that never stays away for `limit`
turns in a row has happened often enough.
-/

namespace Concurrency

variable (event : Nat → Bool)

/-- The last of the first `n` turns that has the event. -/
def latest (n : Nat) : Option Nat := (List.range n).reverse.find? event

/-- How often the event has happened in the first `n` turns. -/
def occurrences (n : Nat) : Nat := Nat.count (fun m => event m = true) n

/-- The last `limit` of the first `n` turns are without the event. -/
structure Overdue (limit n : Nat) : Prop where
  elapsed : limit ≤ n
  missing : ∀ m, n ≤ m + limit → m < n → event m = false

theorem latest_succ (n : Nat)
    : latest event (n + 1) = if event n then some n else latest event n := by
  unfold latest
  rw [List.range_succ, List.reverse_append, List.reverse_singleton, List.singleton_append]
  rw [List.find?_cons]
  cases event n with
  | false => rfl
  | true => rfl

theorem occurrences_succ (n : Nat)
    : occurrences event (n + 1) = occurrences event n + if event n then 1 else 0 := by
  unfold occurrences
  exact Nat.count_succ _ n

theorem occurrences_mono {m n : Nat} (h : m ≤ n) : occurrences event m ≤ occurrences event n := by
  unfold occurrences
  exact Nat.count_monotone _ h

theorem occurrences_le (n : Nat) : occurrences event n ≤ n := by
  unfold occurrences
  exact Nat.count_le _

variable {event}

theorem latest_eq_some {n m : Nat} (h : latest event n = some m)
    : m < n ∧ event m = true ∧ ∀ j, m < j → j < n → event j = false := by
  induction n with
  | zero => contradiction
  | succ n ih =>
    rw [latest_succ] at h
    split at h
    . next hevent =>
      rw [Option.some.injEq] at h
      subst h
      refine ⟨Nat.lt_succ_self n, hevent, ?_⟩
      intro j _ _
      omega
    . next hno =>
      have ih := ih h
      refine ⟨Nat.lt_succ_of_lt ih.1, ih.2.1, ?_⟩
      intro j hm hj
      cases Nat.lt_or_eq_of_le (Nat.le_of_lt_succ hj) with
      | inl hold => exact ih.2.2 j hm hold
      | inr hnew =>
        rw [hnew]
        exact Bool.eq_false_iff.mpr hno

theorem latest_eq_none {n : Nat} (h : latest event n = none) (m : Nat) (hm : m < n)
    : event m = false := by
  induction n with
  | zero => omega
  | succ n ih =>
    rw [latest_succ] at h
    split at h
    . contradiction
    . next hno =>
      cases Nat.lt_or_eq_of_le (Nat.le_of_lt_succ hm) with
      | inl hold => exact ih h hold
      | inr hnew =>
        rw [hnew]
        exact Bool.eq_false_iff.mpr hno

/-- The turns up to the last event, none if there was no event. -/
def served (event : Nat → Bool) (n : Nat) : Nat :=
  match latest event n with
  | none => 0
  | some m => m + 1

theorem served_succ (n : Nat)
    : served event (n + 1) = if event n then n + 1 else served event n := by
  unfold served
  rw [latest_succ]
  cases event n with
  | false => rfl
  | true => rfl

theorem served_le (n : Nat) : served event n ≤ n := by
  unfold served
  split
  . exact Nat.zero_le n
  . next m hlatest => exact (latest_eq_some hlatest).1

/-- What a counter of the turns since the last event tells. -/
theorem overdue_iff {limit n : Nat}
    : Overdue event limit n ↔ limit ≤ n - served event n := by
  unfold served
  constructor
  . intro h
    split
    . exact h.elapsed
    . next m hlatest =>
      have hlast := latest_eq_some hlatest
      by_cases hm : n ≤ m + limit
      . have hmissing := h.missing m hm hlast.1
        rw [hlast.2.1] at hmissing
        contradiction
      . omega
  . intro h
    split at h
    . next hlatest =>
      refine ⟨h, ?_⟩
      intro m _ hm
      exact latest_eq_none hlatest m hm
    . next m hlatest =>
      have hlast := latest_eq_some hlatest
      refine ⟨by omega, ?_⟩
      intro j hj hn
      exact hlast.2.2 j (by omega) hn

/-- Each event puts the deadline off by `limit` turns at most. -/
theorem lt_of_not_overdue {limit : Nat} (n : Nat)
    (h : ∀ m ≤ n, ¬Overdue event limit m)
    : n < (occurrences event n + 1) * limit := by
  induction n using Nat.strongRecOn with
  | ind n ih =>
    by_cases helapsed : limit ≤ n
    . have hmissing : ¬∀ m, n ≤ m + limit → m < n → event m = false :=
        fun hall => h n (Nat.le_refl n) ⟨helapsed, hall⟩
      push Not at hmissing
      obtain ⟨m, hlate, hm, hevent⟩ := hmissing
      have ih := ih m hm (fun j hj => h j (by omega))
      have hone := occurrences_mono event hm
      rw [occurrences_succ, if_pos (Bool.eq_true_of_not_eq_false hevent)] at hone
      calc
        n ≤ m + limit := hlate
        _ < (occurrences event m + 1) * limit + limit := Nat.add_lt_add_right ih limit
        _ = (occurrences event m + 1 + 1) * limit := (Nat.succ_mul _ limit).symm
        _ ≤ (occurrences event n + 1) * limit :=
          Nat.mul_le_mul_right limit (Nat.succ_le_succ hone)
    . have hone : limit ≤ (occurrences event n + 1) * limit :=
        Nat.le_mul_of_pos_left limit (Nat.succ_pos _)
      omega

end Concurrency
