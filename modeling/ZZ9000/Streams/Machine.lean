import Mathlib.Data.List.Basic

/-!
This module contains machines that read a stream element by element, and calls that read it in pieces.
A call that does to a piece what the machine does to its elements does not see where the pieces end.
-/

namespace Streams

/-- A machine that writes some output for every element it reads. -/
structure Machine (σ α β : Type) where
  step : σ → α → σ × List β

namespace Machine

variable {σ α β : Type} (M : Machine σ α β)

/-- The state after some elements. -/
def state (s : σ) (xs : List α) : σ :=
  match xs with
  | [] => s
  | x :: xs => state (M.step s x).1 xs

/-- What was written for some elements. -/
def output (s : σ) (xs : List α) : List β :=
  match xs with
  | [] => []
  | x :: xs => (M.step s x).2 ++ output (M.step s x).1 xs

@[simp] theorem state_nil (s : σ) : M.state s [] = s := rfl

@[simp] theorem output_nil (s : σ) : M.output s [] = [] := rfl

theorem state_cons (s : σ) (x : α) (xs : List α)
    : M.state s (x :: xs) = M.state (M.step s x).1 xs := rfl

theorem output_cons (s : σ) (x : α) (xs : List α)
    : M.output s (x :: xs) = (M.step s x).2 ++ M.output (M.step s x).1 xs := rfl

theorem state_append (s : σ) (xs ys : List α)
    : M.state s (xs ++ ys) = M.state (M.state s xs) ys := by
  induction xs generalizing s with
  | nil => rfl
  | cons x xs ih =>
    rw [List.cons_append, state_cons, state_cons]
    apply ih

theorem output_append (s : σ) (xs ys : List α)
    : M.output s (xs ++ ys) = M.output s xs ++ M.output (M.state s xs) ys := by
  induction xs generalizing s with
  | nil => rfl
  | cons x xs ih =>
    rw [List.cons_append, output_cons, output_cons, state_cons]
    rw [ih, List.append_assoc]

/-- The machine reads some elements, writes some and ends in a state. -/
def Run (s : σ) (xs : List α) (ys : List β) (t : σ) : Prop := M.state s xs = t ∧ M.output s xs = ys

theorem run (s : σ) (xs : List α) : M.Run s xs (M.output s xs) (M.state s xs) := ⟨rfl, rfl⟩

variable {M} {s t u : σ} {xs xs' : List α} {ys ys' : List β}

theorem Run.nil : M.Run s [] [] s := ⟨rfl, rfl⟩

theorem Run.cons {x : α} (hstep : M.step s x = (t, ys)) (h : M.Run t xs ys' u)
    : M.Run s (x :: xs) (ys ++ ys') u := by
  unfold Run
  rw [state_cons, output_cons, hstep, h.1, h.2]
  trivial

theorem Run.silent {x : α} (hstep : M.step s x = (t, [])) (h : M.Run t xs ys u)
    : M.Run s (x :: xs) ys u := by
  rw [← List.nil_append ys]
  exact Run.cons hstep h

theorem Run.single {x : α} (hstep : M.step s x = (t, ys)) : M.Run s [x] ys t := by
  have h := Run.cons hstep (Run.nil)
  rw [List.append_nil] at h
  exact h

theorem Run.append (h : M.Run s xs ys t) (h' : M.Run t xs' ys' u)
    : M.Run s (xs ++ xs') (ys ++ ys') u := by
  unfold Run
  rw [state_append, output_append, h.1, h.2, h'.1, h'.2]
  trivial

/-- Elements that leave the machine where it was, one block after the other. -/
theorem Run.flatMap {ι : Type} {input : ι → List α} {written : ι → List β} {is : List ι}
    (h : ∀ i ∈ is, M.Run s (input i) (written i) s)
    : M.Run s (is.flatMap input) (is.flatMap written) s := by
  induction is with
  | nil => exact Run.nil
  | cons i is ih =>
    rw [List.forall_mem_cons] at h
    rw [List.flatMap_cons, List.flatMap_cons]
    apply h.1.append
    exact ih h.2

/-- A state that nothing leads out of and in which nothing is written. -/
def Halted (M : Machine σ α β) (s : σ) : Prop := ∀ x, M.step s x = (s, [])

theorem Halted.run (h : M.Halted s) (xs : List α) : M.Run s xs [] s := by
  induction xs with
  | nil => exact Run.nil
  | cons x xs ih => exact Run.cons (h x) ih

end Machine

end Streams
