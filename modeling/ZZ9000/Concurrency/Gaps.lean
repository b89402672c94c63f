import Mathlib.Tactic.Common

/-!
This module contains states that other parties change in the gaps between the accesses of one party.
The state carries what will happen in the next gaps, so a program over it stays a plain function.
-/

namespace Concurrency

/-- A state `σ` with the events `ε` that happen in each of the next gaps. -/
class Interrupted (σ : Type) (ε : outParam Type) where
  gaps : σ → List (List ε)
  setGaps : σ → List (List ε) → σ
  event : σ → ε → σ
  gaps_setGaps : ∀ s gaps', gaps (setGaps s gaps') = gaps'
  gaps_event : ∀ s e, gaps (event s e) = gaps s

namespace Interrupted

variable {σ ε : Type} [Interrupted σ ε] {s : σ}

def events (s : σ) (es : List ε) : σ :=
  match es with
  | [] => s
  | e :: es => events (event s e) es

/-- What happens up to the next access. -/
def elapse (s : σ) : σ :=
  match gaps s with
  | [] => s
  | es :: rest => events (setGaps s rest) es

theorem gaps_events (s : σ) (es : List ε)
    : gaps (events s es) = gaps s := by
  induction es generalizing s with
  | nil => rfl
  | cons e es ih =>
    unfold events
    rw [ih, gaps_event]

theorem gaps_elapse (s : σ)
    : gaps (elapse s) = (gaps s).tail := by
  unfold elapse
  split
  . next heq => simp [heq]
  . next heq => simp [heq, gaps_events, gaps_setGaps]

/-- What the events of the next gap and the gap itself keep, holds after it. -/
theorem elapse_induction_of {p : σ → Prop} {q : ε → Prop} (hevent : ∀ s e, q e → p s → p (event s e))
    (hgaps : ∀ s gaps, p s → p (setGaps s gaps)) (hq : ∀ es ∈ gaps s, ∀ e ∈ es, q e) (h : p s)
    : p (elapse s) := by
  have hevents (s : σ) (es : List ε) (hq : ∀ e ∈ es, q e) (h : p s) : p (events s es) := by
    induction es generalizing s with
    | nil => exact h
    | cons e es ih =>
      apply ih
      . intro e' he'
        exact hq e' (List.mem_cons_of_mem _ he')
      . apply hevent
        . exact hq e List.mem_cons_self
        . exact h
  unfold elapse
  split
  . exact h
  . next es rest heq =>
    apply hevents
    . apply hq
      simp [heq]
    . apply hgaps
      exact h

theorem elapse_induction {p : σ → Prop} (hevent : ∀ s e, p s → p (event s e))
    (hgaps : ∀ s gaps, p s → p (setGaps s gaps)) (h : p s)
    : p (elapse s) := by
  apply elapse_induction_of (p := p) (q := fun _ => True)
  . intro s e _
    apply hevent
  . exact hgaps
  . intro _ _ _ _
    trivial
  . exact h

end Interrupted

end Concurrency
