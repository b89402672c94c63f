import ZZ9000.Concurrency.Exits

/-!
This module contains programs that observe a state which others change before each of their accesses.
What may happen to the state is a preorder, and what it cannot undo is known for good.
-/

namespace Concurrency

/-- A preorder on the states that every event of the environment respects. -/
structure Course {σ ε : Type} (event : σ → ε → σ) (R : σ → σ → Prop) : Prop where
  refl : ∀ s, R s s
  trans : ∀ s s' s'', R s s' → R s' s'' → R s s''
  event : ∀ s e, R s (event s e)

/-- Nothing that may happen to the state undoes it. -/
def Lasting {σ : Type} (R : σ → σ → Prop) (I : σ → Prop) : Prop :=
  ∀ s s', R s s' → I s → I s'

section Lasting

variable {σ ε : Type} {event : σ → ε → σ} {R : σ → σ → Prop} {I J : σ → Prop}

theorem course_foldl (hR : Course event R) (s : σ) (es : List ε)
    : R s (es.foldl event s) := by
  induction es generalizing s with
  | nil => exact hR.refl s
  | cons e es ih => exact hR.trans s _ _ (hR.event s e) (ih _)

end Lasting

namespace Coroutine

variable {σ ε ρ α : Type} {event : σ → ε → σ} {R : σ → σ → Prop} {I : σ → Prop}

/-- The events of the environment up to the next access. -/
def happen (event : σ → ε → σ) (events : ρ → List ε) : Coroutine σ Empty Empty ρ ρ := do
  let r ← answer
  modify fun s => (events r).foldl event s
  return r

variable {assume assert : Empty → σ → Prop}

theorem triple_happen (hR : Course event R) (events : ρ → List ε) (hI : Lasting R I)
    : Triple (.solo assume assert) I (happen event events) (fun _ => I) := by
  apply triple_bind (J := fun _ => I)
  . apply triple_answer
    intro s _ hs
    exact hs
  . intro r
    apply triple_bind (J := fun _ => I)
    . apply triple_modify_solo
      intro s hs
      exact hI s _ (course_foldl hR s _) hs
    . intro _
      apply triple_pure
      intro s hs
      exact hs

/-- An access that reads the state gives what the state is at that moment. -/
theorem triple_observe (hR : Course event R) (events : ρ → List ε) (hI : Lasting R I) (f : σ → α)
    : Triple (.solo assume assert) I
        (do
          let _ ← happen event events
          return f (← read))
        (fun a s => I s ∧ a = f s) := by
  apply triple_bind (triple_happen hR events hI)
  intro _
  apply triple_bind (J := fun r s => I s ∧ r = s)
  . apply triple_read
    intro s hs
    exact ⟨hs, rfl⟩
  . intro r
    apply triple_pure
    intro s hs
    exact ⟨hs.1, by rw [hs.2]⟩

/-- An access that writes is a step of the program between those of the environment. -/
theorem triple_act (hR : Course event R) (events : ρ → List ε) (hI : Lasting R I) {f : σ → σ}
    {J : σ → Prop} (hf : ∀ s, I s → J (f s))
    : Triple (.solo assume assert) I
        (do
          let _ ← happen event events
          modify f)
        (fun _ => J) := by
  apply triple_bind (triple_happen hR events hI)
  intro _
  apply triple_modify_solo
  exact hf

/-- The program takes these answers, gives `a` and leaves `s'`, whatever comes after it. -/
def Runs (c : Coroutine σ Empty Empty ρ α) (s : σ) (answers : List ρ) (a : α) (s' : σ) : Prop :=
  ∀ (β : Type) (f : α → Coroutine σ Empty Empty ρ β) (rest : List ρ),
    (c.bind f).exec s (answers ++ rest) = (f a).exec s' rest

section Runs

variable {β ε' : Type} {s s' s'' : σ} {as bs : List ρ} {a : α} {b : β}

theorem runs_pure : Runs (pure a : Coroutine σ Empty Empty ρ α) s [] a s :=
  fun _ _ _ => rfl

theorem runs_bind {c : Coroutine σ Empty Empty ρ α} {f : α → Coroutine σ Empty Empty ρ β}
    (hc : Runs c s as a s') (hf : Runs (f a) s' bs b s'')
    : Runs (c >>= f) s (as ++ bs) b s'' := by
  intro γ g rest
  show ((c.bind f).bind g).exec s (as ++ bs ++ rest) = _
  rw [bind_assoc', List.append_assoc, hc γ _ _]
  exact hf γ g rest

theorem runs_observe (events : ρ → List ε) (f : σ → α) (r : ρ)
    : Runs
        (do
          let _ ← happen event events
          return f (← read))
        s [r] (f ((events r).foldl event s)) ((events r).foldl event s) :=
  fun _ _ _ => rfl

theorem runs_act (events : ρ → List ε) (f : σ → σ) (r : ρ)
    : Runs
        (do
          let _ ← happen event events
          modify f)
        s [r] () (f ((events r).foldl event s)) :=
  fun _ _ _ => rfl

theorem exec_of_runs {c : Coroutine σ Empty Empty ρ α} (h : Runs c s as a s')
    : c.exec s as = some ([], s', .done a) := by
  have hthis := h α .ret []
  rw [bind_ret, List.append_nil] at hthis
  exact hthis

end Runs

end Coroutine

end Concurrency
