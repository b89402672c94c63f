import ZZ9000.Concurrency.Triple

/-!
This module contains coroutines that have no windows: programs of one task that ask the environment
for everything they do not know, for example what the rest of the world did before an access. They
run to their end in one section.
-/

namespace Concurrency

variable {σ μ ω ρ α β : Type}

/-- The contract of a task that shares its state with nobody between its answers. -/
def Contract.solo (assume assert : μ → σ → Prop) : Contract σ μ Empty where
  assume := assume
  assert := assert
  park := fun w _ => w.elim
  wake := fun w _ => w.elim
  guar := fun _ _ => True

theorem Contract.solo_closed (assume assert : μ → σ → Prop)
    : (Contract.solo assume assert).Closed where
  refl := by
    intro s
    trivial
  trans := by
    intro s s' s'' _ _
    trivial

/-- Make at most `n` attempts, until one of them succeeds. -/
def attempts {m : Type → Type} [Monad m] (n : Nat) (c : m (Option α)) : m (Option α) :=
  match n with
  | 0 => pure none
  | n + 1 => do
    match ← c with
    | some a => pure (some a)
    | none => attempts n c

/-- Take the steps of a list in order. -/
def steps {m : Type → Type} [Monad m] (f : β → m Unit) (xs : List β) : m Unit :=
  match xs with
  | [] => pure ()
  | x :: xs => do
    f x
    steps f xs

namespace Coroutine

variable {C : Contract σ μ ω} {I : σ → Prop}

theorem triple_attempts {c : Coroutine σ μ ω ρ (Option α)} {J : α → σ → Prop}
    (hc : Triple C I c (fun r s => (r = none → I s) ∧ ∀ a, r = some a → J a s)) (n : Nat)
    : Triple C I (attempts n c) (fun r s => (r = none → I s) ∧ ∀ a, r = some a → J a s) := by
  induction n with
  | zero =>
    apply triple_pure
    intro s hs
    simp [hs]
  | succ n ih =>
    apply triple_bind hc
    intro r
    cases r with
    | none =>
      apply triple_of_pre _ ih
      intro s hs
      exact hs.1 rfl
    | some a =>
      apply triple_pure
      intro s hs
      simp [hs.2 a rfl]

/-- An invariant of one step is one of a run. -/
theorem triple_steps {f : β → Coroutine σ μ ω ρ Unit}
    (hf : ∀ x, Triple C I (f x) (fun _ => I)) (xs : List β)
    : Triple C I (steps f xs) (fun _ => I) := by
  induction xs with
  | nil =>
    apply triple_pure
    intro s hs
    exact hs
  | cons x xs ih =>
    apply triple_bind (hf x)
    intro _
    exact ih

theorem triple_modify_solo {assume assert : μ → σ → Prop} {f : σ → σ} {J : σ → Prop}
    (h : ∀ s, I s → J (f s))
    : Triple (.solo assume assert) I (modify f : Coroutine σ μ Empty ρ Unit) (fun _ => J) := by
  apply triple_modify (Contract.solo_closed _ _)
  intro s hs
  exact ⟨trivial, h s hs⟩

/-- The rule for runs of a task that is on its own. -/
theorem exec_of_triple {assume assert : μ → σ → Prop} {c : Coroutine σ μ Empty ρ α}
    {J : α → σ → Prop} {s s' : σ} {answers : List ρ} {marks : Trace σ μ}
    {stop : Stop σ μ Empty ρ α} (hc : Triple (.solo assume assert) I c J) (hs : I s)
    (hexec : c.exec s answers = some (marks, s', stop)) (hassume : ∀ m ∈ marks, assume m.1 m.2)
    : (∀ m ∈ marks, assert m.1 m.2) ∧ ∃ a, stop = .done a ∧ J a s' := by
  have hwp := hc s s trivial hs
  have h := wp_exec hwp hexec hassume
  refine ⟨h.1, ?_⟩
  cases stop with
  | done a => exact ⟨a, rfl, h.2.2⟩
  | parked w rest => exact w.elim

/-- The run comes to an end that passes the test. -/
def ends (c : Coroutine σ μ Empty ρ α) (s : σ) (answers : List ρ) (test : α → σ → Bool) : Bool :=
  match c.exec s answers with
  | some (_, s', .done a) => test a s'
  | _ => false

theorem exists_of_ends {c : Coroutine σ μ Empty ρ α} {s : σ} {answers : List ρ}
    {test : α → σ → Bool} (h : c.ends s answers test = true)
    : ∃ marks s' a, c.exec s answers = some (marks, s', .done a) ∧ test a s' = true := by
  unfold ends at h
  split at h
  . next marks s' a heq => exact ⟨marks, s', a, heq, h⟩
  . contradiction

end Coroutine

end Concurrency
