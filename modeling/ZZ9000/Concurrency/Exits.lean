import ZZ9000.Concurrency.Solo

/-!
This module contains Hoare triples for coroutines that have early exits. The postcondition of an
exit stands beside the one of the regular end.
-/

namespace Concurrency

namespace Coroutine

variable {σ μ ω ρ ε α β : Type} {C : Contract σ μ ω} {I : σ → Prop}

/-- From where `I` holds, the coroutine ends with `J`, or it exits with `E`. -/
def ExitTriple (C : Contract σ μ ω) (I : σ → Prop) (c : ExceptT ε (Coroutine σ μ ω ρ) α)
    (J : α → σ → Prop) (E : ε → σ → Prop) : Prop :=
  Triple C I c.run (fun r s =>
    match r with
    | .ok a => J a s
    | .error e => E e s)

variable {J : α → σ → Prop} {E : ε → σ → Prop}

theorem exit_pure {a : α} (h : ∀ s, I s → J a s)
    : ExitTriple C I (pure a : ExceptT ε (Coroutine σ μ ω ρ) α) J E := by
  apply triple_pure
  intro s hs
  exact h s hs

theorem exit_throw {e : ε} (h : ∀ s, I s → E e s)
    : ExitTriple C I (throw e : ExceptT ε (Coroutine σ μ ω ρ) α) J E := by
  apply triple_pure
  intro s hs
  exact h s hs

theorem exit_lift {c : Coroutine σ μ ω ρ α} (h : Triple C I c J)
    : ExitTriple C I (ExceptT.lift c : ExceptT ε (Coroutine σ μ ω ρ) α) J E := by
  unfold ExitTriple
  rw [ExceptT.run_lift]
  apply triple_map
  exact h

theorem exit_bind {c : ExceptT ε (Coroutine σ μ ω ρ) α}
    {f : α → ExceptT ε (Coroutine σ μ ω ρ) β} {K : β → σ → Prop} (hc : ExitTriple C I c J E)
    (hf : ∀ a, ExitTriple C (J a) (f a) K E)
    : ExitTriple C I (c >>= f) K E := by
  unfold ExitTriple
  rw [ExceptT.run_bind]
  apply triple_bind hc
  intro r
  cases r with
  | ok a => exact hf a
  | error e =>
    apply triple_pure
    intro s hs
    exact hs

theorem exit_of_pre {c : ExceptT ε (Coroutine σ μ ω ρ) α} {K : σ → Prop} (hI : ∀ s, I s → K s)
    (hc : ExitTriple C K c J E)
    : ExitTriple C I c J E :=
  triple_of_pre hI hc

theorem exit_ite {p : Prop} [Decidable p] {c d : ExceptT ε (Coroutine σ μ ω ρ) α}
    (hc : p → ExitTriple C I c J E) (hd : ¬p → ExitTriple C I d J E)
    : ExitTriple C I (if p then c else d) J E := by
  split
  . next h => exact hc h
  . next h => exact hd h

end Coroutine

end Concurrency
