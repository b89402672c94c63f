import ZZ9000.Concurrency.Pool

/-!
This module contains Hoare triples for coroutines. A section that a coroutine is in the middle of
has to respect the guarantee of the contract from where it began, so the triples of its parts
compose if the guarantee is a preorder.
-/

namespace Concurrency

variable {σ μ ω ρ α β : Type}

/-- The guarantee covers sections that are made of sections. -/
structure Contract.Closed (C : Contract σ μ ω) : Prop where
  refl : ∀ s, C.guar s s
  trans : ∀ s s' s'', C.guar s s' → C.guar s' s'' → C.guar s s''

namespace Coroutine

variable {C : Contract σ μ ω} {I J : σ → Prop}

/-- From where `I` holds, the coroutine meets the contract, and `J` holds when it returns. -/
def Triple (C : Contract σ μ ω) (I : σ → Prop) (c : Coroutine σ μ ω ρ α) (J : α → σ → Prop)
    : Prop :=
  ∀ s₀ s, C.guar s₀ s → I s → c.wp C (fun a s₀ s => C.guar s₀ s ∧ J a s) s₀ s

theorem triple_pure {a : α} {J : α → σ → Prop} (h : ∀ s, I s → J a s)
    : Triple C I (pure a : Coroutine σ μ ω ρ α) J := by
  intro s₀ s hguar hs
  exact ⟨hguar, h s hs⟩

theorem triple_bind {c : Coroutine σ μ ω ρ α} {f : α → Coroutine σ μ ω ρ β} {J : α → σ → Prop}
    {K : β → σ → Prop} (hc : Triple C I c J) (hf : ∀ a, Triple C (J a) (f a) K)
    : Triple C I (c >>= f) K := by
  intro s₀ s hguar hs
  rw [wp_bind]
  apply wp_mono (hc s₀ s hguar hs)
  intro a s₁ s₂ h
  exact hf a s₁ s₂ h.1 h.2

theorem triple_map {c : Coroutine σ μ ω ρ α} {f : α → β} {J : β → σ → Prop}
    (hc : Triple C I c (fun a => J (f a)))
    : Triple C I (f <$> c) J := by
  intro s₀ s hguar hs
  rw [wp_map]
  exact hc s₀ s hguar hs

theorem triple_mono {c : Coroutine σ μ ω ρ α} {K : σ → Prop} {J L : α → σ → Prop}
    (hc : Triple C K c L) (hI : ∀ s, I s → K s) (hJ : ∀ a s, L a s → J a s)
    : Triple C I c J := by
  intro s₀ s hguar hs
  apply wp_mono (hc s₀ s hguar (hI s hs))
  intro a s₁ s₂ h
  exact ⟨h.1, hJ a s₂ h.2⟩

theorem triple_of_pre {c : Coroutine σ μ ω ρ α} {K : σ → Prop} {J : α → σ → Prop}
    (hI : ∀ s, I s → K s) (hc : Triple C K c J)
    : Triple C I c J := by
  apply triple_mono hc hI
  intro a s h
  exact h

/-- What a precondition says without the state is a hypothesis. -/
theorem triple_of_fact {c : Coroutine σ μ ω ρ α} {p : Prop} {J : α → σ → Prop}
    (hp : ∀ s, I s → p) (hc : p → Triple C I c J)
    : Triple C I c J := by
  intro s₀ s hguar hs
  exact hc (hp s hs) s₀ s hguar hs

theorem triple_exists {c : Coroutine σ μ ω ρ α} {K : β → σ → Prop} {J : α → σ → Prop}
    (hc : ∀ b, Triple C (K b) c J)
    : Triple C (fun s => ∃ b, K b s) c J := by
  intro s₀ s hguar hs
  obtain ⟨b, hb⟩ := hs
  exact hc b s₀ s hguar hb

theorem triple_or {c : Coroutine σ μ ω ρ α} {K L : σ → Prop} {J : α → σ → Prop}
    (hK : Triple C K c J) (hL : Triple C L c J)
    : Triple C (fun s => K s ∨ L s) c J := by
  intro s₀ s hguar hs
  cases hs with
  | inl hs => exact hK s₀ s hguar hs
  | inr hs => exact hL s₀ s hguar hs

theorem triple_ite {p : Prop} [Decidable p] {c d : Coroutine σ μ ω ρ α} {J : α → σ → Prop}
    (hc : p → Triple C I c J) (hd : ¬p → Triple C I d J)
    : Triple C I (if p then c else d) J := by
  split
  . next h => exact hc h
  . next h => exact hd h

theorem triple_read {J : σ → σ → Prop} (h : ∀ s, I s → J s s)
    : Triple C I (read : Coroutine σ μ ω ρ σ) J := by
  intro s₀ s hguar hs
  exact ⟨hguar, h s hs⟩

theorem triple_modify (hC : C.Closed) {f : σ → σ} {J : Unit → σ → Prop}
    (h : ∀ s, I s → C.guar s (f s) ∧ J () (f s))
    : Triple C I (modify f : Coroutine σ μ ω ρ Unit) J := by
  intro s₀ s hguar hs
  exact ⟨hC.trans s₀ s (f s) hguar (h s hs).1, (h s hs).2⟩

theorem triple_answer {J : ρ → σ → Prop} (h : ∀ s r, I s → J r s)
    : Triple C I (answer : Coroutine σ μ ω ρ ρ) J := by
  intro s₀ s hguar hs r
  exact ⟨hguar, h s r hs⟩

theorem triple_note {m : μ} {J : Unit → σ → Prop}
    (h : ∀ s, I s → C.assume m s → C.assert m s ∧ J () s)
    : Triple C I (note m : Coroutine σ μ ω ρ Unit) J := by
  intro s₀ s hguar hs hassume
  have := h s hs hassume
  exact ⟨this.1, hguar, this.2⟩

theorem triple_pause (hC : C.Closed) {w : ω} {J : Unit → σ → Prop} (hpark : ∀ s, I s → C.park w s)
    (hwake : ∀ s, C.wake w s → J () s)
    : Triple C I (pause w : Coroutine σ μ ω ρ Unit) J := by
  intro s₀ s hguar hs
  refine ⟨hguar, hpark s hs, ?_⟩
  intro s' hs'
  exact ⟨hC.refl s', hwake s' hs'⟩

end Coroutine

namespace Pool

variable {τ κ σ μ ω ρ : Type} {P : Pool τ κ σ μ ω ρ}

/-- An outline is a proof if the calls satisfy their triples and it is stable. -/
theorem valid_of_triple {A : P.Annotation} (hclosed : ∀ t, (A.contract t).Closed)
    (hcall : ∀ t c, Coroutine.Triple (A.contract t)
      (fun s => A.inv s ∧ A.idle t s ∧ P.canCall t c s = true) (P.body t c)
      (fun _ s => A.inv s ∧ A.idle t s))
    (hstable : ∀ t u w s s', t ≠ u → A.guar u s s' → A.inv s' → A.park t w s → A.park t w s')
    (hidle : ∀ t u s s', t ≠ u → A.guar u s s' → A.inv s' → A.idle t s → A.idle t s')
    : A.Valid where
  call := by
    intro t c s hinv hs hcan
    have := hcall t c s s ((hclosed t).refl s) ⟨hinv, hs, hcan⟩
    apply Coroutine.wp_mono this
    intro _ s₀ s h
    exact h
  stable := hstable
  stable_idle := hidle

variable [DecidableEq τ]

/-- The rule for runs: the invariant holds, and every thread is where its outline says. -/
theorem follows_run_of_triple {A : P.Annotation} {s : σ} {as : List (Action τ κ ρ)}
    {marks : Trace σ μ} {st : P.State} (hvalid : A.Valid) (hinv : A.inv s)
    (hidle : ∀ t, A.idle t s) (hrun : P.run (.start P s) as = some (marks, st))
    (hassume : ∀ m ∈ marks, A.assume m.1 m.2)
    : (∀ m ∈ marks, A.assert m.1 m.2) ∧ A.Follows st := by
  have hstart : A.Follows (.start P s) := Annotation.follows_start hinv hidle
  exact Annotation.follows_run hvalid hstart hrun hassume

def Action.thread (a : Action τ κ ρ) : τ :=
  match a with
  | .call t _ _ => t
  | .resume t _ => t

theorem parked_runSection {st st' : P.State} {t u : τ} {c : Coroutine σ μ ω ρ Unit}
    {answers : List ρ} {marks : Trace σ μ} (hu : t ≠ u)
    (h : P.runSection st u c answers = some (marks, st'))
    : st'.parked t = st.parked t := by
  unfold runSection at h
  split at h
  . contradiction
  . simp only [Option.some.injEq, Prod.mk.injEq] at h
    rw [← h.2]
    exact Function.update_of_ne hu _ _
  . simp only [Option.some.injEq, Prod.mk.injEq] at h
    rw [← h.2]
    exact Function.update_of_ne hu _ _

theorem parked_step {st st' : P.State} {a : Action τ κ ρ} {marks : Trace σ μ} {t : τ}
    (hstep : P.step st a = some (marks, st')) (ht : t ≠ a.thread)
    : st'.parked t = st.parked t := by
  cases a with
  | call u c r =>
    simp only [step] at hstep
    split at hstep
    . contradiction
    . split at hstep
      . exact parked_runSection ht hstep
      . contradiction
  | resume u r =>
    simp only [step] at hstep
    split at hstep
    . contradiction
    . split at hstep
      . exact parked_runSection ht hstep
      . contradiction

/-- A thread that no action is about is where it was. -/
theorem parked_run {st st' : P.State} {as : List (Action τ κ ρ)} {marks : Trace σ μ} {t : τ}
    (hrun : P.run st as = some (marks, st')) (ht : ∀ a ∈ as, t ≠ a.thread)
    : st'.parked t = st.parked t := by
  induction as generalizing st marks with
  | nil =>
    simp only [run, Option.some.injEq, Prod.mk.injEq] at hrun
    rw [hrun.2]
  | cons a as ih =>
    simp only [run] at hrun
    split at hrun
    . contradiction
    . next marks₁ st₁ hstep =>
      split at hrun
      . contradiction
      . next marks₂ st₂ hrest =>
        simp only [Option.some.injEq, Prod.mk.injEq] at hrun
        rw [hrun.2] at hrest
        have hlater := ih hrest fun a' ha' => ht a' (List.mem_cons_of_mem _ ha')
        rw [hlater]
        exact parked_step hstep (ht a List.mem_cons_self)

/-- All threads are idle after a run if those are that it was about. -/
theorem idle_run {st : P.State} {s : σ} {as : List (Action τ κ ρ)} {marks : Trace σ μ}
    (ts : List τ) (hrun : P.run (.start P s) as = some (marks, st))
    (hts : ∀ a ∈ as, a.thread ∈ ts) (hidle : ∀ t ∈ ts, (st.parked t).isNone = true) (t : τ)
    : st.parked t = none := by
  by_cases ht : t ∈ ts
  . exact Option.isNone_iff_eq_none.mp (hidle t ht)
  . have hsame : st.parked t = (State.start P s).parked t := by
      apply parked_run hrun
      intro a ha heq
      apply ht
      rw [heq]
      exact hts a ha
    rw [hsame]
    rfl

end Pool

end Concurrency
