import ZZ9000.Concurrency.Coroutine
import Mathlib.Logic.Function.Basic

/-!
This module runs several coroutines over one shared state: an idle thread may start a call, a parked
thread may be resumed, and between any two of these steps any other thread may take its own. The
central result is the rule `Annotation.follows_run`, which derives what holds in all runs from the
weakest preconditions of the calls.
-/

namespace Concurrency

/-- Threads `τ` that run the calls `κ` over the shared state `σ`. -/
structure Pool (τ κ σ μ ω ρ : Type) where
  body : τ → κ → Coroutine σ μ ω ρ Unit
  canCall : τ → κ → σ → Bool
  canResume : τ → ω → σ → Bool

namespace Pool

variable {τ κ σ μ ω ρ : Type}

structure State (P : Pool τ κ σ μ ω ρ) where
  shared : σ
  parked : τ → Option (ω × Coroutine σ μ ω ρ Unit)

/-- All threads are idle. -/
def State.start (P : Pool τ κ σ μ ω ρ) (s : σ) : P.State where
  shared := s
  parked := fun _ => none

/-- A scheduling decision, together with the answers that the section which it runs will get. -/
inductive Action (τ κ ρ : Type) where
  | call (t : τ) (c : κ) (answers : List ρ)
  | resume (t : τ) (answers : List ρ)

variable (P : Pool τ κ σ μ ω ρ) [DecidableEq τ]

/-- Run a section of the thread `t` and park what is left of it. -/
def runSection (st : P.State) (t : τ) (c : Coroutine σ μ ω ρ Unit) (answers : List ρ)
    : Option (Trace σ μ × P.State) :=
  match c.exec st.shared answers with
  | none => none
  | some (marks, s, .done _) => some (marks, ⟨s, Function.update st.parked t none⟩)
  | some (marks, s, .parked w rest) =>
    some (marks, ⟨s, Function.update st.parked t (some (w, rest))⟩)

def step (st : P.State) (a : Action τ κ ρ) : Option (Trace σ μ × P.State) :=
  match a with
  | .call t c answers =>
    match st.parked t with
    | some _ => none
    | none =>
      if P.canCall t c st.shared then
        P.runSection st t (P.body t c) answers
      else
        none
  | .resume t answers =>
    match st.parked t with
    | none => none
    | some (w, rest) =>
      if P.canResume t w st.shared then
        P.runSection st t rest answers
      else
        none

/-- Take a list of steps, collecting the marks of all of them. -/
def run (st : P.State) (as : List (Action τ κ ρ)) : Option (Trace σ μ × P.State) :=
  match as with
  | [] => some ([], st)
  | a :: as =>
    match P.step st a with
    | none => none
    | some (marks, st) =>
      match run st as with
      | none => none
      | some (marks', st) => some (marks ++ marks', st)

variable {P}

/--
An outline of the proof that a pool keeps an invariant: what each thread may rely on in its windows
and between its calls, and how a section of it may change the shared state.
-/
structure Annotation (P : Pool τ κ σ μ ω ρ) where
  inv : σ → Prop
  assume : μ → σ → Prop
  assert : μ → σ → Prop
  park : τ → ω → σ → Prop
  idle : τ → σ → Prop
  guar : τ → σ → σ → Prop

namespace Annotation

/-- A parked thread keeps its own assertion, the invariant holds whenever the state is shared. -/
def contract (A : P.Annotation) (t : τ) : Contract σ μ ω where
  assume := A.assume
  assert := A.assert
  park := fun w s => A.park t w s ∧ A.inv s
  wake := fun w s => A.park t w s ∧ A.inv s ∧ P.canResume t w s = true
  guar := A.guar t

/-- What a call has to achieve when it returns. -/
def Returned (A : P.Annotation) (t : τ) (_ : Unit) (s₀ s : σ) : Prop :=
  A.guar t s₀ s ∧ A.inv s ∧ A.idle t s

/-- The outline is a proof: calls meet it, and it is stable under the sections of other threads. -/
structure Valid (A : P.Annotation) : Prop where
  call : ∀ t c s, A.inv s → A.idle t s → P.canCall t c s = true →
    (P.body t c).wp (A.contract t) (A.Returned t) s s
  stable : ∀ t u w s s', t ≠ u → A.guar u s s' → A.inv s' → A.park t w s → A.park t w s'
  stable_idle : ∀ t u s s', t ≠ u → A.guar u s s' → A.inv s' → A.idle t s → A.idle t s'

/-- The state of a pool that follows the outline. -/
structure Follows (A : P.Annotation) (st : P.State) : Prop where
  inv : A.inv st.shared
  parked : ∀ t w rest, st.parked t = some (w, rest) →
    A.park t w st.shared
      ∧ ∀ s, (A.contract t).wake w s → rest.wp (A.contract t) (A.Returned t) s s
  idle : ∀ t, st.parked t = none → A.idle t st.shared

omit [DecidableEq τ] in
theorem follows_start {A : P.Annotation} {s : σ} (h : A.inv s) (hidle : ∀ t, A.idle t s)
    : A.Follows (.start P s) where
  inv := h
  parked := by intro t w rest h; simp [State.start] at h
  idle := fun t _ => hidle t

theorem follows_runSection {A : P.Annotation} (hA : A.Valid) {st st' : P.State} {t : τ}
    {c : Coroutine σ μ ω ρ Unit} {answers : List ρ} {marks : Trace σ μ} (hst : A.Follows st)
    (hwp : c.wp (A.contract t) (A.Returned t) st.shared st.shared)
    (hrun : P.runSection st t c answers = some (marks, st'))
    (hassume : ∀ m ∈ marks, A.assume m.1 m.2)
    : (∀ m ∈ marks, A.assert m.1 m.2) ∧ A.Follows st' := by
  have others (s : σ) (hguar : A.guar t st.shared s) (hinv : A.inv s) (u : τ) (hu : u ≠ t)
      (w : ω) (rest : Coroutine σ μ ω ρ Unit) (hparked : st.parked u = some (w, rest))
      : A.park u w s
          ∧ ∀ s, (A.contract u).wake w s → rest.wp (A.contract u) (A.Returned u) s s := by
    have := hst.parked u w rest hparked
    exact ⟨hA.stable u t w _ _ hu hguar hinv this.1, this.2⟩
  have othersIdle (s : σ) (hguar : A.guar t st.shared s) (hinv : A.inv s) (u : τ) (hu : u ≠ t)
      (hparked : st.parked u = none) : A.idle u s := by
    exact hA.stable_idle u t _ _ hu hguar hinv (hst.idle u hparked)
  unfold runSection at hrun
  split at hrun
  . contradiction
  . next marks' s a hexec =>
    simp only [Option.some.injEq, Prod.mk.injEq] at hrun
    obtain ⟨rfl, rfl⟩ := hrun
    have hstop := Coroutine.wp_exec hwp hexec hassume
    obtain ⟨hguar, hinv, hidle⟩ := hstop.2
    refine ⟨hstop.1, hinv, ?_, ?_⟩
    . intro u w rest hparked
      by_cases hu : u = t
      . simp [hu] at hparked
      . exact others s hguar hinv u hu w rest (by simpa [hu] using hparked)
    . intro u hparked
      by_cases hu : u = t
      . rw [hu]
        exact hidle
      . exact othersIdle s hguar hinv u hu (by simpa [hu] using hparked)
  . next marks' s w' rest' hexec =>
    simp only [Option.some.injEq, Prod.mk.injEq] at hrun
    obtain ⟨rfl, rfl⟩ := hrun
    have hstop := Coroutine.wp_exec hwp hexec hassume
    obtain ⟨hguar, ⟨hpark, hinv⟩, hrest⟩ := hstop.2
    refine ⟨hstop.1, hinv, ?_, ?_⟩
    . intro u w rest hparked
      by_cases hu : u = t
      . subst hu
        simp only [Function.update_self, Option.some.injEq, Prod.mk.injEq] at hparked
        obtain ⟨rfl, rfl⟩ := hparked
        exact ⟨hpark, hrest⟩
      . exact others s hguar hinv u hu w rest (by simpa [hu] using hparked)
    . intro u hparked
      by_cases hu : u = t
      . simp [hu] at hparked
      . exact othersIdle s hguar hinv u hu (by simpa [hu] using hparked)

/-- Every step of a pool follows a valid outline and keeps the assertions at the marks. -/
theorem follows_step {A : P.Annotation} (hA : A.Valid) {st st' : P.State} {a : Action τ κ ρ}
    {marks : Trace σ μ} (hst : A.Follows st) (hstep : P.step st a = some (marks, st'))
    (hassume : ∀ m ∈ marks, A.assume m.1 m.2)
    : (∀ m ∈ marks, A.assert m.1 m.2) ∧ A.Follows st' := by
  cases a with
  | call t c answers =>
    simp only [step] at hstep
    split at hstep
    . contradiction
    . next hparked =>
      split at hstep
      . next hcall =>
        have hwp := hA.call t c _ hst.inv (hst.idle t hparked) hcall
        exact follows_runSection hA hst hwp hstep hassume
      . contradiction
  | resume t answers =>
    simp only [step] at hstep
    split at hstep
    . contradiction
    . next w rest hparked =>
      split at hstep
      . next hresume =>
        have := hst.parked t w rest hparked
        exact follows_runSection hA hst (this.2 _ ⟨this.1, hst.inv, hresume⟩) hstep hassume
      . contradiction

/-- So does every run in which all marks meet the assumption. -/
theorem follows_run {A : P.Annotation} (hA : A.Valid) {st st' : P.State}
    {as : List (Action τ κ ρ)} {marks : Trace σ μ} (hst : A.Follows st)
    (hrun : P.run st as = some (marks, st')) (hassume : ∀ m ∈ marks, A.assume m.1 m.2)
    : (∀ m ∈ marks, A.assert m.1 m.2) ∧ A.Follows st' := by
  induction as generalizing st marks with
  | nil =>
    simp only [run, Option.some.injEq, Prod.mk.injEq] at hrun
    obtain ⟨rfl, rfl⟩ := hrun
    exact ⟨by simp, hst⟩
  | cons a as ih =>
    simp only [run] at hrun
    split at hrun
    . contradiction
    . next marks₁ st₁ hstep =>
      split at hrun
      . contradiction
      . next marks₂ st₂ hrest =>
        simp only [Option.some.injEq, Prod.mk.injEq] at hrun
        obtain ⟨rfl, rfl⟩ := hrun
        have h₁ := follows_step hA hst hstep (fun m hm => hassume m (by simp [hm]))
        have h₂ := ih h₁.2 hrest (fun m hm => hassume m (by simp [hm]))
        refine ⟨?_, h₂.2⟩
        intro m hm
        cases List.mem_append.mp hm with
        | inl hm => exact h₁.1 m hm
        | inr hm => exact h₂.1 m hm

end Annotation

end Pool

end Concurrency
