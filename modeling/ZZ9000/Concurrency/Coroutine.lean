import Mathlib.Tactic.Common

/-!
This module contains coroutines over a shared state: programs that run without interruption from
one `yield` to the next. Between two yields the rest of the world may change the shared state, so a
section between yields is what a task does while it holds the lock that guards the state.

The weakest precondition of a coroutine is taken with respect to a `Contract`, which says what holds
while the coroutine is parked at a yield and what it may assume when it is woken up again.
-/

namespace Concurrency

/--
A coroutine over the shared state `σ`. It may `ask` its environment for an answer in `ρ` without
giving up control, leave a `mark` in `μ` that its specification talks about, and `yield` control in
a window from `ω`.
-/
inductive Coroutine (σ μ ω ρ : Type) (α : Type) : Type where
  | ret (a : α)
  | get (k : σ → Coroutine σ μ ω ρ α)
  | set (s : σ) (k : Coroutine σ μ ω ρ α)
  | ask (k : ρ → Coroutine σ μ ω ρ α)
  | mark (m : μ) (k : Coroutine σ μ ω ρ α)
  | yield (w : ω) (k : Coroutine σ μ ω ρ α)

/-- Where an uninterrupted section of a coroutine stops. -/
inductive Stop (σ μ ω ρ : Type) (α : Type) : Type where
  | done (a : α)
  | parked (w : ω) (rest : Coroutine σ μ ω ρ α)

/-- The marks of a section, each with the state in which it was left. -/
abbrev Trace (σ μ : Type) : Type := List (μ × σ)

namespace Coroutine

variable {σ μ ω ρ : Type}

def bind (c : Coroutine σ μ ω ρ α) (f : α → Coroutine σ μ ω ρ β) : Coroutine σ μ ω ρ β :=
  match c with
  | .ret a => f a
  | .get k => .get (fun s => (k s).bind f)
  | .set s k => .set s (k.bind f)
  | .ask k => .ask (fun r => (k r).bind f)
  | .mark m k => .mark m (k.bind f)
  | .yield w k => .yield w (k.bind f)

instance : Monad (Coroutine σ μ ω ρ) where
  pure := .ret
  bind := .bind

theorem bind_ret (c : Coroutine σ μ ω ρ α) : c.bind .ret = c := by
  induction c with
  | ret => rfl
  | get k ih => simp [bind, ih]
  | set s k ih => simp [bind, ih]
  | ask k ih => simp [bind, ih]
  | mark m k ih => simp [bind, ih]
  | yield w k ih => simp [bind, ih]

theorem bind_assoc' (c : Coroutine σ μ ω ρ α) (f : α → Coroutine σ μ ω ρ β)
    (g : β → Coroutine σ μ ω ρ γ)
    : (c.bind f).bind g = c.bind (fun a => (f a).bind g) := by
  induction c with
  | ret => rfl
  | get k ih => simp [bind, ih]
  | set s k ih => simp [bind, ih]
  | ask k ih => simp [bind, ih]
  | mark m k ih => simp [bind, ih]
  | yield w k ih => simp [bind, ih]

instance : LawfulMonad (Coroutine σ μ ω ρ) :=
  LawfulMonad.mk' _ bind_ret (fun _ _ => rfl) bind_assoc'

def read : Coroutine σ μ ω ρ σ := .get .ret

def modify (f : σ → σ) : Coroutine σ μ ω ρ Unit := .get (fun s => .set (f s) (.ret ()))

def answer : Coroutine σ μ ω ρ ρ := .ask .ret

def note (m : μ) : Coroutine σ μ ω ρ Unit := .mark m (.ret ())

def pause (w : ω) : Coroutine σ μ ω ρ Unit := .yield w (.ret ())

/--
Run the section up to the next yield, taking answers from the list. There is no result if the list
has too few of them.
-/
def exec (c : Coroutine σ μ ω ρ α) (s : σ) (answers : List ρ)
    : Option (Trace σ μ × σ × Stop σ μ ω ρ α) :=
  match c with
  | .ret a => some ([], s, .done a)
  | .get k => (k s).exec s answers
  | .set s k => k.exec s answers
  | .ask k =>
    match answers with
    | [] => none
    | r :: rs => (k r).exec s rs
  | .mark m k =>
    match k.exec s answers with
    | none => none
    | some (marks, out) => some ((m, s) :: marks, out)
  | .yield w k => some ([], s, .parked w k)

end Coroutine

/-- What a coroutine promises at its marks and yields, and what it may rely on there. -/
structure Contract (σ μ ω : Type) where
  /-- What a run is restricted to at a mark. -/
  assume : μ → σ → Prop
  /-- What the coroutine promises at a mark. -/
  assert : μ → σ → Prop
  /-- What holds in a window when the coroutine enters it. -/
  park : ω → σ → Prop
  /-- What holds in a window when the coroutine leaves it. -/
  wake : ω → σ → Prop
  /-- How a section may change the state in which it began. -/
  guar : σ → σ → Prop

namespace Coroutine

variable {σ μ ω ρ : Type}

/--
The weakest precondition of a coroutine. The first state is the one in which the running section
began, the second one is the current state.
-/
def wp (C : Contract σ μ ω) (c : Coroutine σ μ ω ρ α) (Q : α → σ → σ → Prop) (s₀ s : σ) : Prop :=
  match c with
  | .ret a => Q a s₀ s
  | .get k => (k s).wp C Q s₀ s
  | .set s k => k.wp C Q s₀ s
  | .ask k => ∀ r, (k r).wp C Q s₀ s
  | .mark m k => C.assume m s → C.assert m s ∧ k.wp C Q s₀ s
  | .yield w k => C.guar s₀ s ∧ C.park w s ∧ ∀ s', C.wake w s' → k.wp C Q s' s'

variable {C : Contract σ μ ω} {s₀ s : σ}

@[simp]
theorem wp_pure (a : α) (Q : α → σ → σ → Prop)
    : (pure a : Coroutine σ μ ω ρ α).wp C Q s₀ s ↔ Q a s₀ s := by
  rfl

@[simp]
theorem wp_bind (c : Coroutine σ μ ω ρ α) (f : α → Coroutine σ μ ω ρ β) (Q : β → σ → σ → Prop)
    : (c >>= f).wp C Q s₀ s ↔ c.wp C (fun a => (f a).wp C Q) s₀ s := by
  show (c.bind f).wp C Q s₀ s ↔ _
  induction c generalizing s₀ s with
  | ret => rfl
  | get k ih => exact ih s
  | set s k ih => exact ih
  | ask k ih => exact forall_congr' (fun r => ih r)
  | mark m k ih => simp only [bind, wp, ih]
  | yield w k ih => simp only [bind, wp, ih]

@[simp]
theorem wp_map (c : Coroutine σ μ ω ρ α) (f : α → β) (Q : β → σ → σ → Prop)
    : (f <$> c).wp C Q s₀ s ↔ c.wp C (fun a => Q (f a)) s₀ s := by
  rw [← bind_pure_comp]
  rw [wp_bind]
  rfl

@[simp]
theorem wp_read (Q : σ → σ → σ → Prop)
    : (read : Coroutine σ μ ω ρ σ).wp C Q s₀ s ↔ Q s s₀ s := by
  rfl

@[simp]
theorem wp_modify (f : σ → σ) (Q : Unit → σ → σ → Prop)
    : (modify f : Coroutine σ μ ω ρ Unit).wp C Q s₀ s ↔ Q () s₀ (f s) := by
  rfl

@[simp]
theorem wp_answer (Q : ρ → σ → σ → Prop)
    : (answer : Coroutine σ μ ω ρ ρ).wp C Q s₀ s ↔ ∀ r, Q r s₀ s := by
  rfl

@[simp]
theorem wp_note (m : μ) (Q : Unit → σ → σ → Prop)
    : (note m : Coroutine σ μ ω ρ Unit).wp C Q s₀ s
        ↔
      (C.assume m s → C.assert m s ∧ Q () s₀ s) := by
  rfl

@[simp]
theorem wp_pause (w : ω) (Q : Unit → σ → σ → Prop)
    : (pause w : Coroutine σ μ ω ρ Unit).wp C Q s₀ s
        ↔
      (C.guar s₀ s ∧ C.park w s ∧ ∀ s', C.wake w s' → Q () s' s') := by
  rfl

theorem wp_mono {c : Coroutine σ μ ω ρ α} {Q R : α → σ → σ → Prop} (h : c.wp C Q s₀ s)
    (hQR : ∀ a s₀ s, Q a s₀ s → R a s₀ s)
    : c.wp C R s₀ s := by
  induction c generalizing s₀ s with
  | ret => exact hQR _ _ _ h
  | get k ih => exact ih _ h
  | set s k ih => exact ih h
  | ask k ih => exact fun r => ih r (h r)
  | mark m k ih => exact fun ha => ⟨(h ha).1, ih (h ha).2⟩
  | yield w k ih => exact ⟨h.1, h.2.1, fun s' hw => ih (h.2.2 s' hw)⟩

/-- What a section that began in `s₀` and stopped in `s` leaves behind. -/
def StopsWith (C : Contract σ μ ω) (Q : α → σ → σ → Prop) (s₀ s : σ) (stop : Stop σ μ ω ρ α)
    : Prop :=
  match stop with
  | .done a => Q a s₀ s
  | .parked w rest => C.guar s₀ s ∧ C.park w s ∧ ∀ s', C.wake w s' → rest.wp C Q s' s'

/-- The weakest precondition covers the uninterrupted section that a coroutine starts with. -/
theorem wp_exec {c : Coroutine σ μ ω ρ α} {Q : α → σ → σ → Prop} {answers : List ρ}
    {marks : Trace σ μ} {s' : σ} {stop : Stop σ μ ω ρ α}
    (h : c.wp C Q s₀ s) (hexec : c.exec s answers = some (marks, s', stop))
    (hassume : ∀ m ∈ marks, C.assume m.1 m.2)
    : (∀ m ∈ marks, C.assert m.1 m.2) ∧ StopsWith C Q s₀ s' stop := by
  induction c generalizing s answers marks with
  | ret a =>
    simp only [exec, Option.some.injEq, Prod.mk.injEq] at hexec
    obtain ⟨rfl, rfl, rfl⟩ := hexec
    exact ⟨by simp, h⟩
  | get k ih => exact ih s h hexec hassume
  | set s k ih => exact ih h hexec hassume
  | ask k ih =>
    cases answers with
    | nil => simp [exec] at hexec
    | cons r rs => exact ih r (h r) hexec hassume
  | mark m k ih =>
    simp only [exec] at hexec
    split at hexec
    . contradiction
    . next marks' out hk =>
      simp only [Option.some.injEq, Prod.mk.injEq] at hexec
      obtain ⟨rfl, rfl⟩ := hexec
      have hm := h (hassume (m, s) (by simp))
      have := ih hm.2 hk (fun m' hm' => hassume m' (by simp [hm']))
      refine ⟨?_, this.2⟩
      intro m' hm'
      rw [List.mem_cons] at hm'
      cases hm' with
      | inl heq => rw [heq]; exact hm.1
      | inr hmem => exact this.1 m' hmem
  | yield w k =>
    simp only [exec, Option.some.injEq, Prod.mk.injEq] at hexec
    obtain ⟨rfl, rfl, rfl⟩ := hexec
    exact ⟨by simp, h⟩

end Coroutine

end Concurrency
