import Mathlib.Data.List.Basic

/-!
This module contains programs that go from place to place and do something to a state on their way.
Where they go does not depend on the state, so that the way can be told without it.
-/

namespace Machines

/-- Where a program goes from a place. -/
inductive Next (π α ε : Type) where
  | goes (a : α) (p : π)
  | stops (e : ε)
  deriving DecidableEq, Repr

variable {π α ε σ : Type}

/-- Go from a place until the program stops, none if that takes more steps than `fuel`. -/
def run (next : π → Next π α ε) (act : α → σ → Except ε σ) (fuel : Nat) (p : π) (s : σ)
    : Option (ε × σ) :=
  match fuel with
  | 0 => none
  | fuel + 1 =>
    match next p with
    | .stops e => some (e, s)
    | .goes a p' =>
      match act a s with
      | .error e => some (e, s)
      | .ok s' => run next act fuel p' s'

/-- What is done on the way from a place to another. -/
inductive Leads (next : π → Next π α ε) : π → List α → π → Prop where
  | here (p : π) : Leads next p [] p
  | step {p p' p'' : π} {a : α} {as : List α} :
    next p = .goes a p' → Leads next p' as p'' → Leads next p (a :: as) p''

/-- The way from a place comes to a good end, and all that is done on it is fine. -/
inductive Ends (next : π → Next π α ε) (Fine : α → Prop) (Good : ε → Prop) : π → Prop where
  | stops {p : π} {e : ε} : next p = .stops e → Good e → Ends next Fine Good p
  | goes {p p' : π} {a : α} :
    next p = .goes a p' → Fine a → Ends next Fine Good p' → Ends next Fine Good p

variable {next : π → Next π α ε} {act : α → σ → Except ε σ} {p p' p'' : π} {as bs : List α}
  {s s' : σ}

theorem Leads.single {a : α} (h : next p = .goes a p')
    : Leads next p [a] p' :=
  .step h (.here p')

theorem Leads.append (h : Leads next p as p') (h' : Leads next p' bs p'')
    : Leads next p (as ++ bs) p'' := by
  induction h with
  | here p => exact h'
  | step hnext _ ih => exact .step hnext (ih h')

/-- The run on the way does what is done on it. -/
theorem run_of_leads (h : Leads next p as p')
    (hacts : as.foldlM (fun s a => act a s) s = .ok s') (fuel : Nat)
    : run next act (as.length + fuel) p s = run next act fuel p' s' := by
  induction h generalizing s with
  | here p =>
    have hsame : s = s' := Except.ok.inj hacts
    rw [hsame, List.length_nil, Nat.zero_add]
  | @step p q p' a as hnext _ ih =>
    rw [List.foldlM_cons] at hacts
    rw [List.length_cons, Nat.add_right_comm]
    cases hact : act a s with
    | error e =>
      rw [hact] at hacts
      contradiction
    | ok t =>
      rw [hact] at hacts
      rw [run, hnext]
      dsimp only
      rw [hact]
      exact ih hacts

section Ends

variable {Fine : α → Prop} {Good : ε → Prop} {I : σ → Prop}

end Ends

end Machines
