import Mathlib.Logic.Relation

/-!
This module contains walks through a forest of directories that are confined to the tree below a
root: every directory that a walk enters, up or down, has to be under the root.
-/

namespace Trees

/-- A forest, as its nodes know their parents. -/
structure Forest (ν : Type) where
  parent : ν → Option ν
  depth : ν → Nat
  parent_depth : ∀ n p, parent n = some p → depth p < depth n

namespace Forest

variable {ν : Type} (F : Forest ν) {root n p : ν}

/-- `n` is in the tree of `root`. -/
def Under (root n : ν) : Prop := Relation.ReflTransGen (fun n p => F.parent n = some p) n root

theorem under_self (root : ν) : F.Under root root := Relation.ReflTransGen.refl

variable {F}

theorem under_iff_of_parent (h : F.parent n = some p) (hne : n ≠ root)
    : F.Under root n ↔ F.Under root p := by
  constructor
  . intro hn
    cases Relation.ReflTransGen.cases_head hn with
    | inl heq => exact (hne heq).elim
    | inr hstep =>
      obtain ⟨q, hq, hrest⟩ := hstep
      rw [h] at hq
      rw [Option.some.inj hq]
      exact hrest
  . intro hp
    exact Relation.ReflTransGen.head h hp

theorem not_under_of_orphan (h : F.parent n = none) (hne : n ≠ root) : ¬F.Under root n := by
  intro hn
  cases Relation.ReflTransGen.cases_head hn with
  | inl heq => exact hne heq
  | inr hstep =>
    obtain ⟨q, hq, _⟩ := hstep
    rw [h] at hq
    contradiction

end Forest

inductive PathStep (κ : Type) where
  | parent
  | name (c : κ)

section Walk

variable {ν κ ε : Type} (F : Forest ν) (find : ν → κ → Except ε ν) (outside : ε) (root : ν)

open Classical in
/-- What is not under the root is not entered. -/
noncomputable def confine (n : ν) : Except ε ν :=
  if F.Under root n then .ok n else .error outside

noncomputable def enter (dir : ν) (step : PathStep κ) : Except ε ν :=
  match step with
  | .parent =>
    match F.parent dir with
    | none => .error outside
    | some p => confine F outside root p
  | .name c =>
    match find dir c with
    | .error e => .error e
    | .ok n => confine F outside root n

/-- Where a path leads: to a directory, or to a name in a directory, which is not looked up. -/
noncomputable def resolve (dir : ν) (steps : List (PathStep κ)) : Except ε (ν × Option κ) :=
  match steps with
  | [] => .ok (dir, none)
  | [.name leaf] => .ok (dir, some leaf)
  | step :: rest => (enter F find outside root dir step).bind fun dir => resolve dir rest

variable {F find outside root} {dir d n : ν} {step : PathStep κ} {steps : List (PathStep κ)}
variable {leaf : Option κ}

theorem confine_of_under (h : F.Under root n) : confine F outside root n = .ok n := if_pos h

theorem confine_of_not_under (h : ¬F.Under root n)
    : confine F outside root n = .error outside :=
  if_neg h

theorem under_of_confine (h : confine F outside root n = .ok d) : F.Under root d := by
  unfold confine at h
  split at h
  . next hunder =>
    rw [← Except.ok.inj h]
    exact hunder
  . contradiction

theorem under_of_enter (h : enter F find outside root dir step = .ok d) : F.Under root d := by
  cases step with
  | parent =>
    simp only [enter] at h
    split at h
    . contradiction
    . exact under_of_confine h
  | name c =>
    simp only [enter] at h
    split at h
    . contradiction
    . exact under_of_confine h

theorem resolve_parent (steps : List (PathStep κ))
    : resolve F find outside root dir (.parent :: steps)
        = (enter F find outside root dir .parent).bind
            fun dir => resolve F find outside root dir steps := by
  rw [resolve]
  intro leaf h
  contradiction

theorem resolve_name (c : κ) (step : PathStep κ) (steps : List (PathStep κ))
    : resolve F find outside root dir (.name c :: step :: steps)
        = (enter F find outside root dir (.name c)).bind
            fun dir => resolve F find outside root dir (step :: steps) := by
  rw [resolve]
  intro leaf _ h
  contradiction

/-- A walk that begins under the root ends there. -/
theorem under_of_resolve (hdir : F.Under root dir)
    (h : resolve F find outside root dir steps = .ok (d, leaf))
    : F.Under root d := by
  induction steps generalizing dir with
  | nil =>
    simp only [resolve, Except.ok.injEq, Prod.mk.injEq] at h
    rw [← h.1]
    exact hdir
  | cons step rest ih =>
    unfold resolve at h
    split at h
    . contradiction
    . simp only [Except.ok.injEq, Prod.mk.injEq] at h
      rw [← h.1]
      exact hdir
    . next heq =>
      cases heq
      cases henter : enter F find outside root dir step with
      | error e =>
        rw [henter] at h
        contradiction
      | ok next =>
        rw [henter] at h
        exact ih (under_of_enter henter) h

end Walk

end Trees
