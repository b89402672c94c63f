import Mathlib.Data.List.Perm.Basic

/-!
This module contains the accounting of tokens that one side issues and the other side gives back:
the log of both, and the tokens that are held at the moment.
-/

namespace Ledger

inductive Entry (α : Type) where
  | issue (token : α)
  | giveBack (token : α)
  deriving DecidableEq, Repr

variable {α : Type}

def Entry.issued? (entry : Entry α) : Option α :=
  match entry with
  | .issue token => some token
  | .giveBack _ => none

def Entry.returned? (entry : Entry α) : Option α :=
  match entry with
  | .issue _ => none
  | .giveBack token => some token

def issued (log : List (Entry α)) : List α := log.filterMap Entry.issued?

def returned (log : List (Entry α)) : List α := log.filterMap Entry.returned?

/--
Every token has been given back or is held, as often as it was issued, and at no time was one given
back more often than it had been issued.
-/
structure Accounts [DecidableEq α] (log : List (Entry α)) (held : List α) : Prop where
  balanced : (issued log).Perm (returned log ++ held)
  ordered : ∀ part, part <+: log → ∀ token, (returned part).count token ≤ (issued part).count token

variable {log : List (Entry α)}

@[simp] theorem issued_issue (token : α) : issued (log ++ [.issue token]) = issued log ++ [token] := by
  unfold issued
  rw [List.filterMap_append]
  rfl

@[simp] theorem issued_giveBack (token : α) : issued (log ++ [.giveBack token]) = issued log := by
  unfold issued
  rw [List.filterMap_append]
  apply List.append_nil

@[simp] theorem returned_issue (token : α) : returned (log ++ [.issue token]) = returned log := by
  unfold returned
  rw [List.filterMap_append]
  apply List.append_nil

@[simp] theorem returned_giveBack (token : α)
    : returned (log ++ [.giveBack token]) = returned log ++ [token] := by
  unfold returned
  rw [List.filterMap_append]
  rfl

namespace Accounts

variable [DecidableEq α] {held : List α}

theorem nil : Accounts ([] : List (Entry α)) [] where
  balanced := List.Perm.nil
  ordered := by
    intro part hpart token
    rw [List.prefix_nil.mp hpart]
    exact Nat.le_refl 0

theorem count_add (h : Accounts log held) (token : α)
    : (returned log).count token + held.count token = (issued log).count token := by
  rw [h.balanced.count_eq token, List.count_append]

theorem issue (h : Accounts log held) (token : α)
    : Accounts (log ++ [.issue token]) (token :: held) where
  balanced := by
    rw [issued_issue, returned_issue]
    apply List.Perm.trans (List.perm_append_singleton token (issued log))
    apply List.Perm.trans (List.Perm.cons token h.balanced)
    exact List.perm_middle.symm
  ordered := by
    intro part hpart other
    rw [List.prefix_concat_iff] at hpart
    cases hpart with
    | inl heq =>
      have := h.count_add other
      rw [heq, issued_issue, returned_issue, List.count_append]
      omega
    | inr hpart => exact h.ordered part hpart other

theorem giveBack {token : α} (h : Accounts log (token :: held))
    : Accounts (log ++ [.giveBack token]) held where
  balanced := by
    rw [issued_giveBack, returned_giveBack, List.append_assoc]
    exact h.balanced
  ordered := by
    intro part hpart other
    rw [List.prefix_concat_iff] at hpart
    cases hpart with
    | inl heq =>
      have := h.count_add other
      rw [List.count_cons] at this
      rw [heq, issued_giveBack, returned_giveBack, List.count_append, List.count_singleton]
      omega
    | inr hpart => exact h.ordered part hpart other

theorem reorder {held' : List α} (h : Accounts log held) (hheld : held.Perm held')
    : Accounts log held' where
  balanced := by
    apply List.Perm.trans h.balanced
    exact List.Perm.append_left (returned log) hheld
  ordered := h.ordered

end Accounts

end Ledger
