import Mathlib.Logic.Function.Basic

/-!
This module contains stores that are left out because the cell is known to hold the value already.
-/

namespace Caches

/-- Cells that do not overlap in a memory `μ`. -/
structure Cells (μ ι β : Type) where
  read : μ → ι → β
  write : μ → ι → β → μ
  write_read : ∀ m i, write m i (read m i) = m
  read_write_self : ∀ m i b, read (write m i b) i = b
  read_write_of_ne : ∀ m i j b, j ≠ i → read (write m i b) j = read m j

variable {μ ι β : Type}

/-- What is known of the cells. -/
abbrev Shadow (ι β : Type) := ι → Option β

namespace Shadow

variable (cells : Cells μ ι β) {shadow shadow' : Shadow ι β} {m m' : μ} {i : ι} {b : β}

def learn [DecidableEq ι] (shadow : Shadow ι β) (i : ι) (b : β) : Shadow ι β := Function.update shadow i (some b)

def forget [DecidableEq ι] (shadow : Shadow ι β) (i : ι) : Shadow ι β := Function.update shadow i none

/-- A store that is left out if it would change nothing. -/
def store [DecidableEq β] (shadow : Shadow ι β) (m : μ) (i : ι) (b : β) : μ :=
  if shadow i = some b then m else cells.write m i b

def Agrees (shadow : Shadow ι β) (m : μ) : Prop := ∀ i b, shadow i = some b → cells.read m i = b

variable {cells}

theorem Agrees.learn [DecidableEq ι] (h : shadow.Agrees cells m) (i : ι) (b : β)
    : (shadow.learn i b).Agrees cells (cells.write m i b) := by
  intro j c hknown
  unfold Shadow.learn at hknown
  by_cases heq : j = i
  . subst heq
    rw [Function.update_self] at hknown
    rw [cells.read_write_self]
    exact Option.some.inj hknown
  . rw [Function.update_of_ne heq] at hknown
    rw [cells.read_write_of_ne _ _ _ _ heq]
    exact h j c hknown

/-- A cell that is no longer known may change. -/
theorem Agrees.forget [DecidableEq ι] (h : shadow.Agrees cells m)
    (hrest : ∀ j, j ≠ i → cells.read m' j = cells.read m j)
    : (shadow.forget i).Agrees cells m' := by
  intro j c hknown
  unfold Shadow.forget at hknown
  by_cases heq : j = i
  . subst heq
    rw [Function.update_self] at hknown
    contradiction
  . rw [Function.update_of_ne heq] at hknown
    rw [hrest j heq]
    exact h j c hknown

theorem Agrees.congr (h : shadow.Agrees cells m) (hread : ∀ j, cells.read m' j = cells.read m j)
    : shadow.Agrees cells m' := by
  intro j c hknown
  rw [hread]
  exact h j c hknown

theorem Agrees.mono (h : shadow.Agrees cells m)
    (hle : ∀ j c, shadow' j = some c → shadow j = some c)
    : shadow'.Agrees cells m := by
  intro j c hknown
  exact h j c (hle j c hknown)

end Shadow

end Caches
