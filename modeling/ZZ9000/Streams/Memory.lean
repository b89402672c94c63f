import Mathlib.Data.List.Basic
import Mathlib.Data.UInt
import Mathlib.Logic.Function.Basic
import Mathlib.Tactic.IntervalCases

/-!
This module contains blocks and big endian words in a memory of bytes.
-/

namespace Streams

variable {α : Type}

/-- Write consecutive cells. -/
def store (memory : Nat → α) (address : Nat) (xs : List α) : Nat → α :=
  match xs with
  | [] => memory
  | x :: xs => store (Function.update memory address x) (address + 1) xs

variable {memory : Nat → α} {address i : Nat} {xs : List α}

theorem store_of_lt (h : i < address) : store memory address xs i = memory i := by
  induction xs generalizing memory address with
  | nil => rfl
  | cons x xs ih =>
    unfold store
    rw [ih (by omega)]
    apply Function.update_of_ne
    omega

theorem store_of_ge (h : address + xs.length ≤ i) : store memory address xs i = memory i := by
  induction xs generalizing memory address with
  | nil => rfl
  | cons x xs ih =>
    rw [List.length_cons] at h
    unfold store
    rw [ih (by omega)]
    apply Function.update_of_ne
    omega

theorem store_getElem (j : Nat) (h : j < xs.length)
    : store memory address xs (address + j) = xs[j] := by
  induction xs generalizing memory address j with
  | nil => simp at h
  | cons x xs ih =>
    unfold store
    cases j with
    | zero =>
      rw [Nat.add_zero, store_of_lt (by omega)]
      apply Function.update_self
    | succ j =>
      rw [List.length_cons] at h
      have hcell := @ih (Function.update memory address x) (address + 1) j (by omega)
      rw [Nat.add_right_comm] at hcell
      rw [← Nat.add_assoc]
      rw [hcell]
      rfl

theorem store_append (ys : List α)
    : store memory address (xs ++ ys)
        =
      store (store memory address xs) (address + xs.length) ys := by
  induction xs generalizing memory address with
  | nil => rfl
  | cons x xs ih =>
    have haddress : address + (x :: xs).length = address + 1 + xs.length := by
      rw [List.length_cons]
      omega
    rw [haddress]
    exact ih

theorem update_congr {memory' : Nat → α} {x : α} (h : memory i = memory' i)
    : Function.update memory address x i = Function.update memory' address x i := by
  by_cases hi : i = address
  . rw [hi, Function.update_self, Function.update_self]
  . rw [Function.update_of_ne hi, Function.update_of_ne hi, h]

theorem store_congr {memory' : Nat → α} (h : memory i = memory' i)
    : store memory address xs i = store memory' address xs i := by
  induction xs generalizing memory memory' address with
  | nil => exact h
  | cons x xs ih =>
    unfold store
    apply ih
    apply update_congr
    exact h

/-- Cells are written alike where the addresses begin elsewhere. -/
theorem store_shift {offset : Nat} (j : Nat)
    : store memory (address + offset) xs (address + j)
        = store (fun i => memory (address + i)) offset xs j := by
  induction xs generalizing memory offset with
  | nil => rfl
  | cons x xs ih =>
    have hcell : (fun i => Function.update memory (address + offset) x (address + i))
        = Function.update (fun i => memory (address + i)) offset x := by
      funext i
      by_cases hi : i = offset
      . rw [hi, Function.update_self, Function.update_self]
      . rw [Function.update_of_ne hi, Function.update_of_ne (by omega)]
    unfold store
    rw [Nat.add_assoc, ih, hcell]

/-- The cells of a block, one after the other. -/
def load (memory : Nat → α) (address n : Nat) : List α :=
  (List.range n).map fun i => memory (address + i)

@[simp] theorem length_load (n : Nat) : (load memory address n).length = n := by
  unfold load
  rw [List.length_map, List.length_range]

theorem getElem_load {n : Nat} (j : Nat) (h : j < (load memory address n).length)
    : (load memory address n)[j] = memory (address + j) := by
  simp [load]

theorem load_add (n k : Nat)
    : load memory address (n + k) = load memory address n ++ load memory (address + n) k := by
  unfold load
  rw [List.range_add, List.map_append, List.map_map]
  congr 1
  apply List.map_congr_left
  intro i _
  dsimp only [Function.comp]
  congr 1
  omega

theorem load_congr {memory' : Nat → α} {n : Nat}
    (h : ∀ i < n, memory (address + i) = memory' (address + i))
    : load memory address n = load memory' address n := by
  apply List.map_congr_left
  intro i hi
  exact h i (List.mem_range.mp hi)

theorem drop_load (n k : Nat)
    : (load memory address n).drop k = load memory (address + k) (n - k) := by
  apply List.ext_getElem
  . rw [List.length_drop, length_load, length_load]
  . intro i hi hi'
    rw [List.getElem_drop, getElem_load, getElem_load, Nat.add_assoc]

theorem take_load (n k : Nat)
    : (load memory address n).take k = load memory address (min k n) := by
  unfold load
  rw [← List.map_take, List.take_range]

/-- A copied block reads like the original. -/
theorem store_load {source : Nat → α} {from_ n : Nat} (j : Nat) (h : j < n)
    : store memory address (load source from_ n) (address + j) = source (from_ + j) := by
  have hlength : j < (load source from_ n).length := by
    rw [length_load]
    exact h
  rw [store_getElem j hlength, getElem_load]

theorem load_store : load (store memory address xs) address xs.length = xs := by
  apply List.ext_getElem
  . apply length_load
  . intro j hj hlt
    rw [getElem_load]
    apply store_getElem

def readBe16 (memory : Nat → UInt8) (address : Nat) : UInt16 :=
  (memory address).toUInt16 <<< 8 ||| (memory (address + 1)).toUInt16

def readBe32 (memory : Nat → UInt8) (address : Nat) : UInt32 :=
  (memory address).toUInt32 <<< 24 ||| (memory (address + 1)).toUInt32 <<< 16
    ||| (memory (address + 2)).toUInt32 <<< 8 ||| (memory (address + 3)).toUInt32

def writeBe16 (memory : Nat → UInt8) (address : Nat) (value : UInt16) : Nat → UInt8 :=
  store memory address [(value >>> 8).toUInt8, value.toUInt8]

def writeBe32 (memory : Nat → UInt8) (address : Nat) (value : UInt32) : Nat → UInt8 :=
  store memory address
    [(value >>> 24).toUInt8, (value >>> 16).toUInt8, (value >>> 8).toUInt8, value.toUInt8]

theorem be16_bytes (value : UInt16)
    : (value >>> 8).toUInt8.toUInt16 <<< 8 ||| value.toUInt8.toUInt16 = value := by
  rw [← UInt16.toBitVec_inj]
  apply BitVec.eq_of_getLsbD_eq
  intro i hi
  simp [-UInt16.toUInt16_toUInt8]
  interval_cases i <;> simp

theorem be32_bytes (value : UInt32)
    : (value >>> 24).toUInt8.toUInt32 <<< 24 ||| (value >>> 16).toUInt8.toUInt32 <<< 16
        ||| (value >>> 8).toUInt8.toUInt32 <<< 8 ||| value.toUInt8.toUInt32 = value := by
  rw [← UInt32.toBitVec_inj]
  apply BitVec.eq_of_getLsbD_eq
  intro i hi
  simp [-UInt32.toUInt32_toUInt8]
  interval_cases i <;> simp

section Words

variable {memory memory' : Nat → UInt8} {address i : Nat}

theorem writeBe16_of_outside (value : UInt16) (h : i < address ∨ address + 2 ≤ i)
    : writeBe16 memory address value i = memory i := by
  unfold writeBe16
  cases h with
  | inl h => exact store_of_lt h
  | inr h => exact store_of_ge h

theorem writeBe32_of_outside (value : UInt32) (h : i < address ∨ address + 4 ≤ i)
    : writeBe32 memory address value i = memory i := by
  unfold writeBe32
  cases h with
  | inl h => exact store_of_lt h
  | inr h => exact store_of_ge h

theorem readBe16_congr (h : ∀ i, address ≤ i → i < address + 2 → memory i = memory' i)
    : readBe16 memory address = readBe16 memory' address := by
  unfold readBe16
  rw [h address (by omega) (by omega), h (address + 1) (by omega) (by omega)]

theorem readBe32_congr (h : ∀ i, address ≤ i → i < address + 4 → memory i = memory' i)
    : readBe32 memory address = readBe32 memory' address := by
  unfold readBe32
  rw [h address (by omega) (by omega), h (address + 1) (by omega) (by omega)]
  rw [h (address + 2) (by omega) (by omega), h (address + 3) (by omega) (by omega)]

@[simp] theorem readBe16_writeBe16 (value : UInt16)
    : readBe16 (writeBe16 memory address value) address = value := by
  have hbyte := @store_getElem _ memory address [(value >>> 8).toUInt8, value.toUInt8]
  have hhigh := hbyte 0 (by simp)
  have hlow := hbyte 1 (by simp)
  rw [Nat.add_zero] at hhigh
  unfold readBe16 writeBe16
  rw [hhigh, hlow]
  exact be16_bytes value

@[simp] theorem readBe32_writeBe32 (value : UInt32)
    : readBe32 (writeBe32 memory address value) address = value := by
  have hbyte := @store_getElem _ memory address
    [(value >>> 24).toUInt8, (value >>> 16).toUInt8, (value >>> 8).toUInt8, value.toUInt8]
  have h0 := hbyte 0 (by simp)
  have h1 := hbyte 1 (by simp)
  have h2 := hbyte 2 (by simp)
  have h3 := hbyte 3 (by simp)
  rw [Nat.add_zero] at h0
  unfold readBe32 writeBe32
  rw [h0, h1, h2, h3]
  exact be32_bytes value

variable {other : Nat}

theorem readBe16_writeBe16_of_apart (value : UInt16) (h : other + 2 ≤ address ∨ address + 2 ≤ other)
    : readBe16 (writeBe16 memory address value) other = readBe16 memory other := by
  apply readBe16_congr
  intro i _ _
  apply writeBe16_of_outside
  omega

theorem readBe16_writeBe32_of_apart (value : UInt32) (h : other + 2 ≤ address ∨ address + 4 ≤ other)
    : readBe16 (writeBe32 memory address value) other = readBe16 memory other := by
  apply readBe16_congr
  intro i _ _
  apply writeBe32_of_outside
  omega

theorem readBe16_update_of_apart (value : UInt8) (h : other + 2 ≤ address ∨ address + 1 ≤ other)
    : readBe16 (Function.update memory address value) other = readBe16 memory other := by
  apply readBe16_congr
  intro i _ _
  apply Function.update_of_ne
  omega

theorem readBe32_writeBe16_of_apart (value : UInt16) (h : other + 4 ≤ address ∨ address + 2 ≤ other)
    : readBe32 (writeBe16 memory address value) other = readBe32 memory other := by
  apply readBe32_congr
  intro i _ _
  apply writeBe16_of_outside
  omega

theorem readBe32_writeBe32_of_apart (value : UInt32) (h : other + 4 ≤ address ∨ address + 4 ≤ other)
    : readBe32 (writeBe32 memory address value) other = readBe32 memory other := by
  apply readBe32_congr
  intro i _ _
  apply writeBe32_of_outside
  omega

theorem readBe32_update_of_apart (value : UInt8) (h : other + 4 ≤ address ∨ address + 1 ≤ other)
    : readBe32 (Function.update memory address value) other = readBe32 memory other := by
  apply readBe32_congr
  intro i _ _
  apply Function.update_of_ne
  omega

end Words

end Streams
