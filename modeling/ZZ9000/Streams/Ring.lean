import ZZ9000.Streams.Memory

/-!
This module contains streams that go through a ring: a memory of `capacity` cells and two counters
of 32 bits, one for what was written to the stream and one for what was taken from it. The counters
start somewhere and wrap, which does no harm if the capacity divides `2 ^ 32`.
-/

namespace Streams

/-- The counter of a stream that started at `start` at a position of the stream. -/
def counter (start : UInt32) (position : Nat) : UInt32 := start + UInt32.ofNat position

theorem counter_zero (start : UInt32)
    : counter start 0 = start := by
  unfold counter
  simp

theorem counter_counter (start : UInt32) (p q : Nat)
    : counter (counter start p) q = counter start (p + q) := by
  unfold counter
  rw [UInt32.ofNat_add, UInt32.add_assoc]

theorem toNat_counter (start : UInt32) (position : Nat)
    : (counter start position).toNat = (start.toNat + position) % 2 ^ 32 := by
  unfold counter
  rw [UInt32.toNat_add, UInt32.toNat_ofNat']
  omega

/-- The distance of two counters is the one of their positions. -/
theorem counter_sub_counter (start : UInt32) {lo hi : Nat} (h : lo ≤ hi)
    : counter start hi - counter start lo = UInt32.ofNat (hi - lo) := by
  have hsum : counter start hi = counter start lo + UInt32.ofNat (hi - lo) := by
    unfold counter
    rw [UInt32.add_assoc, ← UInt32.ofNat_add]
    rw [Nat.add_sub_cancel' h]
  rw [hsum]
  rw [UInt32.add_comm, UInt32.add_sub_cancel]

theorem toNat_counter_sub_counter (start : UInt32) {lo hi : Nat} (h : lo ≤ hi)
    (hsmall : hi - lo < 2 ^ 32)
    : (counter start hi - counter start lo).toNat = hi - lo := by
  rw [counter_sub_counter start h]
  rw [UInt32.toNat_ofNat']
  omega

/-- The capacity of a ring. -/
structure Capacity where
  cells : Nat
  wraps : cells ∣ 2 ^ 32
  small : cells < 2 ^ 32

namespace Capacity

variable (cap : Capacity)

theorem pos : 0 < cap.cells := by
  apply Nat.pos_of_dvd_of_pos cap.wraps
  omega

/-- The capacity as the counters' own type. -/
def word : UInt32 := UInt32.ofNat cap.cells

@[simp] theorem toNat_word : cap.word.toNat = cap.cells := by
  unfold word
  rw [UInt32.toNat_ofNat']
  apply Nat.mod_eq_of_lt
  exact cap.small

/-- The cell of a position. -/
def cell (start : UInt32) (position : Nat) : Nat := (start.toNat + position) % cap.cells

theorem cell_lt (start : UInt32) (position : Nat) : cap.cell start position < cap.cells := by
  unfold cell
  apply Nat.mod_lt
  exact cap.pos

/-- The wrapped counter is at the cell of its position. -/
theorem toNat_counter_mod (start : UInt32) (position : Nat)
    : (counter start position % cap.word).toNat = cap.cell start position := by
  rw [UInt32.toNat_mod, toNat_counter, toNat_word]
  unfold cell
  rw [Nat.mod_mod_of_dvd _ cap.wraps]

theorem cell_counter (start : UInt32) (p q : Nat)
    : cap.cell (counter start p) q = cap.cell start (p + q) := by
  unfold cell
  rw [toNat_counter, ← Nat.add_assoc]
  rw [Nat.add_mod, Nat.mod_mod_of_dvd _ cap.wraps]
  rw [← Nat.add_mod]

/-- The cells up to the end of the memory follow each other. -/
theorem cell_add {start : UInt32} {position n : Nat}
    (h : cap.cell start position + n < cap.cells)
    : cap.cell start (position + n) = cap.cell start position + n := by
  unfold cell at h ⊢
  rw [← Nat.add_assoc]
  rw [← Nat.mod_add_mod]
  apply Nat.mod_eq_of_lt
  exact h

/-- Positions of one round are at different cells. -/
theorem cell_inj {start : UInt32} {p q : Nat} (hle : p ≤ q) (hround : q < p + cap.cells)
    (h : cap.cell start p = cap.cell start q)
    : p = q := by
  unfold cell at h
  have hdvd := (Nat.modEq_iff_dvd' (Nat.add_le_add_left hle start.toNat)).mp h
  rw [Nat.add_sub_add_left] at hdvd
  have := Nat.eq_zero_of_dvd_of_lt hdvd (by omega)
  omega

end Capacity

variable {α : Type}

/-- Write the cells of consecutive positions. -/
def write (cap : Capacity) (memory : Nat → α) (start : UInt32) (position : Nat) (xs : List α)
    : Nat → α :=
  match xs with
  | [] => memory
  | x :: xs =>
    write cap (Function.update memory (cap.cell start position) x) start (position + 1) xs

/-- Read the cells of consecutive positions. -/
def window (cap : Capacity) (memory : Nat → α) (start : UInt32) (n : Nat) : List α :=
  (List.range n).map fun p => memory (cap.cell start p)

/-- The memory holds the stream from a position on. -/
def Holds (cap : Capacity) (memory : Nat → α) (start : UInt32) (stream : List α) (position : Nat)
    : Prop :=
  ∀ p, position ≤ p → p < stream.length → stream[p]? = some (memory (cap.cell start p))

variable {cap : Capacity} {memory : Nat → α} {start : UInt32} {stream : List α} {lo : Nat}

/-- A block that does not pass the end of the memory is written in one piece. -/
theorem store_cell {position : Nat} {xs : List α}
    (h : cap.cell start position + xs.length ≤ cap.cells)
    : store memory (cap.cell start position) xs = write cap memory start position xs := by
  induction xs generalizing memory position with
  | nil => rfl
  | cons x xs ih =>
    unfold store write
    rw [List.length_cons] at h
    cases xs with
    | nil => rfl
    | cons y ys =>
      rw [List.length_cons] at h
      have hnext : cap.cell start (position + 1) = cap.cell start position + 1 := by
        apply cap.cell_add
        omega
      rw [← hnext]
      apply ih
      rw [hnext, List.length_cons]
      omega

theorem write_counter (p q : Nat) (xs : List α)
    : write cap memory (counter start p) q xs = write cap memory start (p + q) xs := by
  induction xs generalizing memory q with
  | nil => rfl
  | cons x xs ih =>
    unfold write
    rw [cap.cell_counter, ih]
    rfl

@[simp] theorem length_window (n : Nat) : (window cap memory start n).length = n := by
  unfold window
  rw [List.length_map, List.length_range]

theorem holds_window (n : Nat) : Holds cap memory start (window cap memory start n) 0 := by
  intro p _ hp
  rw [length_window] at hp
  unfold window
  rw [List.getElem?_map, List.getElem?_range hp]
  rfl

theorem Holds.advance {hi : Nat} (h : Holds cap memory start stream lo) (hle : lo ≤ hi)
    : Holds cap memory start stream hi := by
  intro p hp
  apply h
  omega

theorem Holds.concat {x : α} (h : Holds cap memory start stream lo)
    (hspace : stream.length < lo + cap.cells)
    : Holds cap (Function.update memory (cap.cell start stream.length) x) start (stream ++ [x])
        lo := by
  intro p hp hlt
  rw [List.length_append, List.length_singleton] at hlt
  cases Nat.lt_or_eq_of_le (Nat.le_of_lt_succ hlt) with
  | inl hold =>
    rw [List.getElem?_append_left hold]
    rw [Function.update_of_ne]
    . exact h p hp hold
    . intro heq
      have := cap.cell_inj (Nat.le_of_lt hold) (by omega) heq
      omega
  | inr heq =>
    rw [heq, Function.update_self, List.getElem?_append_right (Nat.le_refl _)]
    simp

/-- What is written within the capacity spares everything that is still held. -/
theorem Holds.write {xs : List α} (h : Holds cap memory start stream lo)
    (hspace : stream.length + xs.length ≤ lo + cap.cells)
    : Holds cap (write cap memory start stream.length xs) start (stream ++ xs) lo := by
  induction xs generalizing memory stream with
  | nil =>
    rw [List.append_nil]
    exact h
  | cons x xs ih =>
    rw [List.length_cons] at hspace
    have hx := h.concat (x := x) (by omega)
    have hlength : (stream ++ [x]).length = stream.length + 1 := by
      simp
    have := ih hx (by omega)
    rw [hlength, List.append_assoc] at this
    exact this

/-- A block that does not pass the end of the memory is read in one piece. -/
theorem Holds.read {position n : Nat} (h : Holds cap memory start stream lo)
    (hlo : lo ≤ position) (hlength : position + n ≤ stream.length)
    (hend : cap.cell start position + n ≤ cap.cells)
    : (List.range n).map (fun i => memory (cap.cell start position + i))
        =
      (stream.drop position).take n := by
  apply List.ext_getElem?
  intro i
  by_cases hi : i < n
  . rw [List.getElem?_map, List.getElem?_range hi]
    rw [List.getElem?_take_of_lt hi, List.getElem?_drop]
    rw [h (position + i) (by omega) (by omega)]
    rw [cap.cell_add (by omega)]
    rfl
  . rw [List.getElem?_eq_none, List.getElem?_eq_none]
    . rw [List.length_take, List.length_drop]
      omega
    . rw [List.length_map, List.length_range]
      omega

end Streams
