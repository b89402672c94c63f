import ZZ9000.SdBoot.Hunks

/-!
This module contains when `fsrelocate_simple` keeps to its file and its hunks: what it reads has to
lie in the file, and the way through the blocks has to come to an end.
-/

namespace ZZSd

open Machines
open Streams

/-- The function returns. -/
def HunkStop.Proper (stop : HunkStop) : Prop := stop ≠ .readOutside ∧ stop ≠ .writeOutside

/-- What is written stays in the hunk. -/
def HunkAction.Inside (sizes : List UInt32) (action : HunkAction) : Prop :=
  match action with
  | .skip => True
  | .copy curHunk bytes => bytes.length ≤ 4 * (hunkSize sizes curHunk).toNat
  | .relocate cur offs _ => offs.toNat + 4 ≤ 4 * (hunkSize sizes cur).toNat

/-- Where the function fails it has freed all that it allocated, and it returns no segment list after
a check has failed. -/
def HunkOutcome.Clean (r : HunkOutcome) : Prop :=
  ∃ segment stop s, r = .returned segment stop s ∧ (segment = none → Ledger.Accounts s.log [])
    ∧ (segment ≠ none → stop.lastErr = 0)

section Sizes

variable {word hsize : UInt32}

theorem toNat_tableSize_lt (word : UInt32)
    : (tableSize word).toNat < 2 ^ 30 := by
  unfold tableSize
  rw [UInt32.toNat_and]
  exact Nat.lt_of_le_of_lt Nat.and_le_right (by decide)

theorem toNat_hunkBytes (h : hsize.toNat < 0x3ffffffe)
    : (hunkBytes hsize).toNat = 4 * hsize.toNat + 8 := by
  unfold hunkBytes
  have htwo : (2 : UInt32).toNat = 2 := rfl
  have hfour : (4 : UInt32).toNat = 4 := rfl
  rw [UInt32.toNat_mul, UInt32.toNat_add, htwo, hfour]
  omega

/-- There is no memory for a block without a size. -/
theorem size_cases (h : 0 < (hunkBytes (tableSize word)).toNat)
    : (tableSize word).toNat < 0x3ffffffe ∨ tableSize word = 0x3fffffff := by
  have hlt := toNat_tableSize_lt word
  by_cases hsmall : (tableSize word).toNat < 0x3ffffffe
  . exact Or.inl hsmall
  . by_cases hlast : (tableSize word).toNat = 0x3fffffff
    . exact Or.inr (UInt32.toNat_inj.mp hlast)
    . have heq : tableSize word = 0x3ffffffe := by
        apply UInt32.toNat_inj.mp
        have hvalue : (0x3ffffffe : UInt32).toNat = 0x3ffffffe := rfl
        omega
      rw [heq] at h
      contradiction

end Sizes

/-- The hunks are what is allocated, and each has room for its content. -/
structure Owned (s : Loader) : Prop where
  blocks : s.blocks = s.hunks.map Hunk.block
  log : Ledger.Accounts s.log (s.hunks.map Hunk.block)
  room : ∀ hunk ∈ s.hunks, hunk.size.toNat < 0x3ffffffe

section Loader

variable {s s' : Loader}

theorem poke_memory {hunk : Hunk} {offset : Nat} {value : UInt32}
    (h : offset + 4 ≤ hunk.block.size.toNat)
    : s.poke hunk offset value
        = .ok { s with memory := writeBe32 s.memory (hunk.block.address + offset) value } :=
  if_pos h

section Actions

variable {hunks : List Hunk} {action : HunkAction}

/-- The hunks that the way is about are those that are there. -/
def Holds (hunks : List Hunk) (s : Loader) : Prop := Owned s ∧ s.hunks = hunks

end Actions

section Table

variable {A : Allocator} {data : List UInt8} {firstHunk : UInt32}

/-- The hunk that an entry of the size table is about. -/
def tableHunk (address : Nat) (word : UInt32) : Hunk where
  ptr := address + 8
  size := tableSize word

/-- The memory with a hunk that has no content yet. -/
def blankHunk (memory : Nat → UInt8) (hunk : Hunk) : Nat → UInt8 :=
  let cleared (i : Nat) : UInt8 :=
    if hunk.block.address ≤ i ∧ i < hunk.block.address + hunk.block.size.toNat then 0
    else memory i
  writeBe32 (writeBe32 cleared hunk.block.address hunk.block.size) (hunk.block.address + 4) 0

/-- The loader with one more hunk. -/
def Loader.extended (s : Loader) (hunk : Hunk) : Loader where
  memory := blankHunk s.memory hunk
  blocks := s.blocks ++ [hunk.block]
  log := s.log ++ [.issue hunk.block]
  hunks := s.hunks ++ [hunk]

/-- There is memory for a hunk. -/
theorem allocHunks_extended {n : Nat} {idx word : UInt32} {address : Nat}
    (h : long data idx = .ok word)
    (hsome : A.allocMem s.blocks (hunkBytes (tableSize word)) (tableFlags word ||| memfClear)
      = some address)
    (hsize : (tableSize word).toNat < 0x3ffffffe)
    : allocHunks A data (n + 1) idx s
        = allocHunks A data n (tableNext idx word) (s.extended (tableHunk address word)) := by
  have hbytes : (tableHunk address word).block.size.toNat = 4 * (tableSize word).toNat + 8 :=
    toNat_hunkBytes hsize
  have hhead : (s.allocated { address, size := hunkBytes (tableSize word) }).head
      { ptr := address + 8, size := tableSize word }
      = .ok { s.extended (tableHunk address word) with hunks := s.hunks } := by
    show (s.allocated (tableHunk address word).block).head (tableHunk address word) = _
    unfold Loader.head
    rw [poke_memory (by omega)]
    exact poke_memory (by omega)
  rw [allocHunks, h]
  dsimp only
  rw [hsome]
  dsimp only
  rw [hhead]
  rfl

end Table

section Outcome

variable {A : Allocator} {data : List UInt8} {memory : Nat → UInt8}

/-- There is no memory. -/
def noMemory : Allocator where
  allocMem := fun _ _ _ => none
  available := nofun

end Outcome

end Loader

end ZZSd
