import ZZ9000.Machines.Walk
import ZZ9000.Resources.Ledger
import ZZ9000.Streams.Memory

/-!
This module contains `fsrelocate_simple` of `zzsd_boot.c`. Where its loops go depends on the file
alone; what they do to the hunks is told apart from that. An access that leaves the buffer of the
file or the block of a hunk stops the run.
-/

namespace ZZSd

open Machines
open Streams

def hunkName : UInt32 := 1000
def hunkCode : UInt32 := 1001
def hunkData : UInt32 := 1002
def hunkBss : UInt32 := 1003
def hunkReloc32 : UInt32 := 1004
def hunkSymbol : UInt32 := 1008
def hunkDebug : UInt32 := 1009
def hunkEnd : UInt32 := 1010
def hunkHeader : UInt32 := 1011
def hunkDrel32 : UInt32 := 1015
def hunkReloc32Short : UInt32 := 1020
def memfPublic : UInt32 := 0x1
def memfChip : UInt32 := 0x2
def memfClear : UInt32 := 0x10000

inductive HunkStop where
  /-- The segment list is returned. -/
  | finished
  /-- A check fails, with the value of `fsreloc_last_err`. -/
  | failed (err : UInt32)
  /-- A block is of no known type, with `fsreloc_last_idx` and `fsreloc_last_cur_hunk`. -/
  | unknownBlock (htype idx curHunk : UInt32)
  | readOutside
  | writeOutside
  deriving DecidableEq, Repr

/-- The value of `fsreloc_last_err`. -/
def HunkStop.lastErr (stop : HunkStop) : UInt32 :=
  match stop with
  | .failed err => err
  | .unknownBlock htype _ _ => 0x20 ||| (htype &&& 0xff)
  | _ => 0

section File

variable (data : List UInt8)

def fileByte (i : Nat) : UInt8 := data.getD i 0

/-- `ptr[idx]` -/
def long (idx : UInt32) : Except HunkStop UInt32 :=
  if 4 * idx.toNat + 4 ≤ data.length then
    .ok (readBe32 (fileByte data) (4 * idx.toNat))
  else
    .error .readOutside

/-- The word that is `consumed` bytes behind `ptr[idx]`. -/
def shortWord (idx consumed : UInt32) : Except HunkStop UInt16 :=
  if 4 * idx.toNat + consumed.toNat + 2 ≤ data.length then
    .ok (readBe16 (fileByte data) (4 * idx.toNat + consumed.toNat))
  else
    .error .readOutside

/-- The source of `CopyMem`. -/
def longs (idx hsize : UInt32) : Except HunkStop (List UInt8) :=
  if 4 * idx.toNat + 4 * hsize.toNat ≤ data.length then
    .ok ((data.drop (4 * idx.toNat)).take (4 * hsize.toNat))
  else
    .error .readOutside

/-- The checks of the header, which give `first_hunk` and `num_hunks`. -/
def fileHeader : Except UInt32 (UInt32 × UInt32) :=
  let ptr (i : Nat) : UInt32 := readBe32 (fileByte data) (4 * i)
  if data.length < 20 then .error 0x11
  else if ptr 0 ≠ hunkHeader then .error 0x12
  else if ptr 1 ≠ 0 then .error 0x13
  else if ptr 2 = 0 then .error 0x14
  -- a number with the highest bit is negative
  else if 0x80000000 ≤ ptr 3 ∨ 0x80000000 ≤ ptr 4 ∨ ptr 4 < ptr 3 then .error 0x15
  else if 16 < ptr 4 - ptr 3 + 1 then .error 0x16
  else .ok (ptr 3, ptr 4 - ptr 3 + 1)

/-- The loop that the program is in, and how far it has come. -/
inductive Place where
  | block (idx curHunk : UInt32)
  | reloc (idx curHunk : UInt32)
  | relocEntry (idx curHunk rhunk left : UInt32)
  | short (idx consumed curHunk : UInt32)
  | shortEntry (idx consumed curHunk : UInt32) (rhunk left : UInt16)
  | symbol (idx curHunk : UInt32)
  deriving DecidableEq, Repr

/-- What is done to the memory of the hunks. -/
inductive HunkAction where
  | skip
  | copy (curHunk : UInt32) (bytes : List UInt8)
  /-- The address of the hunk `rhunk` is added to a longword of the hunk `cur`. -/
  | relocate (cur offs rhunk : UInt32)
  deriving DecidableEq, Repr

abbrev HunkTurn := Except HunkStop (HunkAction × Place)

variable (firstHunk : UInt32) (sizes : List UInt32)

/-- `cur` in the relocations, which follow the content of their hunk. -/
def relocated (curHunk : UInt32) : UInt32 := if 0 < curHunk then curHunk - 1 else 0

def hunkSize (h : UInt32) : UInt32 := sizes.getD h.toNat 0

def contentTurn (idx curHunk : UInt32) : HunkTurn := do
  if sizes.length ≤ curHunk.toNat then
    throw (.failed 0x18)
  else
    let hsize ← long data idx
    if hunkSize sizes curHunk < hsize then
      throw (.failed 0x19)
    else
      let bytes ← longs data (idx + 1) hsize
      return (.copy curHunk bytes, .block (idx + 1 + hsize) (curHunk + 1))

def blockTurn (idx curHunk : UInt32) : HunkTurn := do
  if idx.toNat < data.length / 4 then
    let htype ← long data idx
    if htype = hunkCode ∨ htype = hunkData then
      contentTurn data sizes (idx + 1) curHunk
    else if htype = hunkBss then
      if sizes.length ≤ curHunk.toNat then
        throw (.failed 0x1a)
      else
        return (.skip, .block (idx + 1 + 1) (curHunk + 1))
    else if htype = hunkReloc32 then
      return (.skip, .reloc (idx + 1) curHunk)
    else if htype = hunkReloc32Short ∨ htype = hunkDrel32 then
      return (.skip, .short (idx + 1) 0 curHunk)
    else if htype = hunkSymbol then
      return (.skip, .symbol (idx + 1) curHunk)
    else if htype = hunkDebug ∨ htype = hunkName then
      let n ← long data (idx + 1)
      return (.skip, .block (idx + 1 + (n + 1)) curHunk)
    else if htype = hunkEnd then
      if sizes.length ≤ curHunk.toNat then
        throw .finished
      else
        return (.skip, .block (idx + 1) curHunk)
    else
      throw (.unknownBlock htype (idx + 1 - 1) curHunk)
  else if sizes.length ≤ curHunk.toNat then
    throw .finished
  else
    throw (.failed 0x30)

/-- The loop of `HUNK_RELOC32`. -/
def relocTurn (idx curHunk : UInt32) : HunkTurn := do
  let rcnt ← long data idx
  if rcnt = 0 then
    return (.skip, .block (idx + 1) curHunk)
  else
    let rhunk := (← long data (idx + 1)) - firstHunk
    if sizes.length ≤ rhunk.toNat then
      throw (.failed 0x1b)
    else
      return (.skip, .relocEntry (idx + 1 + 1) curHunk rhunk rcnt)

def relocEntryTurn (idx curHunk rhunk left : UInt32) : HunkTurn := do
  if left = 0 then
    return (.skip, .reloc idx curHunk)
  else
    let offs ← long data idx
    if hunkSize sizes (relocated curHunk) * 4 ≤ offs then
      throw (.failed 0x1c)
    else
      return (.relocate (relocated curHunk) offs rhunk,
        .relocEntry (idx + 1) curHunk rhunk (left - 1))

/-- The loop of `HUNK_RELOC32SHORT` and `HUNK_DREL32`. -/
def shortTurn (idx consumed curHunk : UInt32) : HunkTurn := do
  let rcnt ← shortWord data idx consumed
  if rcnt = 0 then
    return (.skip, .block (idx + (consumed + 2 + 3) / 4) curHunk)
  else
    let rhunk := (← shortWord data idx (consumed + 2)) - firstHunk.toUInt16
    if sizes.length ≤ rhunk.toNat then
      throw (.failed 0x1d)
    else
      return (.skip, .shortEntry idx (consumed + 2 + 2) curHunk rhunk rcnt)

def shortEntryTurn (idx consumed curHunk : UInt32) (rhunk left : UInt16) : HunkTurn := do
  if left = 0 then
    return (.skip, .short idx consumed curHunk)
  else
    let offs := (← shortWord data idx consumed).toUInt32
    if hunkSize sizes (relocated curHunk) * 4 ≤ offs then
      throw (.failed 0x1e)
    else
      return (.relocate (relocated curHunk) offs rhunk.toUInt32,
        .shortEntry idx (consumed + 2) curHunk rhunk (left - 1))

def symbolTurn (idx curHunk : UInt32) : HunkTurn := do
  let n ← long data idx
  if n = 0 then
    return (.skip, .block (idx + 1) curHunk)
  else
    return (.skip, .symbol (idx + 1 + ((n &&& 0xffffff) + 1)) curHunk)

def turn (place : Place) : HunkTurn :=
  match place with
  | .block idx curHunk => blockTurn data sizes idx curHunk
  | .reloc idx curHunk => relocTurn data firstHunk sizes idx curHunk
  | .relocEntry idx curHunk rhunk left => relocEntryTurn data sizes idx curHunk rhunk left
  | .short idx consumed curHunk => shortTurn data firstHunk sizes idx consumed curHunk
  | .shortEntry idx consumed curHunk rhunk left =>
    shortEntryTurn data sizes idx consumed curHunk rhunk left
  | .symbol idx curHunk => symbolTurn data idx curHunk

/-- One turn of the loop that the program is in. -/
def next (place : Place) : Next Place HunkAction HunkStop :=
  match turn data firstHunk sizes place with
  | .error stop => .stops stop
  | .ok (action, place) => .goes action place

end File

/-- A block of memory that was allocated. -/
structure MemBlock where
  address : Nat
  size : UInt32
  deriving DecidableEq, Repr

def MemBlock.apart (block other : MemBlock) : Prop :=
  block.address + block.size.toNat ≤ other.address
    ∨ other.address + other.size.toNat ≤ block.address

/-- The block is memory that is not part of another block. -/
structure Available (blocks : List MemBlock) (block : MemBlock) : Prop where
  address : 0 < block.address
  aligned : 4 ∣ block.address
  size : 0 < block.size.toNat
  room : block.address + block.size.toNat ≤ 2 ^ 32
  apart : ∀ other ∈ blocks, block.apart other

/-- `AllocMem` with the blocks that are allocated, the size and the flags, none where it fails. -/
structure Allocator where
  allocMem : List MemBlock → UInt32 → UInt32 → Option Nat
  available : ∀ blocks size flags address, allocMem blocks size flags = some address →
    Available blocks { address, size }

/-- `hunk_ptrs[h]` and `hunk_sizes[h]` -/
structure Hunk where
  ptr : Nat
  size : UInt32
  deriving DecidableEq, Repr, Inhabited

/-- `(hsize + 2) * sizeof(uint32_t)` -/
def hunkBytes (hsize : UInt32) : UInt32 := (hsize + 2) * 4

/-- What `FreeMem` is called with. -/
def Hunk.block (hunk : Hunk) : MemBlock where
  address := hunk.ptr - 8
  size := hunkBytes hunk.size

structure Loader where
  memory : Nat → UInt8
  blocks : List MemBlock
  log : List (Ledger.Entry MemBlock)
  hunks : List Hunk

namespace Loader

def allocated (block : MemBlock) (s : Loader) : Loader :=
  {
    s with
    -- MEMF_CLEAR
    memory := fun i =>
      if block.address ≤ i ∧ i < block.address + block.size.toNat then 0 else s.memory i
    blocks := s.blocks ++ [block]
    log := s.log ++ [.issue block]
  }

def freeMem (s : Loader) (block : MemBlock) : Loader :=
  { s with blocks := s.blocks.erase block, log := s.log ++ [.giveBack block] }

/-- The cleanup after `fail`. -/
def freeHunks (s : Loader) : Loader := (s.hunks.map Hunk.block).foldl freeMem s

/-- A longword is written through the pointer to a hunk. -/
def poke (hunk : Hunk) (offset : Nat) (value : UInt32) (s : Loader) : Except HunkStop Loader :=
  if offset + 4 ≤ hunk.block.size.toNat then
    .ok { s with memory := writeBe32 s.memory (hunk.block.address + offset) value }
  else
    .error .writeOutside

/-- `hunk[0]` and `hunk[1]` -/
def head (hunk : Hunk) (s : Loader) : Except HunkStop Loader := do
  let s ← s.poke hunk 0 (hunkBytes hunk.size)
  s.poke hunk 4 0

end Loader

/-- The word of the size table without the flags of the memory. -/
def tableSize (word : UInt32) : UInt32 := word &&& 0x3fffffff

def tableFlags (word : UInt32) : UInt32 :=
  if word &&& 0xc0000000 ≠ 0xc0000000 ∧ word &&& 0x40000000 ≠ 0 then
    memfPublic ||| memfChip
  else
    memfPublic

/-- An extra word with flags of the memory may follow. -/
def tableNext (idx word : UInt32) : UInt32 :=
  if word &&& 0xc0000000 = 0xc0000000 then idx + 1 + 1 else idx + 1

/-- The loop over the size table, which gives the place of the first block. -/
def allocHunks (A : Allocator) (data : List UInt8) (n : Nat) (idx : UInt32) (s : Loader)
    : Except HunkStop UInt32 × Loader :=
  match n with
  | 0 => (.ok idx, s)
  | n + 1 =>
    match long data idx with
    | .error stop => (.error stop, s)
    | .ok word =>
      let hsize := tableSize word
      match A.allocMem s.blocks (hunkBytes hsize) (tableFlags word ||| memfClear) with
      | none => (.error (.failed 0x17), s)
      | some address =>
        let hunk := { ptr := address + 8, size := hsize }
        match (s.allocated { address, size := hunkBytes hsize }).head hunk with
        | .error stop => (.error stop, s)
        | .ok s => allocHunks A data n (tableNext idx word) { s with hunks := s.hunks ++ [hunk] }

/-- The loop that links each hunk to the one after it. -/
def linkHunks (hunks : List Hunk) (s : Loader) : Except HunkStop Loader :=
  match hunks with
  | hunk :: after :: hunks => do
    let s ← s.poke hunk 4 (UInt32.ofNat ((after.ptr - 4) / 4))
    linkHunks (after :: hunks) s
  | _ => .ok s

/-- What a turn does. -/
def perform (action : HunkAction) (s : Loader) : Except HunkStop Loader :=
  match action with
  | .skip => .ok s
  | .copy curHunk bytes =>
    let hunk := s.hunks.getD curHunk.toNat default
    if 8 + bytes.length ≤ hunk.block.size.toNat then
      .ok { s with memory := store s.memory hunk.ptr bytes }
    else
      .error .writeOutside
  | .relocate cur offs rhunk =>
    let hunk := s.hunks.getD cur.toNat default
    let base := UInt32.ofNat (s.hunks.getD rhunk.toNat default).ptr
    s.poke hunk (8 + offs.toNat) (readBe32 s.memory (hunk.ptr + offs.toNat) + base)

inductive HunkOutcome where
  /-- The result is the address of the segment list, none for `NULL`. -/
  | returned (segment : Option Nat) (stop : HunkStop) (s : Loader)
  | readOutside
  | writeOutside
  /-- It takes more turns than that. -/
  | running

def outcome (stop : HunkStop) (s : Loader) : HunkOutcome :=
  match stop with
  | .finished => .returned (some ((s.hunks.getD 0 default).ptr - 4)) stop s
  | .failed _ => .returned none stop s.freeHunks
  | .unknownBlock _ _ _ => .returned none stop s.freeHunks
  | .readOutside => .readOutside
  | .writeOutside => .writeOutside

def fsrelocateSimple (A : Allocator) (data : List UInt8) (memory : Nat → UInt8) (fuel : Nat)
    : HunkOutcome :=
  let s : Loader := { memory, blocks := [], log := [], hunks := [] }
  match fileHeader data with
  | .error err => .returned none (.failed err) s
  | .ok (firstHunk, numHunks) =>
    match allocHunks A data numHunks.toNat 5 s with
    | (.error stop, s) => outcome stop s
    | (.ok idx, s) =>
      match linkHunks s.hunks s with
      | .error stop => outcome stop s
      | .ok s =>
        match run (next data firstHunk (s.hunks.map Hunk.size)) perform fuel (.block idx 0) s with
        | none => .running
        | some (stop, s) => outcome stop s

end ZZSd
