import ZZ9000.SdBoot.Hunks

/-!
This module contains the load files: what they are made of, the bytes that they are stored as, and
what the memory of their hunks is once they are loaded.
-/

namespace ZZSd

open Streams

def wordBytes (word : UInt16) : List UInt8 := [(word >>> 8).toUInt8, word.toUInt8]

def longBytes (long : UInt32) : List UInt8 :=
  [(long >>> 24).toUInt8, (long >>> 16).toUInt8, (long >>> 8).toUInt8, long.toUInt8]

/-- A number of longwords and the longwords. -/
def countedBytes (longs : List UInt32) : List UInt8 :=
  longBytes (UInt32.ofNat longs.length) ++ longs.flatMap longBytes

/-- The memory that a hunk is for. -/
inductive HunkMemory where
  | any
  | chip
  | fast
  /-- An extra word in the size table has the flags. -/
  | extra (flags : UInt32)
  deriving DecidableEq, Repr

/-- The relocations that add the address of one hunk. -/
structure RelocGroup (α : Type) where
  target : Nat
  offsets : List α
  deriving DecidableEq, Repr

structure LoadSymbol where
  kind : UInt8
  name : List UInt32
  value : UInt32
  deriving DecidableEq, Repr

/-- The number of longwords of the name below the kind. -/
def LoadSymbol.head (symbol : LoadSymbol) : Nat :=
  symbol.kind.toNat * 2 ^ 24 + symbol.name.length

/-- A block that the loader has no use for. -/
inductive LoadNote where
  | symbol (symbols : List LoadSymbol)
  | debug (longs : List UInt32)
  | name (longs : List UInt32)
  deriving DecidableEq, Repr

inductive LoadPart where
  | note (note : LoadNote)
  | reloc32 (groups : List (RelocGroup UInt32))
  /-- `HUNK_DREL32` if `drel`, and a word `padding` where it takes one to fill a longword. -/
  | short (drel : Bool) (groups : List (RelocGroup UInt16)) (padding : UInt16)
  deriving DecidableEq, Repr

inductive LoadContent where
  | code (longs : List UInt32)
  | data (longs : List UInt32)
  | bss (size : UInt32)
  deriving DecidableEq, Repr

structure LoadHunk where
  memory : HunkMemory
  size : Nat
  before : List LoadNote
  content : LoadContent
  parts : List LoadPart
  deriving DecidableEq, Repr

structure LoadFile where
  /-- The size of the table of the resident hunks. -/
  tableSize : UInt32
  /-- The number of the first hunk. -/
  firstHunk : Nat
  hunks : List LoadHunk
  deriving DecidableEq, Repr

/-- The two highest bits of an entry of the size table. -/
def HunkMemory.flags (memory : HunkMemory) : UInt32 :=
  match memory with
  | .any => 0
  | .chip => 0x40000000
  | .fast => 0x80000000
  | .extra _ => 0xc0000000

def HunkMemory.word (memory : HunkMemory) (size : Nat) : UInt32 :=
  UInt32.ofNat size ||| memory.flags

def HunkMemory.bytes (memory : HunkMemory) (size : Nat) : List UInt8 :=
  match memory with
  | .extra flags => longBytes (memory.word size) ++ longBytes flags
  | _ => longBytes (memory.word size)

def LoadSymbol.bytes (symbol : LoadSymbol) : List UInt8 :=
  longBytes (UInt32.ofNat symbol.head) ++ symbol.name.flatMap longBytes ++ longBytes symbol.value

def LoadNote.bytes (note : LoadNote) : List UInt8 :=
  match note with
  | .symbol symbols => longBytes hunkSymbol ++ symbols.flatMap LoadSymbol.bytes ++ longBytes 0
  | .debug longs => longBytes hunkDebug ++ countedBytes longs
  | .name longs => longBytes hunkName ++ countedBytes longs

section Groups

variable (firstHunk : Nat)

def RelocGroup.bytes32 (group : RelocGroup UInt32) : List UInt8 :=
  longBytes (UInt32.ofNat group.offsets.length)
    ++ longBytes (UInt32.ofNat (firstHunk + group.target))
    ++ group.offsets.flatMap longBytes

def RelocGroup.bytes16 (group : RelocGroup UInt16) : List UInt8 :=
  wordBytes (UInt16.ofNat group.offsets.length)
    ++ wordBytes (UInt16.ofNat (firstHunk + group.target))
    ++ group.offsets.flatMap wordBytes

/-- The words of the short relocations with the zero that ends them. -/
def shortBytes (groups : List (RelocGroup UInt16)) : List UInt8 :=
  groups.flatMap (RelocGroup.bytes16 firstHunk) ++ wordBytes 0

/-- A word where it takes one to fill a longword. -/
def padded (bytes : List UInt8) (padding : UInt16) : List UInt8 :=
  if bytes.length % 4 = 0 then bytes else bytes ++ wordBytes padding

def LoadPart.bytes (part : LoadPart) : List UInt8 :=
  match part with
  | .note block => block.bytes
  | .reloc32 groups =>
    longBytes hunkReloc32 ++ groups.flatMap (RelocGroup.bytes32 firstHunk) ++ longBytes 0
  | .short drel groups padding =>
    longBytes (if drel then hunkDrel32 else hunkReloc32Short)
      ++ padded (shortBytes firstHunk groups) padding

end Groups

def LoadContent.bytes (content : LoadContent) : List UInt8 :=
  match content with
  | .code longs => longBytes hunkCode ++ countedBytes longs
  | .data longs => longBytes hunkData ++ countedBytes longs
  | .bss size => longBytes hunkBss ++ longBytes size

/-- A hunk without the `HUNK_END` behind it. -/
def LoadHunk.body (firstHunk : Nat) (hunk : LoadHunk) : List UInt8 :=
  hunk.before.flatMap LoadNote.bytes ++ hunk.content.bytes
    ++ hunk.parts.flatMap (LoadPart.bytes firstHunk)

def LoadHunk.bytes (firstHunk : Nat) (hunk : LoadHunk) : List UInt8 :=
  hunk.body firstHunk ++ longBytes hunkEnd

namespace LoadFile

def header (file : LoadFile) : List UInt8 :=
  longBytes hunkHeader ++ longBytes 0 ++ longBytes file.tableSize
    ++ longBytes (UInt32.ofNat file.firstHunk)
    ++ longBytes (UInt32.ofNat (file.firstHunk + file.hunks.length - 1))

def sizeTable (file : LoadFile) : List UInt8 :=
  file.hunks.flatMap fun hunk => hunk.memory.bytes hunk.size

def bytes (file : LoadFile) : List UInt8 :=
  file.header ++ file.sizeTable ++ file.hunks.flatMap (LoadHunk.bytes file.firstHunk)

end LoadFile

section WellFormed

/-- The longword at the offset is part of the hunk, and the target is a hunk of the file. -/
structure RelocGroup.WellFormed {α : Type} (toNat : α → Nat) (size count : Nat)
    (group : RelocGroup α) : Prop where
  target : group.target < count
  /-- A group without relocations would end the block. -/
  some_ : group.offsets ≠ []
  inside : ∀ offset ∈ group.offsets, toNat offset + 4 ≤ 4 * size

structure LoadSymbol.WellFormed (symbol : LoadSymbol) : Prop where
  name : symbol.name.length < 2 ^ 24
  head : symbol.head ≠ 0

def LoadNote.WellFormed (note : LoadNote) : Prop :=
  match note with
  | .symbol symbols => ∀ symbol ∈ symbols, symbol.WellFormed
  | _ => True

def LoadPart.WellFormed (size count : Nat) (part : LoadPart) : Prop :=
  match part with
  | .note block => block.WellFormed
  | .reloc32 groups => ∀ group ∈ groups, group.WellFormed UInt32.toNat size count
  | .short _ groups _ =>
    ∀ group ∈ groups, group.WellFormed UInt16.toNat size count ∧ group.offsets.length < 2 ^ 16

def LoadContent.length (content : LoadContent) : Nat :=
  match content with
  | .code longs => longs.length
  | .data longs => longs.length
  | .bss size => size.toNat

structure LoadHunk.WellFormed (count : Nat) (hunk : LoadHunk) : Prop where
  size : hunk.size < 2 ^ 30
  before : ∀ note ∈ hunk.before, note.WellFormed
  content : hunk.content.length ≤ hunk.size
  parts : ∀ part ∈ hunk.parts, part.WellFormed hunk.size count

structure LoadFile.WellFormed (file : LoadFile) : Prop where
  tableSize : file.tableSize ≠ 0
  some_ : 1 ≤ file.hunks.length
  count : file.hunks.length ≤ 16
  firstHunk : file.firstHunk + file.hunks.length ≤ 2 ^ 31
  hunks : ∀ hunk ∈ file.hunks, hunk.WellFormed file.hunks.length
  /-- The size of the file is a number of 32 bits. -/
  size : file.bytes.length < 2 ^ 32

end WellFormed

section Image

/-- The address of a hunk is added to the longword at the offset. -/
def relocateAt (image : Nat → UInt8) (offset : Nat) (base : UInt32) : Nat → UInt8 :=
  writeBe32 image offset (readBe32 image offset + base)

def RelocGroup.entries {α : Type} (toNat : α → Nat) (group : RelocGroup α) : List (Nat × Nat) :=
  group.offsets.map fun offset => (toNat offset, group.target)

/-- The offsets and the hunks whose addresses are added there. -/
def LoadPart.entries (part : LoadPart) : List (Nat × Nat) :=
  match part with
  | .note _ => []
  | .reloc32 groups => groups.flatMap (RelocGroup.entries UInt32.toNat)
  | .short _ groups _ => groups.flatMap (RelocGroup.entries UInt16.toNat)

/-- What the file has for the memory of a hunk, with zeros behind it. -/
def LoadContent.image (content : LoadContent) (i : Nat) : UInt8 :=
  match content with
  | .code longs => (longs.flatMap longBytes).getD i 0
  | .data longs => (longs.flatMap longBytes).getD i 0
  | .bss _ => 0

/-- The memory of a hunk with every relocation made once. -/
def LoadHunk.image (base : Nat → UInt32) (hunk : LoadHunk) : Nat → UInt8 :=
  (hunk.parts.flatMap LoadPart.entries).foldl
    (fun image entry => relocateAt image entry.1 (base entry.2)) hunk.content.image

end Image

namespace LoadFile

/-- The hunks with the addresses that there is memory at. -/
def hunksAt (file : LoadFile) (address : Nat → Nat) : List Hunk :=
  file.hunks.mapIdx fun h hunk => { ptr := address h + 8, size := UInt32.ofNat hunk.size }

/-- There is memory for each of the hunks. -/
def Granted (A : Allocator) (file : LoadFile) (address : Nat → Nat) : Prop :=
  ∀ h hunk, file.hunks[h]? = some hunk →
    A.allocMem (((file.hunksAt address).take h).map Hunk.block)
        (hunkBytes (UInt32.ofNat hunk.size))
        (tableFlags (hunk.memory.word hunk.size) ||| memfClear)
      = some (address h)

/-- The address that the hunks are relocated with. -/
def base (address : Nat → Nat) (h : Nat) : UInt32 := UInt32.ofNat (address h + 8)

/--
The segment list links the hunks in their order. The memory of each is what the file has for it, and
the longword before the link is the number of bytes of its block.
-/
structure Loaded (file : LoadFile) (address : Nat → Nat) (segment : Nat) (s : Loader) : Prop where
  segment : segment = address 0 + 4
  blocks : s.blocks = (file.hunksAt address).map Hunk.block
  size : ∀ h hunk, file.hunks[h]? = some hunk →
    (readBe32 s.memory (address h)).toNat = 4 * (hunk.size + 2)
  /-- A link is a number of longwords. -/
  link : ∀ h, h + 1 < file.hunks.length →
    4 * (readBe32 s.memory (address h + 4)).toNat = address (h + 1) + 4
  last : readBe32 s.memory (address (file.hunks.length - 1) + 4) = 0
  memory : ∀ h hunk, file.hunks[h]? = some hunk → ∀ i < 4 * hunk.size,
    s.memory (address h + 8 + i) = hunk.image (base address) i

/-- The file is loaded. -/
def Loads (A : Allocator) (file : LoadFile) (address : Nat → Nat) (memory : Nat → UInt8) : Prop :=
  ∃ fuel segment s, fsrelocateSimple A file.bytes memory fuel = .returned (some segment) .finished s
    ∧ file.Loaded address segment s

end LoadFile

end ZZSd
