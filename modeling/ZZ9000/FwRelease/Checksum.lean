import ZZ9000.Streams.Blocks

/-!
This module contains the checksums of `fw_release.c`, CRC-32 and SHA-256, which are computed over a
file as its pieces come in.
-/

namespace ZZRel

open Streams

def crc32Shift (c : UInt32) : UInt32 :=
  if c &&& 1 ≠ 0 then (0xedb88320 : UInt32) ^^^ (c >>> 1) else c >>> 1

/-- The entry `n` of the table of `crc32_update`. -/
def crc32Table (n : UInt32) : UInt32 := Nat.repeat crc32Shift 8 n

def crc32Byte (crc : UInt32) (byte : UInt8) : UInt32 :=
  crc32Table ((crc ^^^ byte.toUInt32) &&& 0xff) ^^^ (crc >>> 8)

def crc32Update (crc : UInt32) (data : List UInt8) : UInt32 :=
  ~~~ data.foldl crc32Byte (~~~ crc)

/-- The CRC-32 of a whole file. -/
def crc32 (data : List UInt8) : UInt32 := crc32Update 0 data

theorem crc32Update_append (crc : UInt32) (data data' : List UInt8)
    : crc32Update (crc32Update crc data) data' = crc32Update crc (data ++ data') := by
  unfold crc32Update
  rw [List.foldl_append, UInt32.not_not]

theorem crc32_append (data data' : List UInt8)
    : crc32Update (crc32 data) data' = crc32 (data ++ data') :=
  crc32Update_append 0 data data'

structure Sha256Words where
  a : UInt32
  b : UInt32
  c : UInt32
  d : UInt32
  e : UInt32
  f : UInt32
  g : UInt32
  h : UInt32

def sha256K : List UInt32 := [
  0x428a2f98, 0x71374491, 0xb5c0fbcf, 0xe9b5dba5,
  0x3956c25b, 0x59f111f1, 0x923f82a4, 0xab1c5ed5,
  0xd807aa98, 0x12835b01, 0x243185be, 0x550c7dc3,
  0x72be5d74, 0x80deb1fe, 0x9bdc06a7, 0xc19bf174,
  0xe49b69c1, 0xefbe4786, 0x0fc19dc6, 0x240ca1cc,
  0x2de92c6f, 0x4a7484aa, 0x5cb0a9dc, 0x76f988da,
  0x983e5152, 0xa831c66d, 0xb00327c8, 0xbf597fc7,
  0xc6e00bf3, 0xd5a79147, 0x06ca6351, 0x14292967,
  0x27b70a85, 0x2e1b2138, 0x4d2c6dfc, 0x53380d13,
  0x650a7354, 0x766a0abb, 0x81c2c92e, 0x92722c85,
  0xa2bfe8a1, 0xa81a664b, 0xc24b8b70, 0xc76c51a3,
  0xd192e819, 0xd6990624, 0xf40e3585, 0x106aa070,
  0x19a4c116, 0x1e376c08, 0x2748774c, 0x34b0bcb5,
  0x391c0cb3, 0x4ed8aa4a, 0x5b9cca4f, 0x682e6ff3,
  0x748f82ee, 0x78a5636f, 0x84c87814, 0x8cc70208,
  0x90befffa, 0xa4506ceb, 0xbef9a3f7, 0xc67178f2]

def sha256Rotr (value bits : UInt32) : UInt32 := (value >>> bits) ||| (value <<< (32 - bits))

def be32 (data : List UInt8) : UInt32 :=
  ((data.getD 0 0).toUInt32 <<< 24) ||| ((data.getD 1 0).toUInt32 <<< 16) |||
    ((data.getD 2 0).toUInt32 <<< 8) ||| (data.getD 3 0).toUInt32

/-- One more word of the message schedule. -/
def sha256Extend (w : List UInt32) : List UInt32 :=
  let i := w.length
  let w15 := w.getD (i - 15) 0
  let w2 := w.getD (i - 2) 0
  let s0 := sha256Rotr w15 7 ^^^ sha256Rotr w15 18 ^^^ (w15 >>> 3)
  let s1 := sha256Rotr w2 17 ^^^ sha256Rotr w2 19 ^^^ (w2 >>> 10)
  w ++ [w.getD (i - 16) 0 + s0 + w.getD (i - 7) 0 + s1]

def sha256Schedule (data : List UInt8) : List UInt32 :=
  Nat.repeat sha256Extend 48 ((List.range 16).map fun i => be32 (data.drop (i * 4)))

def sha256Round (s : Sha256Words) (kw : UInt32 × UInt32) : Sha256Words :=
  let s1 := sha256Rotr s.e 6 ^^^ sha256Rotr s.e 11 ^^^ sha256Rotr s.e 25
  let choose := (s.e &&& s.f) ^^^ (~~~ s.e &&& s.g)
  let t1 := s.h + s1 + choose + kw.1 + kw.2
  let s0 := sha256Rotr s.a 2 ^^^ sha256Rotr s.a 13 ^^^ sha256Rotr s.a 22
  let majority := (s.a &&& s.b) ^^^ (s.a &&& s.c) ^^^ (s.b &&& s.c)
  let t2 := s0 + majority
  ⟨t1 + t2, s.a, s.b, s.c, s.d + t1, s.e, s.f, s.g⟩

def sha256Block (state : Sha256Words) (data : List UInt8) : Sha256Words :=
  let s := (sha256K.zip (sha256Schedule data)).foldl sha256Round state
  ⟨state.a + s.a, state.b + s.b, state.c + s.c, state.d + s.d,
    state.e + s.e, state.f + s.f, state.g + s.g, state.h + s.h⟩

def sha256Initial : Sha256Words :=
  ⟨0x6a09e667, 0xbb67ae85, 0x3c6ef372, 0xa54ff53a, 0x510e527f, 0x9b05688c, 0x1f83d9ab, 0x5be0cd19⟩

def be32Bytes (n : UInt32) : List UInt8 :=
  [(n >>> 24).toUInt8, (n >>> 16).toUInt8, (n >>> 8).toUInt8, n.toUInt8]

def be64Bytes (n : UInt64) : List UInt8 :=
  be32Bytes (n >>> 32).toUInt32 ++ be32Bytes n.toUInt32

def Sha256Words.bytes (s : Sha256Words) : List UInt8 :=
  [s.a, s.b, s.c, s.d, s.e, s.f, s.g, s.h].flatMap be32Bytes

/-- `struct fwrel_sha256`. The bytes of `block` that are in use are the list. -/
structure Sha256 where
  state : Sha256Words
  bits : UInt64
  block : List UInt8
  used_lt : block.length < 64

namespace Sha256

def init : Sha256 := ⟨sha256Initial, 0, [], by decide⟩

/-- The loop of `sha256_update`. -/
def absorb (sha : Sha256) (data : List UInt8) : Sha256 :=
  if data = [] then
    sha
  else
    let n := min (64 - sha.block.length) data.length
    let block := sha.block ++ data.take n
    if h : block.length = 64 then
      absorb ⟨sha256Block sha.state block, sha.bits, [], by decide⟩ (data.drop n)
    else
      absorb ⟨sha.state, sha.bits, block, by
        have := sha.used_lt
        simp only [block, List.length_append, List.length_take] at h ⊢
        omega⟩ (data.drop n)
termination_by data.length
decreasing_by
  all_goals
    have := sha.used_lt
    have := List.length_pos_iff.mpr ‹_›
    rw [List.length_drop]
    omega

def update (sha : Sha256) (data : List UInt8) : Sha256 :=
  absorb { sha with bits := sha.bits + data.length.toUInt64 * 8 } data

def final (sha : Sha256) : List UInt8 :=
  let block := sha.block ++ [0x80]
  let (state, block) :=
    if 56 < block.length then
      (sha256Block sha.state (block ++ List.replicate (64 - block.length) 0), [])
    else
      (sha.state, block)
  (sha256Block state (block ++ List.replicate (56 - block.length) 0 ++ be64Bytes sha.bits)).bytes

end Sha256

/-- A message with a one bit, zeros and its length in bits, up to a full block. -/
def sha256Pad (data : List UInt8) : List UInt8 :=
  data ++ 0x80 :: (List.replicate ((119 - data.length % 64) % 64) 0 ++
    be64Bytes (data.length.toUInt64 * 8))

/-- SHA-256 of a whole message. -/
def sha256 (data : List UInt8) : List UInt8 :=
  (foldBlocks 64 sha256Block sha256Initial (sha256Pad data)).1.bytes

namespace Sha256

theorem absorb_eq (sha : Sha256) (data : List UInt8)
    : ((absorb sha data).state, (absorb sha data).block)
        =
      foldBlocks 64 sha256Block sha.state (sha.block ++ data) := by
  fun_induction absorb sha data with
  | case1 sha =>
    rw [List.append_nil, foldBlocks_of_lt sha.used_lt]
  | case2 sha data hdata n block hblock ih =>
    rw [ih, ← foldBlocks_block (by decide) hblock]
    rw [List.nil_append, List.append_assoc, List.take_append_drop]
  | case3 sha data hdata n block hblock ih =>
    rw [ih]
    dsimp only [block]
    rw [List.append_assoc, List.take_append_drop]

theorem absorb_bits (sha : Sha256) (data : List UInt8) : (absorb sha data).bits = sha.bits := by
  fun_induction absorb sha data with
  | case1 sha => rfl
  | case2 sha data hdata n block hblock ih => rw [ih]
  | case3 sha data hdata n block hblock ih => rw [ih]

/-- The hash has been updated with `data` since `sha256_init`. -/
structure Absorbed (sha : Sha256) (data : List UInt8) : Prop where
  blocks : (sha.state, sha.block) = foldBlocks 64 sha256Block sha256Initial data
  bits : sha.bits = data.length.toUInt64 * 8

theorem absorbed_init : init.Absorbed [] where
  blocks := (foldBlocks_of_lt (by decide) _).symm
  bits := by decide

theorem Absorbed.update {sha : Sha256} {data : List UInt8} (h : sha.Absorbed data)
    (data' : List UInt8)
    : (sha.update data').Absorbed (data ++ data') where
  blocks := by
    unfold Sha256.update
    rw [absorb_eq, foldBlocks_append (by decide) sha256Initial, ← h.blocks]
  bits := by
    unfold Sha256.update
    rw [absorb_bits, List.length_append, h.bits]
    simp only [Nat.toUInt64_eq, UInt64.ofNat_add]
    rw [UInt64.add_mul]

theorem Absorbed.final {sha : Sha256} {data : List UInt8} (h : sha.Absorbed data)
    : sha.final = sha256 data := by
  have hused := length_foldBlocks (f := sha256Block) (by decide : 0 < 64) sha256Initial data
  rw [← h.blocks] at hused
  dsimp only at hused
  unfold sha256 sha256Pad
  rw [foldBlocks_append (by decide), ← h.blocks, ← h.bits, ← hused]
  unfold Sha256.final
  have hlt := sha.used_lt
  have hbits : (be64Bytes sha.bits).length = 8 := rfl
  generalize be64Bytes sha.bits = bits at *
  dsimp only
  rw [List.length_append, List.length_singleton]
  generalize sha256Block = compress
  split
  . next hlong =>
    -- the length does not fit behind the one bit, so it goes into a block of its own
    have hzeros : List.replicate ((119 - sha.block.length) % 64) (0 : UInt8)
        = List.replicate (64 - (sha.block.length + 1)) 0 ++ List.replicate 56 0 := by
      rw [List.replicate_append_replicate]
      congr 1
      omega
    rw [hzeros]
    have hsplit : ∀ zeros zeros' : List UInt8,
        sha.block ++ 0x80 :: (zeros ++ zeros' ++ bits)
          = (sha.block ++ [0x80] ++ zeros) ++ ((zeros' ++ bits) ++ []) := by simp
    rw [hsplit]
    rw [foldBlocks_block (by decide) (by simp; omega)]
    rw [foldBlocks_block (by decide) (by simp [hbits])]
    rw [foldBlocks_of_lt (by decide)]
    dsimp only
    rw [List.length_nil, List.nil_append]
  . next hshort =>
    have hzeros : (119 - sha.block.length) % 64 = 56 - (sha.block.length + 1) := by omega
    rw [hzeros]
    have hsplit : ∀ zeros : List UInt8,
        sha.block ++ 0x80 :: (zeros ++ bits)
          = (sha.block ++ [0x80] ++ zeros ++ bits) ++ [] := by simp
    rw [hsplit]
    rw [foldBlocks_block (by decide) (by simp [hbits]; omega)]
    rw [foldBlocks_of_lt (by decide)]
    dsimp only
    rw [List.length_append, List.length_singleton]

end Sha256

end ZZRel
