import ZZ9000.SdBoot.HunkFile

/-!
This module contains what `fsrelocate_simple` reads where the file has bytes of a known kind.
-/

namespace ZZSd

open Streams

/-- The file has these bytes from `p` on. -/
def Stored (data : List UInt8) (p : Nat) (bytes : List UInt8) : Prop := bytes <+: data.drop p

section Stored

variable {data bytes bytes' : List UInt8} {p : Nat}

theorem stored_append (h : Stored data p (bytes ++ bytes'))
    : Stored data p bytes ∧ Stored data (p + bytes.length) bytes' := by
  obtain ⟨rest, hrest⟩ := h
  rw [List.append_assoc] at hrest
  constructor
  . exact ⟨bytes' ++ rest, hrest⟩
  . refine ⟨rest, ?_⟩
    rw [← List.drop_drop, ← hrest, List.drop_left]

theorem stored_length (h : Stored data p bytes) (hp : p ≤ data.length)
    : p + bytes.length ≤ data.length := by
  have hle := h.length_le
  rw [List.length_drop] at hle
  omega

/-- Bytes that are there are inside the file. -/
theorem stored_length_of_ne (h : Stored data p bytes) (hbytes : bytes.length ≠ 0)
    : p + bytes.length ≤ data.length := by
  have hle := h.length_le
  rw [List.length_drop] at hle
  omega

theorem fileByte_of_stored (h : Stored data p bytes) {i : Nat} (hi : i < bytes.length)
    : fileByte data (p + i) = bytes[i] := by
  obtain ⟨rest, hrest⟩ := h
  unfold fileByte
  rw [List.getD_eq_getElem?_getD, ← List.getElem?_drop, ← hrest, List.getElem?_append_left hi]
  rw [List.getElem?_eq_getElem hi]
  rfl

end Stored

@[simp] theorem length_longBytes (long : UInt32) : (longBytes long).length = 4 := rfl

@[simp] theorem length_wordBytes (word : UInt16) : (wordBytes word).length = 2 := rfl

@[simp] theorem length_flatMap_longBytes (longs : List UInt32)
    : (longs.flatMap longBytes).length = 4 * longs.length := by
  induction longs with
  | nil => rfl
  | cons long longs ih =>
    rw [List.flatMap_cons, List.length_append, List.length_cons, ih, length_longBytes]
    omega

@[simp] theorem length_flatMap_wordBytes (words : List UInt16)
    : (words.flatMap wordBytes).length = 2 * words.length := by
  induction words with
  | nil => rfl
  | cons word words ih =>
    rw [List.flatMap_cons, List.length_append, List.length_cons, ih, length_wordBytes]
    omega

@[simp] theorem length_countedBytes (longs : List UInt32)
    : (countedBytes longs).length = 4 * (longs.length + 1) := by
  unfold countedBytes
  rw [List.length_append, length_longBytes, length_flatMap_longBytes]
  omega

section Read

variable {data : List UInt8} {i c n : Nat}

theorem toNat_index (h : i < 2 ^ 32)
    : (UInt32.ofNat i).toNat = i :=
  UInt32.toNat_ofNat_of_lt' h

theorem readBe32_of_stored {p : Nat} {value : UInt32} (h : Stored data p (longBytes value))
    : readBe32 (fileByte data) p = value := by
  have hbyte (j : Nat) (hj : j < 4) : fileByte data (p + j) = (longBytes value)[j] :=
    fileByte_of_stored h hj
  have hfirst : fileByte data p = (longBytes value)[0] := hbyte 0 (by omega)
  unfold readBe32
  rw [hfirst, hbyte 1 (by omega), hbyte 2 (by omega), hbyte 3 (by omega)]
  exact be32_bytes value

theorem readBe16_of_stored {p : Nat} {value : UInt16} (h : Stored data p (wordBytes value))
    : readBe16 (fileByte data) p = value := by
  have hbyte (j : Nat) (hj : j < 2) : fileByte data (p + j) = (wordBytes value)[j] :=
    fileByte_of_stored h hj
  have hfirst : fileByte data p = (wordBytes value)[0] := hbyte 0 (by omega)
  unfold readBe16
  rw [hfirst, hbyte 1 (by omega)]
  exact be16_bytes value

variable (hdata : data.length < 2 ^ 32)

include hdata

theorem long_of_stored {value : UInt32} (h : Stored data (4 * i) (longBytes value))
    : long data (UInt32.ofNat i) = .ok value := by
  have hinside := stored_length_of_ne h (by simp)
  rw [length_longBytes] at hinside
  have hi : (UInt32.ofNat i).toNat = i := toNat_index (by omega)
  unfold long
  rw [hi, if_pos hinside, readBe32_of_stored h]

theorem shortWord_of_stored {value : UInt16} (h : Stored data (4 * i + c) (wordBytes value))
    : shortWord data (UInt32.ofNat i) (UInt32.ofNat c) = .ok value := by
  have hinside := stored_length_of_ne h (by simp)
  rw [length_wordBytes] at hinside
  have hi : (UInt32.ofNat i).toNat = i := toNat_index (by omega)
  have hc : (UInt32.ofNat c).toNat = c := toNat_index (by omega)
  unfold shortWord
  rw [hi, hc, if_pos hinside, readBe16_of_stored h]

theorem longs_of_stored {bytes : List UInt8} (h : Stored data (4 * i) bytes)
    (hi : 4 * i ≤ data.length) (hn : bytes.length = 4 * n)
    : longs data (UInt32.ofNat i) (UInt32.ofNat n) = .ok bytes := by
  have hinside := stored_length h hi
  have hi' : (UInt32.ofNat i).toNat = i := toNat_index (by omega)
  have hn' : (UInt32.ofNat n).toNat = n := toNat_index (by omega)
  unfold longs
  rw [hi', hn', ← hn, if_pos hinside, List.prefix_iff_eq_take.mp h]
  rw [List.length_take, Nat.min_eq_left h.length_le]

end Read

end ZZSd
