import Mathlib.Data.Nat.Bitwise
import Mathlib.Tactic.IntervalCases
import ZZ9000.Net.Tx
import ZZ9000.Streams.Memory

/-!
This module contains the copy of a received frame out of the receive window from `device.c` and proves
that it is a `memcpy` with aligned accesses.
-/

namespace ZZNet

open Streams

def rxStageSize : Nat := 1536

structure Access where
  write : Bool
  address : Nat
  width : Nat
deriving DecidableEq, Repr

/-- The memory, the accesses so far and the pointers and counter of the copy. -/
structure RxCopy where
  ram : Nat → UInt8
  trace : List Access
  src : Nat
  dst : Nat
  n : UInt32

namespace RxCopy

variable (mmio : Nat → UInt8)

/-- One typed access on either side. -/
def move (c : RxCopy) (width : Nat) : RxCopy :=
  { c with
    ram := store c.ram c.dst (load mmio c.src width)
    trace := c.trace ++ [⟨false, c.src, width⟩, ⟨true, c.dst, width⟩]
    src := c.src + width
    dst := c.dst + width }

def moveWord (c : RxCopy) : RxCopy := { c.move mmio 2 with n := c.n - 2 }

/-- One round of the assembly loop: eight registers in and out. -/
def moveBlock (c : RxCopy) : RxCopy :=
  { c with
    ram := store c.ram c.dst (load mmio c.src 32)
    trace := c.trace ++ (List.range 8).map (fun i => ⟨false, c.src + 4 * i, 4⟩)
      ++ (List.range 8).map (fun i => ⟨true, c.dst + 4 * i, 4⟩)
    src := c.src + 32
    dst := c.dst + 32 }

/-- The loop counts down before it tests. -/
def zznetCopyBlocks (c : RxCopy) (blocks : UInt32) : RxCopy :=
  Nat.repeat (moveBlock mmio) (if blocks = 0 then 2 ^ 32 else blocks.toNat) c

def leadingWord (c : RxCopy) : RxCopy :=
  if c.src &&& 2 ≠ 0 ∧ c.n ≥ 2 then c.moveWord mmio else c

/-- The blocks of the longword stream and the longwords left. -/
def blockStream (c : RxCopy) (longs : UInt32) : RxCopy × UInt32 :=
  if longs ≥ 8 then
    let copied := c.zznetCopyBlocks mmio (longs >>> 3)
    ({ c with
        ram := copied.ram
        trace := copied.trace
        src := c.src + 4 * (longs &&& ~~~7).toNat
        dst := c.dst + 4 * (longs &&& ~~~7).toNat },
      longs &&& 7)
  else
    (c, longs)

def longStream (c : RxCopy) : RxCopy :=
  if c.src &&& 3 = 0 then
    let (copied, longs) := c.blockStream mmio (c.n >>> 2)
    { Nat.repeat (fun c => c.move mmio 4) longs.toNat copied with n := c.n &&& 3 }
  else
    c

def tail (c : RxCopy) : RxCopy :=
  let c := if c.n ≥ 2 then c.moveWord mmio else c
  if c.n ≠ 0 then c.move mmio 1 else c

end RxCopy

/-- Where the copy starts in the staging buffer, and the copy. -/
def zznetMmioReadBlock (mmio ram : Nat → UInt8) (src base : Nat) (n : UInt32) : Nat × RxCopy :=
  let dst := base + (src &&& 2)
  let c : RxCopy := { ram, trace := [], src, dst, n }
  if n = 0 then
    (dst, c)
  else
    (dst, ((c.leadingWord mmio).longStream mmio).tail mmio)

def hwEthMaxStd : UInt32 := 1514

/-- The size checks of `read_frame`: where the frame is copied from, and how much of it. -/
def readFrame (raw : Bool) (frame : Nat) (sz : UInt16) : Option (Nat × UInt32) :=
  if raw then
    if sz.toUInt32 > hwEthMaxRaw then
      none
    else if sz.toUInt32.toNat + 2 > rxStageSize then
      none
    else
      some (frame + 4, sz.toUInt32)
  else
    if sz < hwEthHdrSize ∨ sz.toUInt32 > hwEthMaxStd then
      none
    else if (sz.toUInt32 - hwEthHdrSize.toUInt32).toNat + 2 > rxStageSize then
      none
    else
      some (frame + 4 + hwEthHdrSize.toNat, sz.toUInt32 - hwEthHdrSize.toUInt32)

section Words

theorem toNat_shiftRight_two (n : UInt32) : (n >>> 2).toNat = n.toNat / 4 := by
  rw [UInt32.toNat_shiftRight]
  exact Nat.shiftRight_eq_div_pow _ 2

theorem toNat_shiftRight_three (n : UInt32) : (n >>> 3).toNat = n.toNat / 8 := by
  rw [UInt32.toNat_shiftRight]
  exact Nat.shiftRight_eq_div_pow _ 3

theorem toNat_and_three (n : UInt32) : (n &&& 3).toNat = n.toNat % 4 := by
  rw [UInt32.toNat_and]
  exact Nat.and_two_pow_sub_one_eq_mod _ 2

theorem toNat_and_seven (n : UInt32) : (n &&& 7).toNat = n.toNat % 8 := by
  rw [UInt32.toNat_and]
  exact Nat.and_two_pow_sub_one_eq_mod _ 3

theorem and_not_seven (n : UInt32) : n &&& ~~~(7 : UInt32) = (n >>> 3) <<< 3 := by
  rw [← UInt32.toBitVec_inj]
  apply BitVec.eq_of_getLsbD_eq
  intro i hi
  simp
  interval_cases i <;> simp

theorem toNat_and_not_seven (n : UInt32) : (n &&& ~~~(7 : UInt32)).toNat = 8 * (n.toNat / 8) := by
  have hthree : (3 : UInt32).toNat % 32 = 3 := by decide
  have hlt := n.toNat_lt
  rw [and_not_seven, UInt32.toNat_shiftLeft, toNat_shiftRight_three, hthree, Nat.shiftLeft_eq]
  omega

theorem and_two_of_even {src : Nat} (h : 2 ∣ src) : src &&& 2 = src % 4 := by
  have hmask : src &&& 2 = (src &&& 3) &&& 2 := by
    rw [Nat.and_assoc]
    rfl
  rw [hmask, show src &&& 3 = src % 4 from Nat.and_two_pow_sub_one_eq_mod _ 2]
  obtain h | h : src % 4 = 0 ∨ src % 4 = 2 := by omega
  . rw [h]
    rfl
  . rw [h]
    rfl

end Words

section Copied

variable {mmio ram : Nat → UInt8} {src dst : Nat} {c : RxCopy} {k : Nat}

/-- An access of the copy is aligned and within the first `k` bytes on its side. -/
structure Access.Within (src dst k : Nat) (x : Access) : Prop where
  aligned : x.width ∣ x.address
  reads : x.write = false → src ≤ x.address ∧ x.address + x.width ≤ src + k
  writes : x.write = true → dst ≤ x.address ∧ x.address + x.width ≤ dst + k

/-- The first `k` bytes are copied and nothing else has happened. -/
structure Copied (mmio ram : Nat → UInt8) (src dst : Nat) (c : RxCopy) (k : Nat) : Prop where
  srcAt : c.src = src + k
  dstAt : c.dst = dst + k
  bytes : ∀ i, i < k → c.ram (dst + i) = mmio (src + i)
  frame : ∀ i, i < dst ∨ dst + k ≤ i → c.ram i = ram i
  accesses : ∀ x ∈ c.trace, x.Within src dst k

theorem Access.Within.mono {x : Access} (h : x.Within src dst k) (width : Nat)
    : x.Within src dst (k + width) := by
  refine ⟨h.aligned, ?_, ?_⟩
  . intro hread
    have := h.reads hread
    omega
  . intro hwrite
    have := h.writes hwrite
    omega

/-- A block that is moved with aligned accesses of its own is copied. -/
theorem Copied.extend (h : Copied mmio ram src dst c k) {width : Nat} {c' : RxCopy}
    (hsrc : c'.src = c.src + width) (hdst : c'.dst = c.dst + width)
    (hram : c'.ram = store c.ram c.dst (load mmio c.src width)) {accesses : List Access}
    (htrace : c'.trace = c.trace ++ accesses)
    (hwithin : ∀ x ∈ accesses, x.Within src dst (k + width))
    : Copied mmio ram src dst c' (k + width) := by
  refine ⟨?_, ?_, ?_, ?_, ?_⟩
  . rw [hsrc, h.srcAt, Nat.add_assoc]
  . rw [hdst, h.dstAt, Nat.add_assoc]
  . intro i hi
    rw [hram]
    by_cases hk : i < k
    . rw [store_of_lt (by rw [h.dstAt]; omega), h.bytes i hk]
    . have hcell := @store_load _ c.ram c.dst mmio c.src width (i - k) (by omega)
      rw [h.srcAt, h.dstAt, Nat.add_assoc, Nat.add_assoc, Nat.add_sub_cancel' (by omega)] at hcell
      rw [h.srcAt, h.dstAt, hcell]
  . intro i hi
    rw [hram]
    cases hi with
    | inl hi => rw [store_of_lt (by rw [h.dstAt]; omega), h.frame i (.inl hi)]
    | inr hi =>
      rw [store_of_ge (by rw [h.dstAt, length_load]; omega), h.frame i (.inr (by omega))]
  . intro x hx
    rw [htrace] at hx
    cases List.mem_append.mp hx with
    | inl hx => exact (h.accesses x hx).mono width
    | inr hx => exact hwithin x hx

theorem Copied.move (h : Copied mmio ram src dst c k) {width : Nat} (hsrc : width ∣ src + k)
    (hdst : width ∣ dst + k)
    : Copied mmio ram src dst (c.move mmio width) (k + width) := by
  apply h.extend rfl rfl rfl rfl
  intro x hx
  simp only [List.mem_cons, List.not_mem_nil, or_false] at hx
  rcases hx with hx | hx <;> rw [hx]
  . refine ⟨by rw [h.srcAt]; exact hsrc, ?_, ?_⟩
    . intro _
      simp only [h.srcAt]
      omega
    . intro hwrite
      cases hwrite
  . refine ⟨by rw [h.dstAt]; exact hdst, ?_, ?_⟩
    . intro hread
      cases hread
    . intro _
      simp only [h.dstAt]
      omega

theorem Copied.moveWord (h : Copied mmio ram src dst c k) (hsrc : 2 ∣ src + k) (hdst : 2 ∣ dst + k)
    : Copied mmio ram src dst (c.moveWord mmio) (k + 2) := by
  have hmove := h.move hsrc hdst
  exact ⟨hmove.srcAt, hmove.dstAt, hmove.bytes, hmove.frame, hmove.accesses⟩

theorem Copied.moveBlock (h : Copied mmio ram src dst c k) (hsrc : 4 ∣ src + k) (hdst : 4 ∣ dst + k)
    : Copied mmio ram src dst (c.moveBlock mmio) (k + 32) := by
  apply h.extend rfl rfl rfl (List.append_assoc _ _ _)
  intro x hx
  cases List.mem_append.mp hx with
  | inl hx =>
    obtain ⟨i, hi, hx⟩ := List.mem_map.mp hx
    have := List.mem_range.mp hi
    rw [← hx, h.srcAt]
    refine ⟨?_, ?_, ?_⟩
    . simp only
      omega
    . intro _
      simp only
      omega
    . intro hwrite
      cases hwrite
  | inr hx =>
    obtain ⟨i, hi, hx⟩ := List.mem_map.mp hx
    have := List.mem_range.mp hi
    rw [← hx, h.dstAt]
    refine ⟨?_, ?_, ?_⟩
    . simp only
      omega
    . intro hread
      cases hread
    . intro _
      simp only
      omega

theorem Copied.blocks (h : Copied mmio ram src dst c k) (hsrc : 4 ∣ src + k) (hdst : 4 ∣ dst + k)
    (n : Nat)
    : Copied mmio ram src dst (Nat.repeat (RxCopy.moveBlock mmio) n c) (k + 32 * n) := by
  induction n with
  | zero => exact h
  | succ n ih =>
    apply ih.moveBlock
    . omega
    . omega

theorem Copied.longs (h : Copied mmio ram src dst c k) (hsrc : 4 ∣ src + k) (hdst : 4 ∣ dst + k)
    (n : Nat)
    : Copied mmio ram src dst (Nat.repeat (fun c => c.move mmio 4) n c) (k + 4 * n) := by
  induction n with
  | zero => exact h
  | succ n ih =>
    apply ih.move
    . omega
    . omega

/-- The copy goes on after `k` bytes, with as many left as the counter says. -/
structure Copying (mmio ram : Nat → UInt8) (src dst total : Nat) (c : RxCopy) (k : Nat) : Prop where
  copied : Copied mmio ram src dst c k
  left : c.n.toNat + k = total

variable {total : Nat}

theorem toNat_sub_two {n : UInt32} (h : n ≥ 2) : (n - 2).toNat + 2 = n.toNat := by
  have hle := UInt32.le_iff_toNat_le.mp h
  rw [UInt32.toNat_sub_of_le _ _ h]
  exact Nat.sub_add_cancel hle

theorem Copying.moveWord (h : Copying mmio ram src dst total c k) (hsrc : 2 ∣ src + k)
    (hdst : 2 ∣ dst + k) (hn : c.n ≥ 2)
    : Copying mmio ram src dst total (c.moveWord mmio) (k + 2) := by
  refine ⟨h.copied.moveWord hsrc hdst, ?_⟩
  have := toNat_sub_two hn
  have := h.left
  unfold RxCopy.moveWord
  simp only
  omega

theorem Copying.leadingWord (h : Copying mmio ram src dst total c 0) (hsrc : 2 ∣ src)
    (hdst : 2 ∣ dst)
    : ∃ k, Copying mmio ram src dst total (c.leadingWord mmio) k ∧ 2 ∣ k ∧
        (4 ∣ src + k ∨ total < k + 2) := by
  have hand : c.src &&& 2 = src % 4 := by
    rw [h.copied.srcAt]
    exact and_two_of_even hsrc
  have hleft := h.left
  unfold RxCopy.leadingWord
  split
  next hlead =>
    rw [hand] at hlead
    exact ⟨0 + 2, h.moveWord hsrc hdst hlead.2, by omega, by omega⟩
  next hlead =>
    rw [hand, not_and_or] at hlead
    refine ⟨0, h, by omega, ?_⟩
    cases hlead with
    | inl hphase =>
      left
      omega
    | inr hshort =>
      right
      have := UInt32.lt_iff_toNat_lt.mp (UInt32.not_le.mp hshort)
      simp only [UInt32.reduceToNat] at this
      omega

theorem Copied.blockStream (h : Copied mmio ram src dst c k) (hsrc : 4 ∣ src + k)
    (hdst : 4 ∣ dst + k) (longs : UInt32)
    : ∃ k', Copied mmio ram src dst (c.blockStream mmio longs).1 k' ∧
        k' + 4 * (c.blockStream mmio longs).2.toNat = k + 4 * longs.toNat ∧ 4 ∣ src + k' ∧
        4 ∣ dst + k' := by
  unfold RxCopy.blockStream
  split
  next hlongs =>
    have hle := UInt32.le_iff_toNat_le.mp hlongs
    simp only [UInt32.reduceToNat] at hle
    have hblocks := toNat_shiftRight_three longs
    have hne : ¬longs >>> 3 = 0 := by
      intro hzero
      rw [hzero] at hblocks
      simp only [UInt32.reduceToNat] at hblocks
      omega
    have hcopied := h.blocks hsrc hdst (longs.toNat / 8)
    have hadvance := toNat_and_not_seven longs
    have hrest := toNat_and_seven longs
    refine ⟨k + 32 * (longs.toNat / 8), ⟨?_, ?_, ?_, ?_, ?_⟩, ?_, ?_, ?_⟩
    . simp only [hadvance, h.srcAt]
      omega
    . simp only [hadvance, h.dstAt]
      omega
    . unfold RxCopy.zznetCopyBlocks
      simp only [if_neg hne, hblocks]
      exact hcopied.bytes
    . unfold RxCopy.zznetCopyBlocks
      simp only [if_neg hne, hblocks]
      exact hcopied.frame
    . unfold RxCopy.zznetCopyBlocks
      simp only [if_neg hne, hblocks]
      exact hcopied.accesses
    . simp only [hrest]
      omega
    . omega
    . omega
  next => exact ⟨k, h, rfl, hsrc, hdst⟩

theorem Copying.longStream (h : Copying mmio ram src dst total c k) (hphase : src % 4 = dst % 4)
    (hrest : 4 ∣ src + k ∨ total < k + 2) (hk : 2 ∣ src + k)
    : ∃ k', Copying mmio ram src dst total (c.longStream mmio) k' ∧ 2 ∣ src + k' ∧ 2 ∣ dst + k' ∧
        total < k' + 4 := by
  have hleft := h.left
  have hand : c.src &&& 3 = (src + k) % 4 := by
    rw [h.copied.srcAt]
    exact Nat.and_two_pow_sub_one_eq_mod _ 2
  unfold RxCopy.longStream
  split
  next haligned =>
    rw [hand] at haligned
    obtain ⟨k', hcopied, hlongs, hsrc', hdst'⟩ := h.copied.blockStream
      (Nat.dvd_of_mod_eq_zero haligned) (by omega) (c.n >>> 2)
    have hall := hcopied.longs hsrc' hdst' (c.blockStream mmio (c.n >>> 2)).2.toNat
    rw [toNat_shiftRight_two] at hlongs
    rw [hlongs] at hall
    refine ⟨k + 4 * (c.n.toNat / 4), ⟨?_, ?_⟩, by omega, by omega, by omega⟩
    . exact ⟨hall.srcAt, hall.dstAt, hall.bytes, hall.frame, hall.accesses⟩
    . simp only [toNat_and_three]
      omega
  next haligned =>
    rw [hand] at haligned
    exact ⟨k, h, hk, by omega, by omega⟩

theorem Copying.lastByte (h : Copying mmio ram src dst total c k) (hlast : total < k + 2)
    : Copied mmio ram src dst (if c.n ≠ 0 then c.move mmio 1 else c) total := by
  have hleft := h.left
  split
  next hn =>
    have hpositive : c.n.toNat ≠ 0 := by
      intro hzero
      apply hn
      exact UInt32.toNat_inj.mp hzero
    have htotal : total = k + 1 := by omega
    rw [htotal]
    exact h.copied.move (Nat.one_dvd _) (Nat.one_dvd _)
  next hn =>
    rw [ne_eq, not_not] at hn
    rw [hn] at hleft
    have htotal : total = k := by
      simp at hleft
      omega
    rw [htotal]
    exact h.copied

theorem Copying.tail (h : Copying mmio ram src dst total c k) (hsrc : 2 ∣ src + k)
    (hdst : 2 ∣ dst + k) (hshort : total < k + 4)
    : Copied mmio ram src dst (c.tail mmio) total := by
  have hleft := h.left
  unfold RxCopy.tail
  by_cases hn : c.n ≥ 2
  . rw [if_pos hn]
    exact (h.moveWord hsrc hdst hn).lastByte (by omega)
  . rw [if_neg hn]
    have hone := UInt32.lt_iff_toNat_lt.mp (UInt32.not_le.mp hn)
    simp only [UInt32.reduceToNat] at hone
    exact h.lastByte (by omega)

theorem copied_zznetMmioReadBlock (mmio ram : Nat → UInt8) {src base : Nat} (n : UInt32)
    (hsrc : 2 ∣ src) (hbase : 4 ∣ base)
    : Copied mmio ram src (base + src % 4) (zznetMmioReadBlock mmio ram src base n).2 n.toNat := by
  have hand := and_two_of_even hsrc
  have hstart : Copying mmio ram src (base + src % 4) n.toNat
      { ram, trace := [], src, dst := base + src % 4, n } 0 := by
    refine ⟨⟨rfl, rfl, ?_, ?_, ?_⟩, rfl⟩
    . intro i hi
      omega
    . intro i _
      rfl
    . intro x hx
      cases hx
  unfold zznetMmioReadBlock
  simp only [hand]
  by_cases hn : n = 0
  . have hzero : n.toNat = 0 := by
      rw [hn]
      rfl
    rw [if_pos hn, hzero]
    exact hstart.copied
  . rw [if_neg hn]
    obtain ⟨k, hlead, hk, hphase⟩ := hstart.leadingWord hsrc (by omega)
    obtain ⟨k', hlong, hsrc', hdst', hshort⟩ := hlead.longStream (by omega) hphase (by omega)
    exact hlong.tail hsrc' hdst' hshort

theorem readFrame_fits {raw : Bool} {frame src : Nat} {sz : UInt16} {datasize : UInt32}
    (h : readFrame raw frame sz = some (src, datasize))
    : datasize.toNat + 2 ≤ rxStageSize ∧ (2 ∣ frame → 2 ∣ src) := by
  unfold readFrame at h
  cases raw with
  | true =>
    simp only [if_true, Option.ite_none_left_eq_some, Option.some.injEq, Prod.mk.injEq] at h
    obtain ⟨_, hfits, hframe, hdatasize⟩ := h
    rw [← hframe, ← hdatasize]
    omega
  | false =>
    simp only [Bool.false_eq_true, if_false, Option.ite_none_left_eq_some, Option.some.injEq,
      Prod.mk.injEq] at h
    obtain ⟨_, hfits, hframe, hdatasize⟩ := h
    have hheader : hwEthHdrSize.toNat = 14 := rfl
    rw [← hframe, ← hdatasize, hheader]
    omega

end Copied

/--
What is copied equals the source, and only the bytes of the copy are read and written, by aligned
accesses. The frames that are accepted fit the staging buffer.
-/
theorem zznetMmioReadBlock_copies
    : (∀ (mmio ram : Nat → UInt8) (src base : Nat) (n : UInt32), 2 ∣ src → 4 ∣ base →
        n.toNat + 2 ≤ rxStageSize →
        let (p, c) := zznetMmioReadBlock mmio ram src base n
        base ≤ p ∧ p + n.toNat ≤ base + rxStageSize ∧ p % 4 = src % 4 ∧
        (∀ i, i < n.toNat → c.ram (p + i) = mmio (src + i)) ∧
        (∀ i, i < p ∨ p + n.toNat ≤ i → c.ram i = ram i) ∧
        ∀ x ∈ c.trace, x.Within src p n.toNat) ∧
      (∀ raw frame sz src datasize, readFrame raw frame sz = some (src, datasize) →
        datasize.toNat + 2 ≤ rxStageSize ∧ (2 ∣ frame → 2 ∣ src)) := by
  refine ⟨?_, ?_⟩
  . intro mmio ram src base n hsrc hbase hn
    have hcopied := copied_zznetMmioReadBlock mmio ram n hsrc hbase
    have hp : (zznetMmioReadBlock mmio ram src base n).1 = base + src % 4 := by
      unfold zznetMmioReadBlock
      rw [← and_two_of_even hsrc]
      split <;> rfl
    simp only [hp]
    exact ⟨by omega, by omega, by omega, hcopied.bytes, hcopied.frame, hcopied.accesses⟩
  . intro raw frame sz src datasize h
    exact readFrame_fits h

theorem zznetMmioReadBlock_copies_odd
    : (zznetMmioReadBlock (fun i => UInt8.ofNat i) (fun _ => 0) 18 64 45).2.ram (66 + 44)
        = UInt8.ofNat (18 + 44) := by
  exact (zznetMmioReadBlock_copies.1 (fun i => UInt8.ofNat i) (fun _ => 0) 18 64 45 (by decide)
    (by decide) (by decide)).2.2.2.1 44 (by decide)

end ZZNet
