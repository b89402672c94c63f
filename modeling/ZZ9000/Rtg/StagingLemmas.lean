import ZZ9000.Rtg.Staging
import Mathlib.Data.UInt
import Mathlib.Tactic.Ring

/-!
This module contains the verification of the staging area: what the drawing hooks copy stays inside,
planes follow one another, and a line of a plane has every pixel that the blitter reads.
-/

namespace ZZRtg

open DriverOp

section Area

/-- Where an address is in the staging area. -/
def areaOffset (b : BoardInfo) (addr : UInt32) : Nat := (addr - z2TemplateOffset b).toNat

def Inside (b : BoardInfo) (region : UInt32 × UInt32) : Prop :=
  areaOffset b region.1 + region.2.toNat ≤ 0x10000

theorem areaOffset_start (b : BoardInfo)
    : areaOffset b (z2TemplateOffset b) = 0 := by
  unfold areaOffset
  rw [sub_self]
  rfl

theorem areaOffset_add {b : BoardInfo} {addr d : UInt32}
    (h : areaOffset b addr + d.toNat < 2 ^ 32)
    : areaOffset b (addr + d) = areaOffset b addr + d.toNat := by
  unfold areaOffset at h ⊢
  rw [add_sub_right_comm, UInt32.toNat_add, Nat.mod_eq_of_lt h]

theorem inside_start {b : BoardInfo} {bytes : UInt32} (h : z2TemplateFits bytes = true)
    : Inside b (z2TemplateOffset b, bytes) := by
  unfold z2TemplateFits at h
  have h := UInt32.le_iff_toNat_le.mp (of_decide_eq_true h)
  unfold Inside
  rw [areaOffset_start, Nat.zero_add]
  exact h

/-- The check of the staging size allows no wrap in the product. -/
theorem z2StagingFits_iff (front unitSize count : UInt32)
    : z2StagingFits front unitSize count = true
      ↔ front.toNat ≤ 0x10000 ∧ front.toNat + count.toNat * unitSize.toNat ≤ 0x10000 := by
  have size : z2TemplateSize.toNat = 0x10000 := rfl
  unfold z2StagingFits
  rw [Bool.and_eq_true, Bool.or_eq_true, decide_eq_true_eq, decide_eq_true_eq, beq_iff_eq,
    UInt32.le_iff_toNat_le, UInt32.le_iff_toNat_le, size, UInt32.toNat_div,
    ← UInt32.toNat_inj]
  apply and_congr_right
  intro front_le
  rw [UInt32.toNat_sub_of_le _ _ (UInt32.le_iff_toNat_le.mpr front_le), size]
  have zero : (0 : UInt32).toNat = 0 := rfl
  rw [zero]
  cases Nat.eq_zero_or_pos count.toNat with
  | inl none =>
    rw [none]
    omega
  | inr some =>
    rw [Nat.le_div_iff_mul_le some, Nat.mul_comm count.toNat]
    omega

theorem stagings_append (ops ops' : List DriverOp)
    : stagings (ops ++ ops') = stagings ops ++ stagings ops' := List.filterMap_append

theorem stagings_map_stage {α : Type} (xs : List α) (offset bytes : α → UInt32)
    : stagings (xs.map fun x => stage (offset x) (bytes x))
      = xs.map fun x => (offset x, bytes x) := by
  unfold stagings
  rw [List.filterMap_map]
  exact congrFun List.filterMap_eq_map' xs

end Area

section Signed

theorem toUInt32_toInt32 (y : Int16)
    : y.toInt32.toUInt32 = UInt32.ofInt y.toInt := by
  have small : (y.toInt % 2 ^ 32).toNat < 2 ^ 32 := by omega
  apply UInt32.toNat_inj.mp
  rw [UInt32.ofInt, UInt32.toNat_ofNat', Nat.mod_eq_of_lt small, ← Int32.toNat_toBitVec,
    Int16.toBitVec_toInt32, BitVec.signExtend, BitVec.toNat_ofInt]
  rfl

theorem toNat_toInt32 {h : Int16} (hh : 0 ≤ h)
    : h.toInt32.toUInt32.toNat = h.toNatClampNeg := by
  rw [Int32.toNat_toUInt32_of_le, Int16.toNatClampNeg_toInt32]
  rw [Int32.le_iff_toInt_le, Int16.toInt_toInt32]
  exact Int16.le_iff_toInt_le.mp hh

end Signed

section Single

/-- The checks of a template leave no product that wraps and no row of negative length. -/
theorem templateSize_exact {bytesPerRow h : Int16} (hh : 0 ≤ h)
    (hrows : ¬ h.toInt32.toUInt32 > 0xffffffff / bytesPerRow.toInt32.toUInt32)
    (fits : z2TemplateFits (bytesPerRow.toInt32.toUInt32 * h.toInt32.toUInt32) = true)
    : ((bytesPerRow.toInt32.toUInt32 * h.toInt32.toUInt32).toNat : Int)
      = bytesPerRow.toInt * h.toInt := by
  have lines := toNat_toInt32 hh
  have height : (h.toNatClampNeg : Int) = h.toInt :=
    Int.toNat_of_nonneg (Int16.le_iff_toInt_le.mp hh)
  have := h.toNatClampNeg_lt
  have := bytesPerRow.toInt_lt
  have := bytesPerRow.le_toInt
  by_cases positive : 0 ≤ bytesPerRow
  . have row := toNat_toInt32 positive
    have width : (bytesPerRow.toNatClampNeg : Int) = bytesPerRow.toInt :=
      Int.toNat_of_nonneg (Int16.le_iff_toInt_le.mp positive)
    have product : bytesPerRow.toNatClampNeg * h.toNatClampNeg ≤ 2 ^ 15 * 2 ^ 15 :=
      Nat.mul_le_mul (Nat.le_of_lt bytesPerRow.toNatClampNeg_lt) (by omega)
    rw [UInt32.toNat_mul, row, lines, Nat.mod_eq_of_lt (by omega), Int.natCast_mul, width, height]
  . -- a negative length is a huge one: only one row passes the first check, and it does not fit
    have negative := Int16.lt_iff_toInt_lt.mp (Int16.not_le.mp positive)
    have zero : (0 : Int16).toInt = 0 := rfl
    have most : (0xffffffff : UInt32).toNat = 2 ^ 32 - 1 := rfl
    have size : z2TemplateSize.toNat = 0x10000 := rfl
    have row : bytesPerRow.toInt32.toUInt32.toNat
        = 2 ^ 32 - 1 - (-1 - bytesPerRow.toInt).toNat := by
      rw [toUInt32_toInt32, UInt32.ofInt, UInt32.toNat_ofNat']
      omega
    have few := UInt32.le_iff_toNat_le.mp (UInt32.not_lt.mp hrows)
    have positiveRow : 0 < bytesPerRow.toInt32.toUInt32.toNat := by omega
    rw [UInt32.toNat_div, most, lines, Nat.le_div_iff_mul_le positiveRow] at few
    have small := UInt32.le_iff_toNat_le.mp (of_decide_eq_true fits)
    rw [UInt32.toNat_mul, lines, size, Nat.mul_comm, Nat.mod_eq_of_lt (by omega)] at small
    cases Nat.eq_zero_or_pos h.toNatClampNeg with
    | inl none =>
      rw [none] at height
      rw [UInt32.toNat_mul, lines, none, ← height, Nat.mul_zero, Int.natCast_zero, Int.mul_zero]
    | inr some =>
      have := Nat.le_mul_of_pos_left bytesPerRow.toInt32.toUInt32.toNat some
      omega

/-- A template is staged whole, or left to the default routine before any staging. -/
theorem blitTemplate_inside (b : BoardInfo) (r : RenderInfo) (t : Template) (x y w h : Int16)
    (mask : UInt8) (format : UInt32)
    : ∀ region ∈ stagings (blitTemplate b (some r) (some t) x y w h mask format),
        Inside b region ∧ (region.2.toNat : Int) = t.bytesPerRow.toInt * h.toInt := by
  intro region mem
  unfold blitTemplate at mem
  dsimp only at mem
  split at mem
  . cases mem
  . next some =>
    split at mem
    . cases mem
    . next fits =>
      simp only [not_or, not_not] at fits
      have only : region = (z2TemplateOffset b, _) := List.mem_singleton.mp mem
      have hh : 0 ≤ h := by
        have := Int16.le_iff_toInt_le.mp (Int16.not_lt.mp (not_or.mp (not_or.mp some).2).1)
        have one : (1 : Int16).toInt = 1 := rfl
        have zero : (0 : Int16).toInt = 0 := rfl
        rw [Int16.le_iff_toInt_le]
        omega
      rw [only]
      constructor
      . exact inside_start fits.2.2
      . exact templateSize_exact hh fits.2.1 fits.2.2

theorem patternSize_fits (size : UInt8) (h : ¬ size > 15)
    : (2 * ((1 : UInt32) <<< size.toUInt32)).toNat = 2 * 2 ^ size.toNat
      ∧ z2TemplateFits (2 * ((1 : UInt32) <<< size.toUInt32)) = true := by
  have fifteen : (15 : UInt8).toNat = 15 := rfl
  have few := UInt8.le_iff_toNat_le.mp (UInt8.not_lt.mp h)
  rw [fifteen] at few
  have all : (List.range 16).all (fun k =>
      decide ((2 * ((1 : UInt32) <<< (UInt8.ofNat k).toUInt32)).toNat = 2 * 2 ^ k)
        && z2TemplateFits (2 * ((1 : UInt32) <<< (UInt8.ofNat k).toUInt32))) = true := by decide
  have fits := List.all_eq_true.mp all size.toNat (List.mem_range.mpr (by omega))
  rw [UInt8.ofNat_toNat, Bool.and_eq_true, decide_eq_true_eq] at fits
  exact fits

/-- Patterns have at most 32768 words, which is the whole area. -/
theorem blitPattern_inside (b : BoardInfo) (r : RenderInfo) (pat : Pattern) (x y w h : Int16)
    (mask : UInt8) (format : UInt32)
    : ∀ region ∈ stagings (blitPattern b (some r) (some pat) x y w h mask format),
        Inside b region ∧ region.2.toNat = 2 * 2 ^ pat.size.toNat := by
  intro region mem
  unfold blitPattern at mem
  dsimp only at mem
  split at mem
  . cases mem
  . split at mem
    . cases mem
    . next size =>
      have only : region = (z2TemplateOffset b, _) := List.mem_singleton.mp mem
      have exact_ := patternSize_fits pat.size size
      rw [only]
      constructor
      . exact inside_start exact_.2
      . exact exact_.1

theorem toNat_spriteDataSize (b : BoardInfo)
    : (spriteDataSize b).toNat
      = b.mouseWidth.toNat / 8 * 2 * (if hiresSprite b then 2 else 1) * b.mouseHeight.toNat := by
  have := b.mouseWidth.toNat_lt
  have := b.mouseHeight.toNat_lt
  have two : (2 : UInt32).toNat = 2 := rfl
  have three : (3 : UInt8).toNat % 8 = 3 := rfl
  have scale : (if hiresSprite b then (2 : UInt32) else 1).toNat = if hiresSprite b then 2 else 1 :=
    by split <;> rfl
  have scale_le : (if hiresSprite b then 2 else 1) ≤ 2 := by split <;> omega
  have row : b.mouseWidth.toNat / 8 * 2 * (if hiresSprite b then 2 else 1) ≤ 62 * 2 :=
    Nat.mul_le_mul (by omega) scale_le
  have image : b.mouseWidth.toNat / 8 * 2 * (if hiresSprite b then 2 else 1) * b.mouseHeight.toNat
      ≤ 124 * 255 := Nat.mul_le_mul row (by omega)
  unfold spriteDataSize
  dsimp only
  rw [UInt32.toNat_mul, UInt32.toNat_mul, UInt32.toNat_mul, UInt8.toNat_toUInt32,
    UInt8.toNat_toUInt32, UInt8.toNat_shiftRight, scale, two, three, Nat.shiftRight_eq_div_pow]
  have words : b.mouseWidth.toNat / 2 ^ 3 * 2 % 2 ^ 32 = b.mouseWidth.toNat / 8 * 2 := by omega
  have rowBytes : b.mouseWidth.toNat / 8 * 2 * (if hiresSprite b then 2 else 1) % 2 ^ 32
      = b.mouseWidth.toNat / 8 * 2 * (if hiresSprite b then 2 else 1) :=
    Nat.mod_eq_of_lt (by omega)
  rw [words, rowBytes, Nat.mod_eq_of_lt (by omega)]

/-- Every pointer image fits. -/
theorem setSpriteImage_inside (b : BoardInfo)
    : ∀ region ∈ stagings (setSpriteImage b),
        Inside b region ∧ region.2.toNat
          = b.mouseWidth.toNat / 8 * 2 * (if hiresSprite b then 2 else 1)
            * b.mouseHeight.toNat := by
  intro region mem
  unfold setSpriteImage at mem
  split at mem
  . cases mem
  . next fits =>
    rw [Bool.not_eq_true, Bool.not_eq_false'] at fits
    have only : region = (z2TemplateOffset b, _) := List.mem_singleton.mp mem
    rw [only]
    constructor
    . exact inside_start fits
    . exact toNat_spriteDataSize b

end Single

section Planes

variable {lineSize bytesPerRow : UInt16} {h : Int16} {first : UInt32}

theorem stageLines_eq (lines : Nat) (zzDest bmpMem : UInt32)
    : stageLines lineSize bytesPerRow lines zzDest bmpMem
      = (List.range lines).map fun line =>
          ⟨zzDest + line.toUInt32 * lineSize.toUInt32, lineSize.toUInt32,
            .memory (bmpMem + line.toUInt32 * bytesPerRow.toUInt32)⟩ := by
  induction lines generalizing zzDest bmpMem with
  | zero => rfl
  | succ lines ih =>
    have zero : Nat.toUInt32 0 = 0 := rfl
    have succ : ∀ line, Nat.toUInt32 (line + 1) = 1 + Nat.toUInt32 line := by
      intro line
      rw [Nat.add_comm]
      exact UInt32.ofNat_add 1 line
    unfold stageLines
    rw [ih, List.range_succ_eq_map, List.map_cons, List.map_map, zero, zero_mul, zero_mul, add_zero,
      add_zero]
    congr 1
    apply List.map_congr_left
    intro line _
    dsimp only [Function.comp]
    rw [succ, add_mul, add_mul, one_mul, one_mul, add_assoc, add_assoc]

/-- The hooks stage what the loop over the planes copies. -/
theorem stagings_stagePlanes (planes : List UInt32) (curPlane : UInt8) (templateAddr : UInt32)
    (zzMask : UInt16)
    : stagings (stagePlanes lineSize h planes curPlane templateAddr zzMask).2
      = (stageBitMap lineSize h bytesPerRow first planes templateAddr).flatten.map
          Staging.region := by
  induction planes generalizing curPlane templateAddr zzMask with
  | nil => rfl
  | cons plane planes ih =>
    unfold stagePlanes stageBitMap stagePlane
    dsimp only
    rw [List.flatten_cons, List.map_append]
    split
    . rw [List.map_singleton, List.singleton_append, ← ih]
      rfl
    . split
      . rw [stagings_append, stageLines_eq, stagings_map_stage, ih, List.map_map]
        rfl
      . rw [List.map_nil, List.nil_append, ih]

theorem stageBitMap_getElem? (planes : List UInt32) (templateAddr : UInt32) (i : Nat)
    : (stageBitMap lineSize h bytesPerRow first planes templateAddr)[i]?
      = planes[i]?.map fun plane => stagePlane lineSize h bytesPerRow first plane
          (templateAddr + i.toUInt32 * (lineSize.toUInt32 * h.toInt32.toUInt32)) := by
  induction planes generalizing templateAddr i with
  | nil => rfl
  | cons plane planes ih =>
    unfold stageBitMap
    cases i with
    | zero =>
      have zero : Nat.toUInt32 0 = 0 := rfl
      rw [List.getElem?_cons_zero, List.getElem?_cons_zero, Option.map_some, zero, zero_mul,
        add_zero]
    | succ i =>
      have succ : Nat.toUInt32 (i + 1) = 1 + Nat.toUInt32 i := by
        rw [Nat.add_comm]
        exact UInt32.ofNat_add 1 i
      rw [List.getElem?_cons_succ, List.getElem?_cons_succ, ih, succ, add_mul, one_mul, add_assoc]

theorem length_stageBitMap (planes : List UInt32) (templateAddr : UInt32)
    : (stageBitMap lineSize h bytesPerRow first planes templateAddr).length = planes.length := by
  induction planes generalizing templateAddr with
  | nil => rfl
  | cons plane planes ih =>
    unfold stageBitMap
    rw [List.length_cons, List.length_cons, ih]

theorem toNat_planeSize (hh : 0 ≤ h)
    : (lineSize.toUInt32 * h.toInt32.toUInt32).toNat = lineSize.toNat * h.toNatClampNeg := by
  have product : lineSize.toNat * h.toNatClampNeg ≤ 2 ^ 16 * 2 ^ 15 :=
    Nat.mul_le_mul (Nat.le_of_lt lineSize.toNat_lt) (Nat.le_of_lt h.toNatClampNeg_lt)
  rw [UInt32.toNat_mul, UInt16.toNat_toUInt32, toNat_toInt32 hh, Nat.mod_eq_of_lt (by omega)]

/-- Where the line of a plane starts. -/
theorem toNat_line {n : Nat} (hn : n < h.toNatClampNeg)
    : (n.toUInt32 * lineSize.toUInt32).toNat = n * lineSize.toNat := by
  have product : n * lineSize.toNat ≤ 2 ^ 15 * 2 ^ 16 :=
    Nat.mul_le_mul (by have := h.toNatClampNeg_lt; omega) (Nat.le_of_lt lineSize.toNat_lt)
  have small : n.toUInt32.toNat = n := by
    have := h.toNatClampNeg_lt
    exact Nat.mod_eq_of_lt (by omega)
  rw [UInt32.toNat_mul, UInt16.toNat_toUInt32, small, Nat.mod_eq_of_lt (by omega)]

section Plane

variable {b : BoardInfo} {plane templateAddr : UInt32}

theorem areaOffset_line {n : Nat}
    (fits : areaOffset b templateAddr + lineSize.toNat * h.toNatClampNeg ≤ 0x10000)
    (hn : n < h.toNatClampNeg)
    : areaOffset b (templateAddr + n.toUInt32 * lineSize.toUInt32)
        = areaOffset b templateAddr + n * lineSize.toNat
      ∧ n * lineSize.toNat + lineSize.toNat ≤ lineSize.toNat * h.toNatClampNeg := by
  have room : (n + 1) * lineSize.toNat ≤ h.toNatClampNeg * lineSize.toNat :=
    Nat.mul_le_mul_right _ hn
  rw [Nat.succ_mul, Nat.mul_comm h.toNatClampNeg] at room
  have line := @toNat_line lineSize h n hn
  constructor
  . rw [areaOffset_add, line]
    omega
  . exact room

/-- What is copied of a plane stays in the slot of the plane. -/
theorem stagePlane_slot (hh : 0 ≤ h)
    (fits : areaOffset b templateAddr + lineSize.toNat * h.toNatClampNeg ≤ 0x10000)
    : ∀ s ∈ stagePlane lineSize h bytesPerRow first plane templateAddr,
        areaOffset b templateAddr ≤ areaOffset b s.dst
        ∧ areaOffset b s.dst + s.bytes.toNat
          ≤ areaOffset b templateAddr + lineSize.toNat * h.toNatClampNeg := by
  intro s mem
  unfold stagePlane at mem
  split at mem
  . rw [List.mem_singleton] at mem
    rw [mem]
    dsimp only
    rw [toNat_planeSize hh]
    omega
  . split at mem
    . rw [stageLines_eq, List.mem_map] at mem
      cases mem with | intro line mem =>
      have place := areaOffset_line fits (List.mem_range.mp mem.1)
      rw [← mem.2]
      dsimp only
      rw [place.1, UInt16.toNat_toUInt32]
      omega
    . cases mem

/-- The byte `k` of a line of a plane is copied from the byte `k` of the line. -/
theorem stagePlane_byte (hh : 0 ≤ h)
    (fits : areaOffset b templateAddr + lineSize.toNat * h.toNatClampNeg ≤ 0x10000)
    (hplane : plane ≠ 0) {line k : Nat} (hline : line < h.toNatClampNeg) (hk : k < lineSize.toNat)
    : ∃ s ∈ stagePlane lineSize h bytesPerRow first plane templateAddr, ∃ j < s.bytes.toNat,
        areaOffset b s.dst + j = areaOffset b templateAddr + line * lineSize.toNat + k
        ∧ s.byteAt j = if plane = 0xffffffff then
            .ones
          else
            .memory (plane + first + line.toUInt32 * bytesPerRow.toUInt32 + UInt32.ofNat k) := by
  have place := areaOffset_line fits hline
  unfold stagePlane
  split
  . refine ⟨_, List.mem_singleton.mpr rfl, line * lineSize.toNat + k, ?_, ?_, ?_⟩
    . dsimp only
      rw [toNat_planeSize hh]
      omega
    . dsimp only
      omega
    . rfl
  . rw [stageLines_eq]
    refine ⟨_, List.mem_map.mpr ⟨line, List.mem_range.mpr hline, rfl⟩, k, ?_, ?_, ?_⟩
    . dsimp only
      rw [UInt16.toNat_toUInt32]
      exact hk
    . dsimp only
      rw [place.1]
    . rfl

end Plane

end Planes

section BitMaps

/-- The byte of the memory that has the pixel `p` of a row of a plane. -/
def PlanarBitMap.pixelByte (bm : PlanarBitMap) (plane : Nat) (row : Int) (p : Nat) : StageSource :=
  if bm.planes plane = 0xffffffff then
    .ones
  else
    .memory (bm.planes plane + UInt32.ofInt (row * bm.bytesPerRow.toNat + (p / 8 : Nat)))

/--
The planes of a bitmap are staged one after another behind `front` bytes, and every line has the
pixels `x` to `x + w - 1`.
-/
structure PlanesStaged (b : BoardInfo) (bm : PlanarBitMap) (x y w h : Int16) (front : Nat)
    (lineSize : UInt16) (planes : List (List Staging)) : Prop where
  count : planes.length = bm.depth.toNat
  fits : front + bm.depth.toNat * (lineSize.toNat * h.toNatClampNeg) ≤ 0x10000
  slots : ∀ i plane, planes[i]? = some plane → ∀ s ∈ plane,
    front + i * (lineSize.toNat * h.toNatClampNeg) ≤ areaOffset b s.dst
    ∧ areaOffset b s.dst + s.bytes.toNat
      ≤ front + (i + 1) * (lineSize.toNat * h.toNatClampNeg)
  pixels : ∀ i plane, planes[i]? = some plane → bm.planes i ≠ 0
    → ∀ line < h.toNatClampNeg, ∀ p, x.toNatClampNeg ≤ p → p < x.toNatClampNeg + w.toNatClampNeg
    → ∃ s ∈ plane, ∃ k < s.bytes.toNat,
        areaOffset b s.dst + k = front + i * (lineSize.toNat * h.toNatClampNeg)
          + line * lineSize.toNat + (p / 8 - x.toNatClampNeg / 8)
        ∧ s.byteAt k = bm.pixelByte i (y.toInt + line) p

theorem toNat_xOffset {x : Int16} (hx : 0 ≤ x)
    : (x >>> 3).toUInt16.toNat = x.toNatClampNeg / 8 := by
  have msb : x.toBitVec.msb = false := by
    rw [BitVec.msb_eq_toInt]
    have := Int16.le_iff_toInt_le.mp hx
    simpa using this
  have three : (3 : Int16).toBitVec.smod 16 = 3#16 := by decide
  rw [← Int16.toNat_toBitVec]
  change (BitVec.sshiftRight' x.toBitVec ((3 : Int16).toBitVec.smod 16)).toNat = _
  rw [three, BitVec.toNat_sshiftRight'_of_msb_false msb, ← Int16.toNat_toBitVec_of_le hx,
    Nat.shiftRight_eq_div_pow]
  rfl

theorem ofInt_natCast (n : Nat)
    : UInt32.ofInt n = UInt32.ofNat n := by
  apply UInt32.toNat_inj.mp
  rw [UInt32.ofInt, UInt32.toNat_ofNat', UInt32.toNat_ofNat']
  omega

variable {b : BoardInfo} {bm : PlanarBitMap} {x y w h : Int16} {lineSize : UInt16}

theorem pixelByte_eq (hx : 0 ≤ x) (plane line p : Nat) (hp : x.toNatClampNeg ≤ p)
    : bm.pixelByte plane (y.toInt + line) p
      = if bm.planes plane = 0xffffffff then
          .ones
        else
          .memory (bm.planes plane + bm.firstByte x y + line.toUInt32 * bm.bytesPerRow.toUInt32
            + UInt32.ofNat (p / 8 - x.toNatClampNeg / 8)) := by
  have start : (x >>> 3).toUInt16.toUInt32 = UInt32.ofNat (x.toNatClampNeg / 8) := by
    rw [← toNat_xOffset hx, UInt32.ofNat_uInt16ToNat]
  have stride : bm.bytesPerRow.toUInt32 = UInt32.ofNat bm.bytesPerRow.toNat :=
    (UInt32.ofNat_uInt16ToNat _).symm
  have byte : UInt32.ofNat (p / 8)
      = UInt32.ofNat (x.toNatClampNeg / 8) + UInt32.ofNat (p / 8 - x.toNatClampNeg / 8) := by
    rw [← UInt32.ofNat_add, Nat.add_sub_cancel' (Nat.div_le_div_right hp)]
  have same : bm.planes plane
        + UInt32.ofInt ((y.toInt + line) * bm.bytesPerRow.toNat + (p / 8 : Nat))
      = bm.planes plane + bm.firstByte x y + line.toUInt32 * bm.bytesPerRow.toUInt32
        + UInt32.ofNat (p / 8 - x.toNatClampNeg / 8) := by
    unfold PlanarBitMap.firstByte
    rw [UInt32.ofInt_add, UInt32.ofInt_mul, UInt32.ofInt_add, ofInt_natCast, ofInt_natCast,
      ofInt_natCast, byte, start, stride, toUInt32_toInt32]
    change _ = _ + (_ + _) + UInt32.ofNat line * _ + _
    grind
  unfold PlanarBitMap.pixelByte
  rw [same]

theorem of_planeList_getElem? {i : Nat} {plane : UInt32} (h : bm.planeList[i]? = some plane)
    : i < bm.depth.toNat ∧ plane = bm.planes i := by
  unfold PlanarBitMap.planeList at h
  rw [List.getElem?_map, Option.map_eq_some_iff] at h
  cases h with | intro j h =>
  have range := List.getElem?_eq_some_iff.mp h.1
  cases range with | intro bound same =>
  rw [List.length_range] at bound
  rw [List.getElem_range] at same
  rw [← h.2, ← same]
  exact ⟨bound, rfl⟩

theorem planesStaged (hx : 0 ≤ x) (hh : 0 ≤ h) {front : UInt32}
    (fits : z2StagingFits front (lineSize.toUInt32 * h.toInt32.toUInt32) bm.depth.toUInt32 = true)
    (covers : ∀ p, x.toNatClampNeg ≤ p → p < x.toNatClampNeg + w.toNatClampNeg
      → p / 8 - x.toNatClampNeg / 8 < lineSize.toNat)
    : PlanesStaged b bm x y w h front.toNat lineSize
        (stageBitMap lineSize h bm.bytesPerRow (bm.firstByte x y) bm.planeList
          (z2TemplateOffset b + front)) := by
  rw [z2StagingFits_iff, toNat_planeSize hh, UInt8.toNat_toUInt32] at fits
  have few : ∀ i, i < bm.depth.toNat
      → (i + 1) * (lineSize.toNat * h.toNatClampNeg)
        ≤ bm.depth.toNat * (lineSize.toNat * h.toNatClampNeg) :=
    fun i hi => Nat.mul_le_mul_right _ hi
  -- the slot of a plane starts behind the slots of the planes before it
  have start : ∀ i, i < bm.depth.toNat
      → areaOffset b (z2TemplateOffset b + front
          + i.toUInt32 * (lineSize.toUInt32 * h.toInt32.toUInt32))
        = front.toNat + i * (lineSize.toNat * h.toNatClampNeg) := by
    intro i hi
    have := few i hi
    have := bm.depth.toNat_lt
    have small : i.toUInt32.toNat = i := Nat.mod_eq_of_lt (by omega)
    have behind := few i hi
    rw [Nat.succ_mul] at behind
    have slots : (i.toUInt32 * (lineSize.toUInt32 * h.toInt32.toUInt32)).toNat
        = i * (lineSize.toNat * h.toNatClampNeg) := by
      rw [UInt32.toNat_mul, toNat_planeSize hh, small, Nat.mod_eq_of_lt (by omega)]
    have firstSlot : areaOffset b (z2TemplateOffset b + front) = front.toNat := by
      rw [areaOffset_add, areaOffset_start, Nat.zero_add]
      rw [areaOffset_start]
      omega
    rw [areaOffset_add, firstSlot, slots]
    rw [firstSlot, slots]
    omega
  constructor
  . rw [length_stageBitMap]
    unfold PlanarBitMap.planeList
    rw [List.length_map, List.length_range]
  . exact fits.2
  . intro i rows found s mem
    rw [stageBitMap_getElem?, Option.map_eq_some_iff] at found
    cases found with | intro plane found =>
    have hi := of_planeList_getElem? found.1
    have room := few i hi.1
    rw [Nat.succ_mul] at room
    rw [← found.2] at mem
    have slot := stagePlane_slot hh (by rw [start i hi.1]; omega) s mem
    rw [start i hi.1] at slot
    rw [Nat.succ_mul]
    omega
  . intro i rows found present line hline p first last
    rw [stageBitMap_getElem?, Option.map_eq_some_iff] at found
    cases found with | intro plane found =>
    have hi := of_planeList_getElem? found.1
    have room := few i hi.1
    rw [Nat.succ_mul] at room
    rw [← hi.2] at present
    have byte := @stagePlane_byte lineSize bm.bytesPerRow h (bm.firstByte x y) b plane _ hh
      (by rw [start i hi.1]; omega) present line _ hline (covers p first last)
    rw [found.2, start i hi.1] at byte
    rw [pixelByte_eq hx i line p first, ← hi.2]
    exact byte

end BitMaps

section LineSizes

variable {x w : Int16} {p : Nat}

/-- The padding covers an `x` that does not start a byte. -/
theorem covers_planarLineBytesPadded (hw : 0 ≤ w) (first : x.toNatClampNeg ≤ p)
    (last : p < x.toNatClampNeg + w.toNatClampNeg)
    : p / 8 - x.toNatClampNeg / 8 < (planarLineBytesPadded w).toNat := by
  have := w.toNatClampNeg_lt
  have three : (3 : UInt16).toNat % 16 = 3 := rfl
  have two : (2 : UInt16).toNat = 2 := rfl
  unfold planarLineBytesPadded
  rw [UInt16.toNat_add, UInt16.toNat_shiftRight, Int16.toNat_toUInt16_of_le hw, three, two,
    Nat.shiftRight_eq_div_pow]
  omega

theorem covers_planarLineBytes (hx : 0 ≤ x) (hw : 0 ≤ w) (first : x.toNatClampNeg ≤ p)
    (last : p < x.toNatClampNeg + w.toNatClampNeg)
    : p / 8 - x.toNatClampNeg / 8 < (planarLineBytes x w).toNat := by
  have := w.toNatClampNeg_lt
  have three : (3 : UInt32).toNat % 32 = 3 := rfl
  have seven : (7 : UInt32).toNat = 7 := rfl
  have mask : (7 : UInt16).toNat = 2 ^ 3 - 1 := rfl
  unfold planarLineBytes
  rw [UInt32.toNat_toUInt16, UInt32.toNat_shiftRight, UInt32.toNat_add, UInt32.toNat_add,
    UInt16.toNat_toUInt32, UInt16.toNat_toUInt32, UInt16.toNat_and, mask,
    Nat.and_two_pow_sub_one_eq_mod, Int16.toNat_toUInt16_of_le hx, Int16.toNat_toUInt16_of_le hw,
    three, seven, Nat.shiftRight_eq_div_pow]
  omega

end LineSizes

section Hooks

theorem nonneg_of_one_le {n : Int16} (h : 1 ≤ n)
    : 0 ≤ n := Int16.le_trans (by decide) h

theorem chunky_fits_iff (depth : UInt8) (lineSize : UInt16) {h : Int16} (hh : 0 ≤ h)
    : z2StagingFits 0 (lineSize.toUInt32 * h.toInt32.toUInt32) depth.toUInt32 = true
      ↔ depth.toNat * (lineSize.toNat * h.toNatClampNeg) ≤ 0x10000 := by
  have zero : (0 : UInt32).toNat = 0 := rfl
  rw [z2StagingFits_iff, toNat_planeSize hh, UInt8.toNat_toUInt32, zero]
  omega

theorem direct_fits_iff (depth : UInt8) (lineSize : UInt16) {h : Int16} (hh : 0 ≤ h)
    : z2StagingFits ((256 : UInt32) <<< 2) (lineSize.toUInt32 * h.toInt32.toUInt32) depth.toUInt32
        = true
      ↔ 0x400 + depth.toNat * (lineSize.toNat * h.toNatClampNeg) ≤ 0x10000 := by
  have palette : ((256 : UInt32) <<< 2).toNat = 0x400 := rfl
  rw [z2StagingFits_iff, toNat_planeSize hh, UInt8.toNat_toUInt32, palette]
  omega

variable (b : BoardInfo) (bm : PlanarBitMap) (r : RenderInfo)

theorem stagings_blitPlanar2Chunky (x y dx dy w h : Int16) (minterm mask : UInt8)
    : stagings (blitPlanar2Chunky b (some bm) (some r) x dx dy w h minterm mask)
      = (blitPlanar2ChunkyStagings b bm x y w h).flatten.map Staging.region := by
  unfold blitPlanar2Chunky blitPlanar2ChunkyStagings
  dsimp only
  split
  . rfl
  . split
    . rfl
    . rw [stagings_append, stagings_append,
        @stagings_stagePlanes _ bm.bytesPerRow h (bm.firstByte x y)]
      exact List.append_nil _

/-- The palette is staged even if the bitmap has no planes. -/
theorem stagings_blitPlanar2Direct (clut : ColorIndexMapping) (x y dx dy : Int16) {w h : Int16}
    (minterm mask : UInt8) (hw : 1 ≤ w) (hh : 1 ≤ h)
    : stagings (blitPlanar2Direct b (some bm) (some r) (some clut) x dx dy w h minterm mask)
      = if 0x400 + bm.depth.toNat * ((planarLineBytes x w).toNat * h.toNatClampNeg) ≤ 0x10000 then
          (z2TemplateOffset b, 0x400)
            :: (blitPlanar2DirectStagings b bm x y w h).flatten.map Staging.region
        else
          [] := by
  have fits_iff := direct_fits_iff bm.depth (planarLineBytes x w) (nonneg_of_one_le hh)
  have some : ¬ (w < 1 ∨ h < 1) := not_or.mpr ⟨Int16.not_lt.mpr hw, Int16.not_lt.mpr hh⟩
  unfold blitPlanar2Direct blitPlanar2DirectStagings
  dsimp only
  rw [if_neg some, if_neg some]
  split
  . next large =>
    rw [if_neg]
    . rfl
    . rw [← fits_iff]
      rw [Bool.not_eq_true', Bool.eq_false_iff] at large
      exact large
  . next fits =>
    rw [Bool.not_eq_true', Bool.not_eq_false] at fits
    rw [if_pos (fits_iff.mp fits), stagings_append, stagings_append,
      @stagings_stagePlanes _ bm.bytesPerRow h (bm.firstByte x y)]
    exact List.append_nil _

end Hooks

theorem PlanesStaged.inside {b : BoardInfo} {bm : PlanarBitMap} {x y w h : Int16} {front : Nat}
    {lineSize : UInt16} {planes : List (List Staging)}
    (staged : PlanesStaged b bm x y w h front lineSize planes)
    : ∀ region ∈ planes.flatten.map Staging.region, Inside b region := by
  intro region mem
  rw [List.mem_map] at mem
  cases mem with | intro s mem =>
  have plane := List.mem_flatten.mp mem.1
  cases plane with | intro plane found =>
  cases List.mem_iff_getElem?.mp found.1 with | intro i place =>
  have slot := staged.slots i plane place s found.2
  have bound := (List.getElem?_eq_some_iff.mp place).1
  rw [staged.count] at bound
  have room : (i + 1) * (lineSize.toNat * h.toNatClampNeg)
      ≤ bm.depth.toNat * (lineSize.toNat * h.toNatClampNeg) := Nat.mul_le_mul_right _ bound
  have fits := staged.fits
  rw [← mem.2]
  unfold Inside Staging.region
  dsimp only
  omega

section Calls

variable (b : BoardInfo) (bm : PlanarBitMap) {x y w h : Int16}

/-- A bitmap goes to the staging area as a whole or to the default routine. -/
theorem blitPlanar2ChunkyStagings_spec (hx : 0 ≤ x) (hw : 1 ≤ w) (hh : 1 ≤ h)
    : let lineSize := planarLineBytesPadded w
      let planes := blitPlanar2ChunkyStagings b bm x y w h
      if bm.depth.toNat * (lineSize.toNat * h.toNatClampNeg) ≤ 0x10000 then
        PlanesStaged b bm x y w h 0 lineSize planes
      else
        planes = [] := by
  have fits_iff := chunky_fits_iff bm.depth (planarLineBytesPadded w) (nonneg_of_one_le hh)
  have some : ¬ (w < 1 ∨ h < 1) := not_or.mpr ⟨Int16.not_lt.mpr hw, Int16.not_lt.mpr hh⟩
  unfold blitPlanar2ChunkyStagings
  rw [if_neg some]
  dsimp only
  split
  . next small =>
    have fits := fits_iff.mpr small
    have staged := @planesStaged b bm x y w h (planarLineBytesPadded w) hx (nonneg_of_one_le hh) 0
      fits fun p first last => covers_planarLineBytesPadded (nonneg_of_one_le hw) first last
    rw [add_zero] at staged
    rw [fits]
    exact staged
  . next large =>
    rw [if_pos]
    rw [Bool.not_eq_true', Bool.eq_false_iff]
    exact fun fits => large (fits_iff.mp fits)

theorem blitPlanar2DirectStagings_spec (hx : 0 ≤ x) (hw : 1 ≤ w) (hh : 1 ≤ h)
    : let lineSize := planarLineBytes x w
      let planes := blitPlanar2DirectStagings b bm x y w h
      if 0x400 + bm.depth.toNat * (lineSize.toNat * h.toNatClampNeg) ≤ 0x10000 then
        PlanesStaged b bm x y w h 0x400 lineSize planes
      else
        planes = [] := by
  have fits_iff := direct_fits_iff bm.depth (planarLineBytes x w) (nonneg_of_one_le hh)
  have some : ¬ (w < 1 ∨ h < 1) := not_or.mpr ⟨Int16.not_lt.mpr hw, Int16.not_lt.mpr hh⟩
  unfold blitPlanar2DirectStagings
  rw [if_neg some]
  dsimp only
  split
  . next small =>
    have fits := fits_iff.mpr small
    have staged := @planesStaged b bm x y w h (planarLineBytes x w) hx (nonneg_of_one_le hh) _
      fits fun p first last => covers_planarLineBytes hx (nonneg_of_one_le hw) first last
    rw [fits]
    exact staged
  . next large =>
    rw [if_pos]
    rw [Bool.not_eq_true', Bool.eq_false_iff]
    exact fun fits => large (fits_iff.mp fits)

end Calls

/--
What the hooks copy to the staging area stays inside. Templates, patterns and pointers are staged
whole or not at all, the planes of a bitmap one after another with every pixel that is drawn.
-/
theorem stagings_inside (b : BoardInfo)
    : (∀ r t x y w h mask format,
        ∀ region ∈ stagings (blitTemplate b (some r) (some t) x y w h mask format),
          Inside b region ∧ (region.2.toNat : Int) = t.bytesPerRow.toInt * h.toInt)
      ∧ (∀ r pat x y w h mask format,
        ∀ region ∈ stagings (blitPattern b (some r) (some pat) x y w h mask format),
          Inside b region ∧ region.2.toNat = 2 * 2 ^ pat.size.toNat)
      ∧ (∀ region ∈ stagings (setSpriteImage b),
          Inside b region ∧ region.2.toNat
            = b.mouseWidth.toNat / 8 * 2 * (if hiresSprite b then 2 else 1)
              * b.mouseHeight.toNat)
      ∧ (∀ bm r x y dx dy w h minterm mask, 0 ≤ x → 1 ≤ w → 1 ≤ h →
        let lineSize := planarLineBytesPadded w
        let planes := blitPlanar2ChunkyStagings b bm x y w h
        let staged := stagings (blitPlanar2Chunky b (some bm) (some r) x dx dy w h minterm mask)
        (∀ region ∈ staged, Inside b region)
        ∧ if bm.depth.toNat * (lineSize.toNat * h.toNatClampNeg) ≤ 0x10000 then
            staged = planes.flatten.map Staging.region
            ∧ PlanesStaged b bm x y w h 0 lineSize planes
          else
            staged = [])
      ∧ ∀ bm r clut x y dx dy w h minterm mask, 0 ≤ x → 1 ≤ w → 1 ≤ h →
        let lineSize := planarLineBytes x w
        let planes := blitPlanar2DirectStagings b bm x y w h
        let staged := stagings
          (blitPlanar2Direct b (some bm) (some r) (some clut) x dx dy w h minterm mask)
        (∀ region ∈ staged, Inside b region)
        ∧ if 0x400 + bm.depth.toNat * (lineSize.toNat * h.toNatClampNeg) ≤ 0x10000 then
            staged = (z2TemplateOffset b, 0x400) :: planes.flatten.map Staging.region
            ∧ PlanesStaged b bm x y w h 0x400 lineSize planes
          else
            staged = [] := by
  constructor
  . exact blitTemplate_inside b
  constructor
  . exact blitPattern_inside b
  constructor
  . exact setSpriteImage_inside b
  constructor
  . intro bm r x y dx dy w h minterm mask hx hw hh
    have whole := blitPlanar2ChunkyStagings_spec b bm (y := y) hx hw hh
    dsimp only at whole ⊢
    rw [stagings_blitPlanar2Chunky b bm r x y dx dy w h minterm mask]
    split at whole
    . next fits =>
      rw [if_pos fits]
      exact ⟨whole.inside, rfl, whole⟩
    . next large =>
      rw [if_neg large, whole]
      constructor
      . intro region mem
        cases mem
      . rfl
  . intro bm r clut x y dx dy w h minterm mask hx hw hh
    have whole := blitPlanar2DirectStagings_spec b bm (y := y) hx hw hh
    dsimp only at whole ⊢
    rw [stagings_blitPlanar2Direct b bm r clut x y dx dy minterm mask hw hh]
    split at whole
    . next fits =>
      rw [if_pos fits, if_pos fits]
      constructor
      . intro region mem
        cases List.mem_cons.mp mem with
        | inl palette =>
          rw [palette]
          exact inside_start (by decide)
        | inr plane => exact whole.inside region plane
      . exact ⟨rfl, whole⟩
    . next large =>
      rw [if_neg large, if_neg large]
      constructor
      . intro region mem
        cases mem
      . rfl

end ZZRtg
