import Mathlib.Algebra.Group.Prod
import Mathlib.Algebra.Order.Group.Abs
import Mathlib.Algebra.Order.Ring.Int
import Mathlib.Tactic.Ring
import ZZ9000.Numerics.Rounding
import ZZ9000.Rtg.Blitter

/-!
This module contains the verification of the accumulator that `DrawLine` seeds a clipped line with:
the firmware continues the staircase of the line before clipping.
-/

namespace ZZRtg

open Numerics

namespace Line

-- the values that `DrawLine` computes the seed from

def lineMajor (l : Line) : Prop := |l.dX.toInt| ≥ |l.dY.toInt|

instance (l : Line) : Decidable l.lineMajor := inferInstanceAs (Decidable (_ ≥ _))

def lineL (l : Line) : Int := if l.lineMajor then |l.dX.toInt| else |l.dY.toInt|

def lineS (l : Line) : Int := if l.lineMajor then |l.dY.toInt| else |l.dX.toInt|

def alongX (l : Line) : Int := l.x.toInt - l.xorigin.toInt16.toInt

def alongY (l : Line) : Int := l.y.toInt - l.yorigin.toInt16.toInt

def lineK (l : Line) : Int := |if l.lineMajor then l.alongX else l.alongY|

def lineM (l : Line) : Int := |if l.lineMajor then l.alongY else l.alongX|

/-- The seed before it is truncated. -/
def lineSeed (l : Line) : Int := l.lineS * l.lineK - l.lineL * l.lineM + l.lineL / 2

theorem errSeed_eq (l : Line)
    : l.errSeed = UInt16.ofInt l.lineSeed := by
  rfl

/-- The minor offset of pixel `i` of the line before clipping. -/
def minorOffset (l : Line) (i : Nat) : Nat :=
  (2 * i * l.lineS.toNat + l.lineL.toNat) / (2 * l.lineL.toNat)

/-- A move in the octant of the line. -/
def move (l : Line) (major minor : Int) : Int × Int :=
  if l.lineMajor then
    (l.dX.toInt.sign * major, l.dY.toInt.sign * minor)
  else
    (l.dX.toInt.sign * minor, l.dY.toInt.sign * major)

def start (l : Line) : Int × Int := (l.x.toInt, l.y.toInt)

def origin (l : Line) : Int × Int := (l.xorigin.toInt16.toInt, l.yorigin.toInt16.toInt)

/-- Pixel `i` of the line before clipping. -/
def pixel (l : Line) (i : Nat) : Int × Int := l.origin + l.move i (l.minorOffset i)

/-- The state of the rule that the comment in `DrawLine` states for the firmware. -/
structure Pen where
  pos : Int × Int
  e : Nat
  deriving DecidableEq, Repr

def advance (l : Line) (p : Pen) : Pen :=
  let e := p.e + l.lineS.toNat
  if e ≥ l.lineL.toNat then
    { pos := p.pos + l.move 1 1, e := e - l.lineL.toNat }
  else
    { pos := p.pos + l.move 1 0, e := e }

def penAt (l : Line) (n : Nat) : Pen :=
  match n with
  | 0 => { pos := l.start, e := l.errSeed.toNat }
  | n + 1 => l.advance (l.penAt n)

theorem abs_toInt_le (w : Int16)
    : 0 ≤ |w.toInt| ∧ |w.toInt| ≤ 32768 := by
  have low := w.le_toInt
  have high := w.toInt_lt
  constructor
  . exact abs_nonneg _
  . rw [abs_le]
    omega

theorem lineS_nonneg (l : Line)
    : 0 ≤ l.lineS := by
  unfold lineS
  split
  . exact abs_nonneg _
  . exact abs_nonneg _

theorem lineS_le_lineL (l : Line)
    : l.lineS ≤ l.lineL := by
  unfold lineS lineL
  split
  next h => exact h
  next h =>
    unfold lineMajor at h
    omega

theorem lineL_eq_max (l : Line)
    : l.lineL = max |l.dX.toInt| |l.dY.toInt| := by
  unfold lineL
  split
  next h => rw [max_eq_left h]
  next h =>
    unfold lineMajor at h
    rw [max_eq_right (by omega)]

theorem lineS_eq_min (l : Line)
    : l.lineS = min |l.dX.toInt| |l.dY.toInt| := by
  unfold lineS
  split
  next h => rw [min_eq_right h]
  next h =>
    unfold lineMajor at h
    rw [min_eq_left (by omega)]

theorem lineL_le (l : Line)
    : l.lineL ≤ 32768 := by
  have hx := abs_toInt_le l.dX
  have hy := abs_toInt_le l.dY
  unfold lineL
  split
  . exact hx.2
  . exact hy.2

theorem lineL_pos (l : Line) (moves : l.dX ≠ 0 ∨ l.dY ≠ 0)
    : 0 < l.lineL := by
  have nonneg := abs_nonneg l.dY.toInt
  have positive : 0 < |l.dX.toInt| ∨ 0 < |l.dY.toInt| := by
    rw [abs_pos, abs_pos]
    cases moves with
    | inl h => exact .inl fun zero => h (Int16.toInt_inj.mp zero)
    | inr h => exact .inr fun zero => h (Int16.toInt_inj.mp zero)
  unfold lineL
  split
  next h =>
    unfold lineMajor at h
    omega
  next h =>
    unfold lineMajor at h
    omega

/-- The distance of two points of the plane of `WORD`s. -/
theorem abs_sub_le (a b : Int16)
    : |a.toInt - b.toInt| ≤ 65535 := by
  have ha := a.le_toInt
  have hb := b.le_toInt
  have ha' := a.toInt_lt
  have hb' := b.toInt_lt
  rw [abs_le]
  omega

theorem lineK_le (l : Line)
    : 0 ≤ l.lineK ∧ l.lineK ≤ 65535 := by
  unfold lineK alongX alongY
  split
  . exact ⟨abs_nonneg _, abs_sub_le _ _⟩
  . exact ⟨abs_nonneg _, abs_sub_le _ _⟩

theorem lineM_le (l : Line)
    : 0 ≤ l.lineM ∧ l.lineM ≤ 65535 := by
  unfold lineM alongX alongY
  split
  . exact ⟨abs_nonneg _, abs_sub_le _ _⟩
  . exact ⟨abs_nonneg _, abs_sub_le _ _⟩

/-- Two values of `int` as large as the deltas and distances multiply without overflow. -/
theorem mul_lt_of_le {a b : Int} (ha : 0 ≤ a) (ha' : a ≤ 32768) (hb : 0 ≤ b) (hb' : b ≤ 65535)
    : 0 ≤ a * b ∧ a * b < 2147483648 := by
  have low := Int.mul_nonneg ha hb
  have high : a * b ≤ 32768 * 65535 := Int.mul_le_mul ha' hb' hb (by omega)
  omega

/-- No term of the seed overflows an `int`. -/
theorem lineSeed_terms (l : Line)
    : (0 ≤ l.lineS * l.lineK ∧ l.lineS * l.lineK < 2147483648)
        ∧ (0 ≤ l.lineL * l.lineM ∧ l.lineL * l.lineM < 2147483648) := by
  have order := lineS_le_lineL l
  have slope := lineS_nonneg l
  have length := lineL_le l
  have distance := lineK_le l
  have aside := lineM_le l
  constructor
  . exact mul_lt_of_le slope (by omega) distance.1 distance.2
  . exact mul_lt_of_le (by omega) length aside.1 aside.2

theorem minorOffset_eq (l : Line) (i : Nat)
    : l.minorOffset i = roundDiv (i * l.lineS.toNat) l.lineL.toNat := by
  rw [roundDiv_eq_doubled, minorOffset, Nat.mul_assoc]

section Segment

variable (l : Line) (k : Nat)

theorem lineSeed_eq_roundRem (hk : l.lineK = k) (hm : l.lineM = l.minorOffset k)
    : l.lineSeed = roundRem (k * l.lineS.toNat) l.lineL.toNat := by
  have order := lineS_le_lineL l
  have slope := lineS_nonneg l
  have split := roundDiv_mul_add_roundRem (k * l.lineS.toNat) l.lineL.toNat
  rw [← minorOffset_eq] at split
  obtain ⟨s, hs⟩ := Int.eq_ofNat_of_zero_le slope
  obtain ⟨n, hn⟩ := Int.eq_ofNat_of_zero_le (Int.le_trans slope order)
  unfold lineSeed
  rw [hk, hm]
  rw [hs, hn] at split ⊢
  rw [Int.toNat_natCast, Int.toNat_natCast] at split ⊢
  have total : ((n * l.minorOffset k + roundRem (k * s) n : Nat) : Int)
      = ((k * s + n / 2 : Nat) : Int) := by
    rw [split]
  push_cast at total
  have swap : (s : Int) * k = k * s := by ring
  omega

/-- The seed is a remainder, and the truncation to a `UWORD` keeps it. -/
theorem errSeed_toNat (moves : l.dX ≠ 0 ∨ l.dY ≠ 0) (hk : l.lineK = k)
    (hm : l.lineM = l.minorOffset k)
    : l.errSeed.toNat = roundRem (k * l.lineS.toNat) l.lineL.toNat := by
  have pos := lineL_pos l moves
  have small := lineL_le l
  have bound := roundRem_lt (k * l.lineS.toNat) (d := l.lineL.toNat) (by omega)
  rw [errSeed_eq, lineSeed_eq_roundRem l k hk hm]
  rw [UInt16.ofInt, Int.emod_eq_of_lt (by omega) (by omega), Int.toNat_natCast]
  rw [UInt16.toNat_ofNat', Nat.mod_eq_of_lt (by omega)]

theorem move_add (n m a b : Int)
    : l.move n a + l.move m b = l.move (n + m) (a + b) := by
  unfold move
  split
  . rw [Prod.mk_add_mk, ← Int.mul_add, ← Int.mul_add]
  . rw [Prod.mk_add_mk, ← Int.mul_add, ← Int.mul_add]

/-- One step of the firmware from pixel `i` of the line. -/
theorem advance_eq (moves : l.dX ≠ 0 ∨ l.dY ≠ 0) (i n : Nat) (base : Int × Int) (m : Int)
    : l.advance {
          pos := base + l.move n (l.minorOffset i - m)
          e := roundRem (i * l.lineS.toNat) l.lineL.toNat }
        = {
          pos := base + l.move (n + 1 : Nat) (l.minorOffset (i + 1) - m)
          e := roundRem ((i + 1) * l.lineS.toNat) l.lineL.toNat } := by
  have pos := lineL_pos l moves
  have order := lineS_le_lineL l
  have next : (i + 1) * l.lineS.toNat = i * l.lineS.toNat + l.lineS.toNat := Nat.succ_mul _ _
  rw [minorOffset_eq l (i + 1), minorOffset_eq l i, next]
  dsimp only [advance]
  split
  next carry =>
    have step := roundDiv_add_of_carry (by omega) (by omega) carry
    rw [step.1, step.2]
    simp only [Pen.mk.injEq, and_true]
    rw [add_assoc, move_add]
    congr 2
    push_cast
    ring
  next carry =>
    have step := roundDiv_add_of_no_carry (a := i * l.lineS.toNat) (s := l.lineS.toNat)
      (d := l.lineL.toNat) (by omega) (by omega)
    rw [step.1, step.2]
    simp only [Pen.mk.injEq, and_true]
    rw [add_assoc, move_add]
    congr 2
    ring

/-- The run of the firmware, by induction over the pixels it has drawn. -/
theorem penAt_eq (moves : l.dX ≠ 0 ∨ l.dY ≠ 0) (hk : l.lineK = k) (hm : l.lineM = l.minorOffset k)
    (n : Nat)
    : l.penAt n = {
        pos := l.start + l.move n (l.minorOffset (k + n) - l.minorOffset k)
        e := roundRem ((k + n) * l.lineS.toNat) l.lineL.toNat } := by
  induction n with
  | zero =>
    unfold penAt
    rw [errSeed_toNat l k moves hk hm]
    simp [move]
  | succ n ih =>
    unfold penAt
    rw [ih, advance_eq l moves]
    rfl

/-- A segment that starts at a pixel of the line: every later pixel is the one of the line. -/
theorem penAt_pixel (moves : l.dX ≠ 0 ∨ l.dY ≠ 0) (hk : l.lineK = k)
    (hm : l.lineM = l.minorOffset k) (starts : l.start = l.pixel k) (i : Nat) (hi : k ≤ i)
    : (l.penAt (i - k)).pos = l.pixel i := by
  have behind : ((i - k : Nat) : Int) + k = i := by omega
  have whole : l.move (i - k : Nat) (l.minorOffset i - l.minorOffset k)
      + l.move k (l.minorOffset k) = l.move i (l.minorOffset i) := by
    rw [move_add, behind]
    congr 1
    ring
  rw [penAt_eq l k moves hk hm, Nat.add_sub_cancel' hi]
  dsimp only
  rw [starts, pixel, pixel, ← whole, add_assoc, add_comm (l.move k _)]

end Segment

/-- Where the walk of the card over a clipped line passes. -/
theorem errSeed_resumes (l : Line) (k : Nat) (moves : l.dX ≠ 0 ∨ l.dY ≠ 0) (hk : l.lineK = k)
    (hm : l.lineM = l.minorOffset k)
    : (0 ≤ l.lineSeed ∧ l.lineSeed < l.lineL)
        ∧ (l.errSeed.toNat : Int) = l.lineSeed
        ∧ (l.lineS * l.lineK < 2147483648 ∧ l.lineL * l.lineM < 2147483648)
        ∧ (∀ n, (l.penAt n).pos
            = l.start + l.move n (l.minorOffset (k + n) - l.minorOffset k))
        ∧ (l.start = l.pixel k → ∀ i, k ≤ i → (l.penAt (i - k)).pos = l.pixel i) := by
  have pos := lineL_pos l moves
  have bound := roundRem_lt (k * l.lineS.toNat) (d := l.lineL.toNat) (by omega)
  have seed := lineSeed_eq_roundRem l k hk hm
  have terms := lineSeed_terms l
  refine ⟨?_, ?_, ⟨terms.1.2, terms.2.2⟩, ?_, penAt_pixel l k moves hk hm⟩
  . omega
  . rw [errSeed_toNat l k moves hk hm, seed]
  . intro n
    rw [penAt_eq l k moves hk hm]

/-- A line that is clipped two columns after an origin above the bitmap. -/
def clippedLine : Line where
  x := 3
  y := -1
  length := 5
  dX := -7
  dY := 3
  linePtrn := 0xffff
  patternShift := 15
  fgPen := 1
  bgPen := 0
  drawMode := 0
  pad := 0
  xorigin := 5
  yorigin := 65534

theorem errSeed_resumes_clippedLine
    : clippedLine.start = clippedLine.pixel 2
        ∧ clippedLine.errSeed = 2
        ∧ (clippedLine.penAt 5).pos = clippedLine.pixel 7 := by
  have starts : clippedLine.start = clippedLine.pixel 2 := by decide
  have resumed := errSeed_resumes clippedLine 2 (by decide) (by decide) (by decide)
  have walked := resumed.2.2.2.2 starts 7 (by omega)
  exact ⟨starts, by decide, walked⟩

/-- The seed is what the card gets in the register of the accumulator. -/
theorem drawLine_seed (b : BoardInfo) (r : Option RenderInfo) (l : Line) (mask : UInt8)
    (format : UInt32) (value : UInt16)
    (h : DriverOp.zzwrite16 Regs.blitterUser3 value ∈ drawLine b r (some l) mask format)
    : value = l.errSeed := by
  cases r with
  | none => simp [drawLine] at h
  | some r =>
    unfold drawLine at h
    dsimp only at h
    split at h
    . simp at h
    . split at h
      . simp at h
      . simp [writeBlitterDstOffset, writeBlitterDstPitch, writeBlitterColorMode, writeBlitterRGB,
          writeBlitterX1, writeBlitterY1, writeBlitterX2, writeBlitterY2, writeBlitterUser3,
          writeBlitterX3, writeBlitterY3, Regs.blitterUser3, Regs.blitterOpDrawLine] at h
        exact h

end Line

end ZZRtg
