import ZZ9000.Numerics.BitCount
import ZZ9000.Vcap.Capture

/-!
This module contains `zz_capture_analyze_row` and its verification: the votes of the pixels find what
a search over all origins finds.
-/

namespace ZZVcap

open Numerics

/-- `struct zz_capture_row_analysis` -/
structure RowAnalysis where
  /-- -1 if several offsets are equally good. -/
  origin : Int
  ties : Nat
  residualPixels : Nat
  residualBits : Nat
  bitMask : UInt32
  deriving DecidableEq, Repr

/-- The pen with the red of a pixel: 13 is the inverse of 197 modulo 256. -/
def patternPen (pixel : UInt32) : UInt32 := (((pixel >>> 16) - 101) * 13) &&& 255

/-- A pixel with a colour of the pattern votes for its origin. -/
def vote (pixels : Nat → UInt32) (votes : Nat → UInt16) (x : Nat) : Nat → UInt16 :=
  let pen := patternPen (pixels x)
  if pixels x = capturePatternRgb pen.toNat then
    let origin := ((pen - x.toUInt32) &&& 255).toNat
    Function.update votes origin (votes origin + 1)
  else
    votes

def rowVotes (pixels : Nat → UInt32) : Nat → UInt16 :=
  (List.range captureColumns).foldl (vote pixels) fun _ => 0

structure BestVote where
  best : Nat
  origin : Nat
  ties : Nat
  deriving DecidableEq, Repr

def betterVote (votes : Nat → UInt16) (b : BestVote) (x : Nat) : BestVote :=
  if (votes x).toNat > b.best then
    { best := (votes x).toNat, origin := x, ties := 1 }
  else if (votes x).toNat = b.best then
    { b with ties := b.ties + 1 }
  else
    b

def bestVote (votes : Nat → UInt16) : BestVote :=
  (List.range captureColumns).foldl (betterVote votes) { best := 0, origin := 0, ties := 0 }

/-- `for (; bits; bits &= bits - 1) ++residual_bits`. Each turn clears a bit, so that 32 turns are
enough. -/
def countBits (fuel : Nat) (bits : UInt32) (count : Nat) : Nat :=
  match fuel with
  | 0 => count
  | fuel + 1 =>
    if bits = 0 then count else countBits fuel (bits &&& (bits - 1)) (count + 1)

def residue (pixels : Nat → UInt32) (origin x : Nat) : UInt32 :=
  pixels x ^^^ capturePatternRgb (origin + x)

def addResidue (pixels : Nat → UInt32) (origin : Nat) (r : RowAnalysis) (x : Nat) : RowAnalysis :=
  let bits := residue pixels origin x
  {
    r with
    bitMask := r.bitMask ||| bits
    residualBits := countBits 32 bits r.residualBits
  }

/-- `zz_capture_analyze_row` -/
def captureAnalyzeRow (pixels : Nat → UInt32) : RowAnalysis :=
  let b := bestVote (rowVotes pixels)
  let result :=
    {
      origin := -1, ties := b.ties, residualPixels := captureColumns - b.best
      residualBits := 0, bitMask := 0
    }
  if b.ties ≠ 1 then
    result
  else
    (List.range captureColumns).foldl (addResidue pixels b.origin)
      { result with origin := b.origin }

/-- The pixels that are not those of the pattern from an origin on. -/
def mismatches (pixels : Nat → UInt32) (origin : Nat) : Nat :=
  (List.range captureColumns).countP fun x => pixels x != capturePatternRgb (origin + x)

/-- The result of a search over all origins. -/
structure Searched (pixels : Nat → UInt32) (r : RowAnalysis) : Prop where
  attained : ∃ o < captureColumns, mismatches pixels o = r.residualPixels
  least : ∀ o < captureColumns, r.residualPixels ≤ mismatches pixels o
  ties : r.ties
    = (List.range captureColumns).countP fun o => mismatches pixels o == r.residualPixels
  unique : ∀ o < captureColumns,
    (∀ o' < captureColumns, mismatches pixels o' = r.residualPixels → o' = o)
      → r.origin = o
        ∧ r.residualBits
          = ((List.range captureColumns).map fun x => bitCount 32 (residue pixels o x).toNat).sum
        ∧ ∀ i, r.bitMask.toNat.testBit i = true
          ↔ ∃ x < captureColumns, (residue pixels o x).toNat.testBit i = true

section Pattern

theorem capturePatternRgb_mod (pen : Nat)
    : capturePatternRgb (pen % 256) = capturePatternRgb pen := by
  have hred : (pen % 256 * 197 + 101) % 256 = (pen * 197 + 101) % 256 := by
    omega
  unfold capturePatternRgb
  rw [hred]

/-- The red of a colour of the pattern tells its pen. -/
theorem patternPen_capturePatternRgb (pen : Nat) (hpen : pen < 256)
    : (patternPen (capturePatternRgb pen)).toNat = pen := by
  have hall : (List.range 256).all
      (fun pen => (patternPen (capturePatternRgb pen)).toNat == pen) = true := by
    decide +kernel
  have hthis := List.all_eq_true.mp hall pen (List.mem_range.mpr hpen)
  exact beq_iff_eq.mp hthis

theorem patternPen_lt (pixel : UInt32)
    : (patternPen pixel).toNat < 256 := by
  unfold patternPen
  rw [UInt32.toNat_and]
  exact Nat.and_lt_two_pow _ (by decide : (255 : UInt32).toNat < 2 ^ 8)

/-- The vote of a pixel with the colour of a pen. -/
theorem toNat_voteOrigin {pen : UInt32} (hpen : pen.toNat < 256) {x : Nat} (hx : x < 256)
    : ((pen - x.toUInt32) &&& 255).toNat = (pen.toNat + 256 - x) % 256 := by
  have hmask : (255 : UInt32).toNat = 2 ^ 8 - 1 := rfl
  have hword : x.toUInt32.toNat = x := by
    simp
    omega
  rw [UInt32.toNat_and, hmask, Nat.and_two_pow_sub_one_eq_mod, UInt32.toNat_sub, hword]
  omega

/-- A pixel votes for the origin from which the pattern has its colour there, if there is one. -/
theorem vote_iff (pixel : UInt32) {x o : Nat} (hx : x < 256) (ho : o < 256)
    : pixel = capturePatternRgb (o + x)
        ↔ pixel = capturePatternRgb (patternPen pixel).toNat
          ∧ ((patternPen pixel - x.toUInt32) &&& 255).toNat = o := by
  have hpen := patternPen_lt pixel
  rw [toNat_voteOrigin hpen hx]
  constructor
  . intro hpixel
    have hred : (patternPen pixel).toNat = (o + x) % 256 := by
      rw [hpixel, ← capturePatternRgb_mod]
      apply patternPen_capturePatternRgb
      omega
    rw [hred, capturePatternRgb_mod]
    refine ⟨hpixel, ?_⟩
    omega
  . intro hvote
    have hplace : (o + x) % 256 = (patternPen pixel).toNat := by
      omega
    rw [← capturePatternRgb_mod, hplace]
    exact hvote.1

end Pattern

section Votes

variable (pixels : Nat → UInt32)

/-- The pixels before the column `n` that are those of the pattern from an origin on. -/
def matchesUpTo (o n : Nat) : Nat :=
  (List.range n).countP fun x => pixels x == capturePatternRgb (o + x)

theorem matchesUpTo_succ (o n : Nat)
    : matchesUpTo pixels o (n + 1)
        = matchesUpTo pixels o n + if pixels n = capturePatternRgb (o + n) then 1 else 0 := by
  unfold matchesUpTo
  rw [List.range_succ, List.countP_append, List.countP_cons]
  simp

theorem matchesUpTo_le (o n : Nat)
    : matchesUpTo pixels o n ≤ n := by
  unfold matchesUpTo
  have hle := @List.countP_le_length _ (fun x => pixels x == capturePatternRgb (o + x))
    (List.range n)
  rw [List.length_range] at hle
  exact hle

theorem vote_apply (votes : Nat → UInt16) {x o : Nat} (hx : x < 256) (ho : o < 256)
    : vote pixels votes x o
        = if pixels x = capturePatternRgb (o + x) then votes o + 1 else votes o := by
  have hvote := vote_iff (pixels x) hx ho
  unfold vote
  dsimp only
  by_cases hpixel : pixels x = capturePatternRgb (o + x)
  . have hboth := hvote.mp hpixel
    rw [if_pos hboth.1, if_pos hpixel, hboth.2, Function.update_self]
  . rw [if_neg hpixel]
    split
    . next hcolour =>
      apply Function.update_of_ne
      intro hsame
      exact hpixel (hvote.mpr ⟨hcolour, hsame.symm⟩)
    . rfl

/-- The votes after a part of the row. They are too few for their counters to wrap. -/
theorem toNat_votes {o : Nat} (ho : o < 256) (n : Nat) (hn : n ≤ 256)
    : ((List.range n).foldl (vote pixels) (fun _ => 0) o).toNat = matchesUpTo pixels o n := by
  induction n with
  | zero => rfl
  | succ n ih =>
    have ih := ih (by omega)
    have hle := matchesUpTo_le pixels o n
    rw [List.range_succ, List.foldl_append, List.foldl_cons, List.foldl_nil, matchesUpTo_succ]
    rw [vote_apply pixels _ (by omega) ho]
    split
    . rw [UInt16.toNat_add, ih]
      have hone : (1 : UInt16).toNat = 1 := rfl
      omega
    . exact ih

theorem matchesUpTo_add_mismatches (o : Nat)
    : matchesUpTo pixels o captureColumns + mismatches pixels o = captureColumns := by
  unfold matchesUpTo mismatches
  have hsplit := List.length_eq_countP_add_countP
    (fun x => pixels x == capturePatternRgb (o + x)) (l := List.range captureColumns)
  rw [List.length_range] at hsplit
  refine Eq.trans ?_ hsplit.symm
  congr 1
  apply List.countP_congr
  intro x _
  simp

end Votes

section Best

variable (votes : Nat → UInt16)

/-- What the search for the most votes knows after the origins below `n`. -/
structure BestOf (n : Nat) (b : BestVote) : Prop where
  least : ∀ o < n, (votes o).toNat ≤ b.best
  attained : b.best ≠ 0 → b.origin < n ∧ (votes b.origin).toNat = b.best
  ties : b.ties = (List.range n).countP fun o => (votes o).toNat == b.best

/-- One more origin, if what is known of the best vote covers it. -/
theorem le_best_succ {n best : Nat} (hleast : ∀ o < n, (votes o).toNat ≤ best)
    (hle : (votes n).toNat ≤ best)
    : ∀ o < n + 1, (votes o).toNat ≤ best := by
  intro o ho
  cases Nat.lt_or_eq_of_le (Nat.le_of_lt_succ ho) with
  | inl hold => exact hleast o hold
  | inr hnew =>
    rw [hnew]
    exact hle

theorem ties_succ (n best : Nat)
    : ((List.range (n + 1)).countP fun o => (votes o).toNat == best)
        = ((List.range n).countP fun o => (votes o).toNat == best)
          + if (votes n).toNat = best then 1 else 0 := by
  rw [List.range_succ, List.countP_append, List.countP_cons]
  simp

theorem bestOf_better {n : Nat} {b : BestVote} (h : BestOf votes n b)
    : BestOf votes (n + 1) (betterVote votes b n) := by
  unfold betterVote
  split
  . next hmore =>
    constructor
    . apply le_best_succ
      . intro o ho
        exact Nat.le_of_lt (Nat.lt_of_le_of_lt (h.least o ho) hmore)
      . exact Nat.le_refl _
    . intro _
      exact ⟨Nat.lt_succ_self n, rfl⟩
    . -- no origin before it has as many votes
      rw [ties_succ]
      have hnone : ((List.range n).countP fun o => (votes o).toNat == (votes n).toNat) = 0 := by
        rw [List.countP_eq_zero]
        intro o ho
        have hle := h.least o (List.mem_range.mp ho)
        rw [beq_iff_eq]
        omega
      rw [hnone]
      simp
  . next hless =>
    have hattained (hbest : b.best ≠ 0)
        : b.origin < n + 1 ∧ (votes b.origin).toNat = b.best := by
      have hfound := h.attained hbest
      exact ⟨Nat.lt_succ_of_lt hfound.1, hfound.2⟩
    split
    . next hsame =>
      constructor
      . exact le_best_succ votes h.least (Nat.le_of_eq hsame)
      . exact hattained
      . rw [ties_succ, if_pos hsame, ← h.ties]
    . next hother =>
      constructor
      . exact le_best_succ votes h.least (by omega)
      . exact hattained
      . rw [ties_succ, if_neg hother, ← h.ties, Nat.add_zero]

theorem bestOf_bestVote : BestOf votes captureColumns (bestVote votes) := by
  have hall : ∀ n, BestOf votes n
      ((List.range n).foldl (betterVote votes) { best := 0, origin := 0, ties := 0 }) := by
    intro n
    induction n with
    | zero =>
      constructor
      . intro o ho
        omega
      . intro hbest
        exact absurd rfl hbest
      . rfl
    | succ n ih =>
      rw [List.range_succ, List.foldl_append, List.foldl_cons, List.foldl_nil]
      exact bestOf_better votes ih
  exact hall captureColumns

end Best

section Residue

variable (pixels : Nat → UInt32) (o : Nat)

/-- The loop counts the bits that are set. -/
theorem countBits_eq (fuel : Nat) (bits : UInt32) (count : Nat)
    (hfuel : bitCount 32 bits.toNat ≤ fuel)
    : countBits fuel bits count = count + bitCount 32 bits.toNat := by
  induction fuel generalizing bits count with
  | zero =>
    unfold countBits
    omega
  | succ fuel ih =>
    unfold countBits
    split
    . next hzero =>
      rw [hzero]
      exact (bitCount_zero_right 32).symm ▸ rfl
    . next hbits =>
      have hpos : bits.toNat ≠ 0 := fun h => hbits (UInt32.toNat_inj.mp h)
      have hsub : (bits - 1).toNat = bits.toNat - 1 := by
        apply UInt32.toNat_sub_of_le
        rw [UInt32.le_iff_toNat_le]
        have hone : (1 : UInt32).toNat = 1 := rfl
        omega
      have hclear := bitCount_and_sub_one hpos bits.toNat_lt
      have hnext : (bits &&& (bits - 1)).toNat = bits.toNat &&& (bits.toNat - 1) := by
        rw [UInt32.toNat_and, hsub]
      rw [ih _ _ (by rw [hnext]; omega), hnext]
      omega

theorem addResidue_residualBits (r : RowAnalysis) (x : Nat)
    : (addResidue pixels o r x).residualBits
        = r.residualBits + bitCount 32 (residue pixels o x).toNat :=
  countBits_eq 32 _ _ (bitCount_le 32 _)

/-- What the last loop of `zz_capture_analyze_row` leaves and what it adds up. -/
structure Added (start r : RowAnalysis) (n : Nat) : Prop where
  origin : r.origin = start.origin
  ties : r.ties = start.ties
  residualPixels : r.residualPixels = start.residualPixels
  residualBits : r.residualBits = start.residualBits
    + ((List.range n).map fun x => bitCount 32 (residue pixels o x).toNat).sum
  bitMask : ∀ i, r.bitMask.toNat.testBit i = true ↔ start.bitMask.toNat.testBit i = true
    ∨ ∃ x < n, (residue pixels o x).toNat.testBit i = true

theorem added_foldl (start : RowAnalysis) (n : Nat)
    : Added pixels o start ((List.range n).foldl (addResidue pixels o) start) n := by
  induction n with
  | zero =>
    constructor
    . rfl
    . rfl
    . rfl
    . simp
    . simp
  | succ n ih =>
    rw [List.range_succ, List.foldl_append, List.foldl_cons, List.foldl_nil]
    constructor
    . exact ih.origin
    . exact ih.ties
    . exact ih.residualPixels
    . rw [addResidue_residualBits, ih.residualBits, List.range_succ, List.map_append]
      rw [List.sum_append]
      simp [Nat.add_assoc]
    . intro i
      show (_ ||| residue pixels o n).toNat.testBit i = true ↔ _
      rw [UInt32.toNat_or, Nat.testBit_or, Bool.or_eq_true, ih.bitMask, or_assoc]
      apply or_congr_right
      constructor
      . intro h
        cases h with
        | inl hold =>
          obtain ⟨x, hx, hbit⟩ := hold
          exact ⟨x, Nat.lt_succ_of_lt hx, hbit⟩
        | inr hnew => exact ⟨n, Nat.lt_succ_self n, hnew⟩
      . intro h
        obtain ⟨x, hx, hbit⟩ := h
        cases Nat.lt_or_eq_of_le (Nat.le_of_lt_succ hx) with
        | inl hold => exact .inl ⟨x, hold, hbit⟩
        | inr hnew =>
          rw [hnew] at hbit
          exact .inr hbit

end Residue

section Search

variable (pixels : Nat → UInt32)

/-- The votes and the mismatches of an origin make up the row. -/
theorem toNat_rowVotes {o : Nat} (ho : o < captureColumns)
    : (rowVotes pixels o).toNat + mismatches pixels o = captureColumns := by
  have hvotes := toNat_votes pixels ho captureColumns (Nat.le_refl _)
  have hsum := matchesUpTo_add_mismatches pixels o
  unfold rowVotes
  rw [hvotes]
  exact hsum

/-- What the search for the most votes finds, in terms of the mismatches. -/
theorem mismatches_eq_iff {b : BestVote} (hbest : BestOf (rowVotes pixels) captureColumns b)
    {o : Nat} (ho : o < captureColumns)
    : mismatches pixels o = captureColumns - b.best ↔ (rowVotes pixels o).toNat = b.best := by
  have hsum := toNat_rowVotes pixels ho
  have hleast := hbest.least o ho
  by_cases hzero : b.best = 0
  . omega
  . have hfound := hbest.attained hzero
    have hsum' := toNat_rowVotes pixels hfound.1
    omega

theorem exists_mismatches_eq {b : BestVote} (hbest : BestOf (rowVotes pixels) captureColumns b)
    : ∃ o < captureColumns, mismatches pixels o = captureColumns - b.best := by
  by_cases hzero : b.best = 0
  . -- no pixel has a colour of the pattern, and every origin is as good
    have hpos : 0 < captureColumns := by decide
    refine ⟨0, hpos, (mismatches_eq_iff pixels hbest hpos).mpr ?_⟩
    have hleast := hbest.least 0 hpos
    omega
  . have hfound := hbest.attained hzero
    exact ⟨b.origin, hfound.1, (mismatches_eq_iff pixels hbest hfound.1).mpr hfound.2⟩

theorem ties_eq {b : BestVote} (hbest : BestOf (rowVotes pixels) captureColumns b)
    : b.ties
        = (List.range captureColumns).countP fun o =>
          mismatches pixels o == captureColumns - b.best := by
  rw [hbest.ties]
  apply List.countP_congr
  intro o ho
  rw [beq_iff_eq, beq_iff_eq, mismatches_eq_iff pixels hbest (List.mem_range.mp ho)]

/-- If one origin is the best, it is the one that the search has kept, without a tie. -/
theorem unique_origin {b : BestVote} (hbest : BestOf (rowVotes pixels) captureColumns b) {o : Nat}
    (ho : o < captureColumns)
    (honly : ∀ o' < captureColumns, mismatches pixels o' = captureColumns - b.best → o' = o)
    : b.origin = o ∧ b.ties = 1 := by
  have hattains : mismatches pixels o = captureColumns - b.best := by
    obtain ⟨o', ho', hmin⟩ := exists_mismatches_eq pixels hbest
    rw [← honly o' ho' hmin]
    exact hmin
  constructor
  . by_cases hzero : b.best = 0
    . -- then two origins would be as good
      have hall (o' : Nat) (ho' : o' < captureColumns) : o' = o := by
        apply honly o' ho'
        apply (mismatches_eq_iff pixels hbest ho').mpr
        have hleast := hbest.least o' ho'
        omega
      have h0 := hall 0 (by decide)
      have h1 := hall 1 (by decide)
      omega
    . have hfound := hbest.attained hzero
      exact honly _ hfound.1 ((mismatches_eq_iff pixels hbest hfound.1).mpr hfound.2)
  . rw [ties_eq pixels hbest]
    have hone := List.count_eq_one_of_mem List.nodup_range (List.mem_range.mpr ho)
    rw [← hone]
    apply List.countP_congr
    intro o' ho'
    rw [beq_iff_eq, beq_iff_eq]
    constructor
    . exact honly o' (List.mem_range.mp ho')
    . intro hsame
      rw [hsame]
      exact hattains

/-- The row analysis by votes is the one of a search over all origins. -/
theorem captureAnalyzeRow_searched : Searched pixels (captureAnalyzeRow pixels) := by
  have hbest := bestOf_bestVote (rowVotes pixels)
  unfold captureAnalyzeRow
  generalize bestVote (rowVotes pixels) = b at hbest ⊢
  have hleast (o : Nat) (ho : o < captureColumns)
      : captureColumns - b.best ≤ mismatches pixels o := by
    have hsum := toNat_rowVotes pixels ho
    have hvote := hbest.least o ho
    omega
  dsimp only
  split
  . next htied =>
    constructor
    . exact exists_mismatches_eq pixels hbest
    . exact hleast
    . exact ties_eq pixels hbest
    . intro o ho honly
      have hfound := unique_origin pixels hbest ho honly
      exact absurd hfound.2 htied
  . next huntied =>
    have hadded := added_foldl pixels b.origin
      {
        origin := b.origin, ties := b.ties, residualPixels := captureColumns - b.best
        residualBits := 0, bitMask := 0
      } captureColumns
    constructor
    . rw [hadded.residualPixels]
      exact exists_mismatches_eq pixels hbest
    . rw [hadded.residualPixels]
      exact hleast
    . rw [hadded.residualPixels, hadded.ties]
      exact ties_eq pixels hbest
    . rw [hadded.residualPixels]
      intro o ho honly
      have hfound := (unique_origin pixels hbest ho honly).1
      rw [hfound] at hadded ⊢
      refine ⟨hadded.origin, ?_, ?_⟩
      . rw [hadded.residualBits]
        exact Nat.zero_add _
      . intro i
        rw [hadded.bitMask]
        simp

end Search

end ZZVcap
