import ZZ9000.Concurrency.Deadline
import ZZ9000.ZZCapture.Measure

/-!
This module contains the verification of `measure_phase`: its deadlines, its quotas and what it
compares.
-/

namespace ZZCapture

open Concurrency ZZVcap PhaseMeasure

section Spec

variable (lace : Bool) (captures : Nat → VcapCaptureData)

def ofParity (p : Bool) (n : Nat) : Bool := parityOf lace (captures n) == p

/-- The comparisons of a parity after `n` captures: its first sample has nothing to compare with. -/
def comparisonsUpTo (p : Bool) (n : Nat) : Nat := occurrences (ofParity lace captures p) n - 1

/-- The capture of the same parity before the capture `n`. -/
def earlier (n : Nat) : Option Nat :=
  latest (ofParity lace captures (parityOf lace (captures n))) n

/-- Each of the first `n` captures with the one of its parity before it. -/
def pairsUpTo (n : Nat) : List (VcapCaptureData × VcapCaptureData) :=
  (List.range n).flatMap fun i =>
    ((earlier lace captures i).map captures).toList.map fun reference => (captures i, reference)

/-- The pixels that differ, as a counter of 32 bits has them. -/
def changedBetween (pairs : List (VcapCaptureData × VcapCaptureData)) : UInt32 :=
  (pairs.map fun c => (captureChangedPixels c.1.pixels c.2.pixels).toUInt32).sum

/-- After `n` captures a needed parity has not reached its quota. -/
def Unfinished (count n : Nat) : Prop :=
  ∃ p ∈ needed lace, comparisonsUpTo lace captures p n < count

/-- After `n` captures a needed parity without its quota has not been seen for `limit` captures. -/
def Starving (count limit n : Nat) : Prop :=
  ∃ p ∈ needed lace, comparisonsUpTo lace captures p n < count
    ∧ Overdue (ofParity lace captures p) limit n

end Spec

namespace PhaseOutcome

def succeeds (r : PhaseOutcome) : Bool :=
  match r with
  | .complete _ => true
  | _ => false

/-- The variables of the loop when it ends. -/
def last (r : PhaseOutcome) : Option PhaseMeasure :=
  match r with
  | .notApplied | .interrupted => none
  | .complete s | .starved s | .exhausted s => some s

end PhaseOutcome

/-- What `measure_phase` makes of a sequence of captures. -/
structure Measures (lace : Bool) (count : UInt32) (captures : Nat → VcapCaptureData)
    (r : PhaseOutcome) : Prop where
  quotas : ∀ s, r = .complete s → ∀ p ∈ needed lace, count ≤ s.coverage.comparisons p
  fails : r.succeeds = false
    ↔ ∃ n, Starving lace captures count.toNat (6 * (count.toNat + 1)) n
  inTime : ∀ s, r ≠ .exhausted s
  bounded : ∃ s, r.last = some s ∧ s.captured ≤ totalLimit lace count
    ∧ s.compared = pairsUpTo lace captures s.captured.toNat
    ∧ s.score.changed = changedBetween s.compared
    ∧ ∀ p, (s.coverage.comparisons p).toNat = comparisonsUpTo lace captures p s.captured.toNat

section Limits

variable {lace : Bool} {count : UInt32}

/-- The limits of the count are numbers of 32 bits. -/
def LimitsFit (lace : Bool) (count : UInt32) : Prop :=
  6 * (count.toNat + 1) * (if lace then count.toNat + 1 else 1) < 2 ^ 32

theorem toNat_succ_of_limitsFit (h : LimitsFit lace count)
    : (count + 1).toNat = count.toNat + 1 := by
  have hone : (1 : UInt32).toNat = 1 := rfl
  have hpos : 1 ≤ (if lace then count.toNat + 1 else 1) := by
    split
    . omega
    . omega
  have hle := Nat.le_mul_of_pos_right (6 * (count.toNat + 1)) hpos
  unfold LimitsFit at h
  rw [UInt32.toNat_add, hone]
  omega

theorem toNat_fieldLimit (h : LimitsFit lace count)
    : (fieldLimit count).toNat = 6 * (count.toNat + 1) := by
  have hsix : (6 : UInt32).toNat = 6 := rfl
  have hpos : 1 ≤ (if lace then count.toNat + 1 else 1) := by
    split
    . omega
    . omega
  have hle := Nat.le_mul_of_pos_right (6 * (count.toNat + 1)) hpos
  have hsucc := toNat_succ_of_limitsFit h
  unfold LimitsFit at h
  unfold fieldLimit
  rw [UInt32.toNat_mul, hsix, hsucc]
  exact Nat.mod_eq_of_lt (by omega)

theorem toNat_totalLimit (h : LimitsFit lace count)
    : (totalLimit lace count).toNat
        = 6 * (count.toNat + 1) * (if lace then count.toNat + 1 else 1) := by
  have hfield := toNat_fieldLimit h
  have hsucc := toNat_succ_of_limitsFit h
  unfold totalLimit
  rw [UInt32.toNat_mul, hfield]
  have hfactor : (if lace = true then count + 1 else 1).toNat
      = if lace then count.toNat + 1 else 1 := by
    cases lace with
    | false => rfl
    | true => exact hsucc
  rw [hfactor]
  exact Nat.mod_eq_of_lt h

end Limits

section Loop

variable {lace : Bool} {captures : Nat → VcapCaptureData}

/-- What the variables of the loop say about the first `n` captures. -/
structure Describes (lace : Bool) (captures : Nat → VcapCaptureData) (n : Nat) (s : PhaseMeasure)
    : Prop where
  captured : s.captured.toNat = n
  previous : ∀ p, s.previous p = (latest (ofParity lace captures p) n).map captures
  lastSample : ∀ p, (s.lastSample p).toNat = served (ofParity lace captures p) n
  comparisons : ∀ p, (s.coverage.comparisons p).toNat = comparisonsUpTo lace captures p n
  compared : s.compared = pairsUpTo lace captures n
  changed : s.score.changed = changedBetween s.compared

theorem describes_init (target : Int) (firstFailure : FirstFailure)
    : Describes lace captures 0 (.init target firstFailure) := by
  constructor
  . rfl
  . intro p
    rfl
  . intro p
    rfl
  . intro p
    rfl
  . rfl
  . rfl

@[simp]
theorem addSequence_comparisons (captured sequence : UInt32) (c : Coverage)
    : (c.addSequence captured sequence).comparisons = c.comparisons := by
  unfold Coverage.addSequence
  split
  . rfl
  . rfl

/-- The first sample of a parity is the one before which there is none. -/
theorem comparisonsUpTo_succ (p : Bool) (n : Nat)
    : comparisonsUpTo lace captures p (n + 1)
        = comparisonsUpTo lace captures p n
          + if parityOf lace (captures n) = p ∧ (earlier lace captures n).isSome then 1 else 0 := by
  have hpos (m : Nat) : (latest (ofParity lace captures p) m).isSome
      ↔ 0 < occurrences (ofParity lace captures p) m := by
    induction m with
    | zero => simp [latest, occurrences]
    | succ m ih =>
      rw [latest_succ, occurrences_succ]
      split
      . simp
      . rw [ih, Nat.add_zero]
  unfold comparisonsUpTo
  rw [occurrences_succ]
  by_cases hp : parityOf lace (captures n) = p
  . have hthis : ofParity lace captures p n = true := beq_iff_eq.mpr hp
    unfold earlier
    rw [if_pos hthis, hp]
    by_cases hbefore : 0 < occurrences (ofParity lace captures p) n
    . rw [if_pos ⟨rfl, (hpos n).mpr hbefore⟩]
      omega
    . rw [if_neg (fun h => hbefore ((hpos n).mp h.2))]
      omega
  . have hother : ¬ofParity lace captures p n = true := fun h => hp (beq_iff_eq.mp h)
    rw [if_neg hother, if_neg (fun h => hp h.1)]
    omega

theorem comparisonsUpTo_le (p : Bool) (n : Nat) : comparisonsUpTo lace captures p n ≤ n := by
  have hle := occurrences_le (ofParity lace captures p) n
  unfold comparisonsUpTo
  omega

theorem pairsUpTo_succ (n : Nat)
    : pairsUpTo lace captures (n + 1)
        = pairsUpTo lace captures n
          ++ ((earlier lace captures n).map captures).toList.map fun r => (captures n, r) := by
  unfold pairsUpTo
  rw [List.range_succ, List.flatMap_append, List.flatMap_singleton]

/-- What a capture leaves with its parity. -/
theorem update_parityOf {α : Type} (f : Bool → α) (x : α) (n : Nat) (p : Bool)
    : Function.update f (parityOf lace (captures n)) x p
        = if ofParity lace captures p n then x else f p := by
  by_cases hp : parityOf lace (captures n) = p
  . have hthis : ofParity lace captures p n = true := beq_iff_eq.mpr hp
    rw [if_pos hthis, ← hp, Function.update_self]
  . have hother : ¬ofParity lace captures p n = true := fun h => hp (beq_iff_eq.mp h)
    rw [if_neg hother, Function.update_of_ne (fun h => hp h.symm)]

/-- One more capture. -/
theorem describes_scoreCapture {n : Nat} {s : PhaseMeasure} (h : Describes lace captures n s)
    (hn : n + 1 < 2 ^ 32)
    : Describes lace captures (n + 1)
        (s.scoreCapture (parityOf lace (captures n)) (captures n)) := by
  have hone : (1 : UInt32).toNat = 1 := rfl
  have hcaptured : (s.captured + 1).toNat = n + 1 := by
    rw [UInt32.toNat_add, h.captured, hone]
    omega
  have hprevious := h.previous (parityOf lace (captures n))
  unfold scoreCapture
  constructor
  . exact hcaptured
  . intro p
    refine (update_parityOf s.previous _ n p).trans ?_
    rw [latest_succ]
    split
    . rfl
    . exact h.previous p
  . intro p
    refine (congrArg UInt32.toNat (update_parityOf s.lastSample _ n p)).trans ?_
    rw [served_succ]
    split
    . exact hcaptured
    . exact h.lastSample p
  . intro p
    have hle : comparisonsUpTo lace captures p n ≤ n := comparisonsUpTo_le p n
    have hsome : (s.previous (parityOf lace (captures n))).isSome
        = (earlier lace captures n).isSome := by
      rw [hprevious, Option.isSome_map]
      rfl
    rw [comparisonsUpTo_succ, ← h.comparisons p]
    show ((Coverage.addSample _ _ _).comparisons p).toNat = _
    unfold Coverage.addSample
    dsimp only
    rw [hsome, addSequence_comparisons]
    by_cases hfound : (earlier lace captures n).isSome
    . rw [if_pos hfound]
      by_cases hp : parityOf lace (captures n) = p
      . rw [if_pos ⟨hp, hfound⟩, hp, Function.update_self, UInt32.toNat_add, hone]
        have hcount := h.comparisons p
        omega
      . rw [if_neg (fun h => hp h.1), Function.update_of_ne (fun h => hp h.symm)]
        rfl
    . rw [if_neg hfound, if_neg (fun h => hfound h.2)]
      rfl
  . show s.compared ++ _ = _
    rw [pairsUpTo_succ, h.compared, hprevious]
    rfl
  . show s.score.changed + changedFrom _ _ = changedBetween (s.compared ++ _)
    unfold changedBetween
    rw [List.map_append, List.sum_append, h.changed]
    congr 1
    cases s.previous (parityOf lace (captures n)) with
    | none => rfl
    | some reference => simp [changedFrom]

theorem describes_keepCadence {n : Nat} {s : PhaseMeasure} (h : Describes lace captures n s)
    (count : UInt32) (parity : Bool)
    : Describes lace captures n (s.keepCadence lace count parity) := by
  unfold keepCadence
  split
  . constructor
    . exact h.captured
    . exact h.previous
    . exact h.lastSample
    . exact h.comparisons
    . exact h.compared
    . exact h.changed
  . constructor
    . exact h.captured
    . exact h.previous
    . exact h.lastSample
    . exact h.comparisons
    . exact h.compared
    . exact h.changed

variable {count : UInt32} {n : Nat} {s : PhaseMeasure}

/-- The test of the quotas. -/
theorem quotasReached_iff
    : s.quotasReached lace count = true ↔ ∀ p ∈ needed lace, count ≤ s.coverage.comparisons p := by
  unfold quotasReached needed
  cases lace with
  | false => simp
  | true => simp

theorem not_unfinished_of_quotasReached (h : Describes lace captures n s)
    (hquotas : s.quotasReached lace count = true)
    : ¬Unfinished lace captures count.toNat n := by
  intro hunfinished
  obtain ⟨p, hp, hless⟩ := hunfinished
  have hle := UInt32.le_iff_toNat_le.mp (quotasReached_iff.mp hquotas p hp)
  rw [h.comparisons p] at hle
  omega

theorem unfinished_of_not_quotasReached (h : Describes lace captures n s)
    (hquotas : ¬s.quotasReached lace count = true)
    : Unfinished lace captures count.toNat n := by
  rw [quotasReached_iff] at hquotas
  push Not at hquotas
  obtain ⟨p, hp, hless⟩ := hquotas
  rw [UInt32.le_iff_toNat_le, h.comparisons p] at hless
  exact ⟨p, hp, Nat.lt_of_not_le hless⟩

/-- The test of the deadlines. -/
theorem fieldMissing_iff (h : Describes lace captures n s) (hfit : LimitsFit lace count)
    : s.fieldMissing lace count = true
        ↔ Starving lace captures count.toNat (6 * (count.toNat + 1)) n := by
  unfold fieldMissing Starving
  rw [List.any_eq_true]
  apply exists_congr
  intro p
  apply and_congr_right
  intro _
  have hserved : served (ofParity lace captures p) n ≤ n := served_le n
  have hwait : (s.captured - s.lastSample p).toNat
      = n - served (ofParity lace captures p) n := by
    rw [UInt32.toNat_sub_of_le, h.captured, h.lastSample]
    rw [UInt32.le_iff_toNat_le, h.captured, h.lastSample]
    exact hserved
  rw [overdue_iff, ← hwait, ← toNat_fieldLimit hfit, ← h.comparisons p]
  rw [Bool.and_eq_true, decide_eq_true_eq, decide_eq_true_eq, UInt32.lt_iff_toNat_lt]
  rw [ge_iff_le, UInt32.le_iff_toNat_le]

end Loop

section Deadlines

variable {lace : Bool} {captures : Nat → VcapCaptureData} {count : Nat}

theorem comparisonsUpTo_mono (p : Bool) {m n : Nat} (h : m ≤ n)
    : comparisonsUpTo lace captures p m ≤ comparisonsUpTo lace captures p n := by
  have hmono := occurrences_mono (ofParity lace captures p) h
  unfold comparisonsUpTo
  omega

/-- Nothing starves after all quotas are reached. -/
theorem not_starving_of_not_unfinished {limit m n : Nat} (hmn : m ≤ n)
    (h : ¬Unfinished lace captures count m)
    : ¬Starving lace captures count limit n := by
  intro hstarving
  obtain ⟨p, hp, hless, _⟩ := hstarving
  have hmono : comparisonsUpTo lace captures p m ≤ comparisonsUpTo lace captures p n :=
    comparisonsUpTo_mono p hmn
  exact h ⟨p, hp, by omega⟩

/-- Without interlace every capture is a sample. -/
theorem occurrences_of_progressive (n : Nat)
    : occurrences (ofParity false captures false) n = n := by
  induction n with
  | zero => rfl
  | succ n ih =>
    rw [occurrences_succ, ih]
    rfl

/-- As long as nothing starves, the global limit is not reached before the quotas. -/
theorem lt_total_of_unfinished {n : Nat} (h : Unfinished lace captures count n)
    (hstarving : ∀ m ≤ n, ¬Starving lace captures count (6 * (count + 1)) m)
    : n < 6 * (count + 1) * (if lace then count + 1 else 1) := by
  obtain ⟨p, hp, hless⟩ := h
  cases lace with
  | false =>
    -- the only parity that is needed arrives with every capture
    rw [needed, if_neg (by decide), List.mem_singleton] at hp
    unfold comparisonsUpTo at hless
    rw [hp, occurrences_of_progressive] at hless
    rw [if_neg (by decide)]
    omega
  | true =>
    have hdue : ∀ m ≤ n, ¬Overdue (ofParity true captures p) (6 * (count + 1)) m := by
      intro m hm hoverdue
      have hmono : comparisonsUpTo true captures p m ≤ comparisonsUpTo true captures p n :=
        comparisonsUpTo_mono p hm
      exact hstarving m hm ⟨p, hp, by omega, hoverdue⟩
    have hlt := lt_of_not_overdue n hdue
    -- a parity without its quota has put its deadline off `count` times at most
    have hsamples : occurrences (ofParity true captures p) n + 1 ≤ count + 1 := by
      unfold comparisonsUpTo at hless
      omega
    rw [if_pos rfl]
    calc
      n < (occurrences (ofParity true captures p) n + 1) * (6 * (count + 1)) := hlt
      _ ≤ (count + 1) * (6 * (count + 1)) := Nat.mul_le_mul_right _ hsamples
      _ = 6 * (count + 1) * (count + 1) := Nat.mul_comm _ _

end Deadlines

section Run

variable {lace : Bool} {captures : Nat → VcapCaptureData} {count : UInt32}

theorem bounded_of_describes {n : Nat} {s : PhaseMeasure} (h : Describes lace captures n s)
    (hfit : LimitsFit lace count)
    (hn : n ≤ 6 * (count.toNat + 1) * (if lace then count.toNat + 1 else 1))
    : s.captured ≤ totalLimit lace count
      ∧ s.compared = pairsUpTo lace captures s.captured.toNat
      ∧ s.score.changed = changedBetween s.compared
      ∧ ∀ p, (s.coverage.comparisons p).toNat
        = comparisonsUpTo lace captures p s.captured.toNat := by
  rw [UInt32.le_iff_toNat_le, toNat_totalLimit hfit, h.captured]
  exact ⟨hn, h.compared, h.changed, h.comparisons⟩

theorem measures_measureCaptures (hfit : LimitsFit lace count) (fuel n : Nat) (s : PhaseMeasure)
    (h : Describes lace captures n s)
    (hfuel : n + fuel = 6 * (count.toNat + 1) * (if lace then count.toNat + 1 else 1))
    (hunfinished : n = 0 ∨ Unfinished lace captures count.toNat n)
    (hstarving : ∀ m ≤ n, ¬Starving lace captures count.toNat (6 * (count.toNat + 1)) m)
    : Measures lace count captures
        (measureCaptures lace count (fun n => some (captures n)) fuel s) := by
  induction fuel generalizing n s with
  | zero =>
    -- by then a quota is reached or a deadline has passed
    exfalso
    cases hunfinished with
    | inl hzero =>
      have hpos : 1 ≤ (if lace then count.toNat + 1 else 1) := by
        split
        . omega
        . omega
      have hle := Nat.le_mul_of_pos_right (6 * (count.toNat + 1)) hpos
      omega
    | inr hunfinished =>
      have hlt := lt_total_of_unfinished hunfinished hstarving
      omega
  | succ fuel ih =>
    have hnext := describes_scoreCapture h (by unfold LimitsFit at hfit; omega)
    have hbounded := bounded_of_describes hnext hfit (by omega)
    unfold measureCaptures
    rw [h.captured]
    dsimp only
    split
    . next hquotas =>
      have hfinished := not_unfinished_of_quotasReached hnext hquotas
      constructor
      . intro s' heq
        rw [PhaseOutcome.complete.injEq] at heq
        rw [← heq]
        exact quotasReached_iff.mp hquotas
      . constructor
        . intro hfail
          contradiction
        . -- nothing starved before, and nothing can any more
          intro hstarve
          obtain ⟨m, hm⟩ := hstarve
          by_cases hle : m ≤ n
          . exact absurd hm (hstarving m hle)
          . exact absurd hm (not_starving_of_not_unfinished (by omega) hfinished)
      . intro s' heq
        contradiction
      . exact ⟨_, rfl, hbounded⟩
    . next hquotas =>
      have hunfinished := unfinished_of_not_quotasReached hnext hquotas
      split
      . next hmissing =>
        constructor
        . intro s' heq
          contradiction
        . constructor
          . intro _
            exact ⟨n + 1, (fieldMissing_iff hnext hfit).mp hmissing⟩
          . intro _
            rfl
        . intro s' heq
          contradiction
        . exact ⟨_, rfl, hbounded⟩
      . next hmissing =>
        apply ih (n + 1)
        . exact describes_keepCadence hnext count _
        . omega
        . exact .inr hunfinished
        . intro m hm
          cases Nat.lt_or_eq_of_le hm with
          | inl hold => exact hstarving m (Nat.le_of_lt_succ hold)
          | inr hnew =>
            rw [hnew, ← fieldMissing_iff hnext hfit]
            exact hmissing

/--
With limits of 32 bits the measurement succeeds with enough comparisons of each needed parity, or
fails because one of them without its quota has not been seen within its deadline.
-/
theorem measures_measurePhase (target : Int) (lace : Bool) (count : UInt32)
    (firstFailure : FirstFailure) (captures : Nat → VcapCaptureData)
    (hfit : LimitsFit lace count)
    : Measures lace count captures
        (measurePhase target lace count firstFailure true true fun n => some (captures n)) := by
  unfold measurePhase
  dsimp only
  rw [if_neg (by decide), if_neg (by decide), toNat_totalLimit hfit]
  apply measures_measureCaptures hfit _ 0
  . exact describes_init target _
  . rw [Nat.zero_add]
  . exact .inl rfl
  . intro m hm hstarving
    obtain ⟨_, _, _, hoverdue⟩ := hstarving
    have helapsed := hoverdue.elapsed
    omega

/-- Both counts of ZZCapture have limits of 32 bits. -/
theorem limitsFit_comparisons (lace : Bool)
    : LimitsFit lace sweepComparisons ∧ LimitsFit lace retestComparisons := by
  cases lace with
  | false => exact ⟨by unfold LimitsFit; decide, by unfold LimitsFit; decide⟩
  | true => exact ⟨by unfold LimitsFit; decide, by unfold LimitsFit; decide⟩

/-- Captures whose parity alternates. -/
def alternating (n : Nat) : VcapCaptureData where
  status := if n % 2 = 0 then 0 else captureSnapshotParity
  geometry := 0
  pixels := []
  metadata := []

theorem parityOf_alternating (n : Nat) : parityOf true (alternating n) = (n % 2 == 1) := by
  unfold parityOf alternating
  by_cases heven : n % 2 = 0
  . rw [if_pos heven, heven]
    rfl
  . have hodd : n % 2 = 1 := by omega
    rw [if_neg heven, hodd]
    rfl

theorem not_starving_alternating (count limit n : Nat) (hlimit : 2 ≤ limit)
    : ¬Starving true alternating count limit n := by
  intro hstarving
  obtain ⟨p, _, _, hoverdue⟩ := hstarving
  have helapsed := hoverdue.elapsed
  have hlast := hoverdue.missing (n - 1) (by omega) (by omega)
  have hbefore := hoverdue.missing (n - 2) (by omega) (by omega)
  unfold ofParity at hlast hbefore
  rw [parityOf_alternating] at hlast hbefore
  by_cases heven : n % 2 = 0
  . have h1 : (n - 1) % 2 = 1 := by omega
    have h2 : (n - 2) % 2 = 0 := by omega
    rw [h1] at hlast
    rw [h2] at hbefore
    cases p with
    | false => contradiction
    | true => contradiction
  . have h1 : (n - 1) % 2 = 0 := by omega
    have h2 : (n - 2) % 2 = 1 := by omega
    rw [h1] at hlast
    rw [h2] at hbefore
    cases p with
    | false => contradiction
    | true => contradiction

theorem measures_measurePhase_sweep
    : LimitsFit true sweepComparisons
      ∧ Measures true sweepComparisons alternating
        (measurePhase 0 true sweepComparisons ⟨false, 0, none⟩ true true
          fun n => some (alternating n)) :=
  ⟨(limitsFit_comparisons true).1,
    measures_measurePhase 0 true sweepComparisons _ alternating (limitsFit_comparisons true).1⟩

/-- With 65535 comparisons the limit of the captures is 0: it fails though no parity is missing. -/
theorem measurePhase_limit_wraps
    : ¬Measures true 65535 alternating
      (measurePhase 0 true 65535 ⟨false, 0, none⟩ true true fun n => some (alternating n)) := by
  intro h
  have hlimit : (totalLimit true 65535).toNat = 0 := by
    decide
  unfold measurePhase at h
  dsimp only at h
  rw [hlimit] at h
  obtain ⟨n, hstarving⟩ := h.fails.mp rfl
  exact not_starving_alternating _ _ n (by omega) hstarving

end Run

end ZZCapture
