import ZZ9000.Vcap.Capture

/-!
This module contains the verification of `zz_capture_select_eye` and of the boundaries: an eye is a
longest circular run of clean bins, and a boundary that is not pending lies between its ends.
-/

namespace ZZVcap

section Circle

/-- The circle of the phases, cut open at the least of them. -/
theorem capturePhaseWrap_eq (phase : Int)
    : capturePhaseWrap phase = (phase + 896) % 1792 - 896 := by
  unfold capturePhaseWrap
  dsimp only [capturePhaseSteps, capturePhaseMin, capturePhaseMax]
  rw [Int.tmod_eq_emod]
  split
  . split
    . omega
    . split
      . omega
      . omega
  . split
    . split
      . omega
      . omega
    . split
      . omega
      . omega

theorem capturePhaseValid_wrap (phase : Int)
    : capturePhaseValid (capturePhaseWrap phase) = true := by
  have hwrap := capturePhaseWrap_eq phase
  unfold capturePhaseValid
  rw [Bool.and_eq_true, decide_eq_true_eq, decide_eq_true_eq]
  dsimp only [capturePhaseMin, capturePhaseMax]
  omega

/-- Less than half a turn is measured as it is. -/
theorem capturePhaseDistance_add (phase : Int) (d : Nat) (hd : d ≤ 895)
    : capturePhaseDistance (capturePhaseWrap (phase + d)) (capturePhaseWrap phase) = d := by
  unfold capturePhaseDistance
  rw [capturePhaseWrap_eq, capturePhaseWrap_eq, capturePhaseWrap_eq]
  omega

theorem capturePhaseDistance_sub (phase : Int) (d : Nat) (hd : d ≤ 895)
    : capturePhaseDistance (capturePhaseWrap phase) (capturePhaseWrap (phase + d)) = d := by
  unfold capturePhaseDistance
  rw [capturePhaseWrap_eq, capturePhaseWrap_eq, capturePhaseWrap_eq]
  omega

end Circle

section Runs

variable (clean : Nat → Bool)

/-- A run of clean bins on the circle that cannot be made longer. -/
structure CircularRun (start length : Nat) : Prop where
  start_lt : start < captureBins
  pos : 0 < length
  inside : ∀ k < length, clean ((start + k) % captureBins) = true
  before : clean ((start + captureBins - 1) % captureBins) = false
  after : clean ((start + length) % captureBins) = false

/-- The phase in the middle of a run. -/
def runCentre (start length : Nat) : Int :=
  capturePhaseWrap (capturePhaseMin
    + (start * captureBinSteps + (length - 1) * captureBinSteps / 2 : Nat))

/-- A run of the length and the middle is no better than the eye. -/
def NoBetter (entryPhase : Int) (eye : CaptureEye) (start length : Nat) : Prop :=
  length < eye.bins ∨ length = eye.bins
    ∧ (capturePhaseDistance eye.phase entryPhase
        < capturePhaseDistance (runCentre start length) entryPhase
      ∨ capturePhaseDistance eye.phase entryPhase
          = capturePhaseDistance (runCentre start length) entryPhase
        ∧ eye.startBin ≤ start)

/-- A longest run. Among those it is the nearest to the entry phase, and the first of the nearest. -/
structure BestRun (entryPhase : Int) (eye : CaptureEye) : Prop where
  run : CircularRun clean eye.startBin eye.bins
  long : captureMinEye ≤ eye.bins
  phase : eye.phase = runCentre eye.startBin eye.bins
  best : ∀ start length, CircularRun clean start length → NoBetter entryPhase eye start length

variable {clean}

theorem CircularRun.first {start length : Nat} (h : CircularRun clean start length)
    : clean start = true := by
  have hfirst := h.inside 0 h.pos
  rw [Nat.add_zero, Nat.mod_eq_of_lt h.start_lt] at hfirst
  exact hfirst

variable (clean)

theorem cleanLength_le (bin n : Nat) : cleanLength clean bin n ≤ n := by
  induction n generalizing bin with
  | zero => exact Nat.le_refl 0
  | succ n ih =>
    unfold cleanLength
    split
    . exact Nat.succ_le_succ (ih (bin + 1))
    . exact Nat.zero_le _

theorem clean_of_lt_cleanLength (bin n k : Nat) (hk : k < cleanLength clean bin n)
    : clean ((bin + k) % captureBins) = true := by
  induction n generalizing bin k with
  | zero => exact absurd hk (Nat.not_lt_zero k)
  | succ n ih =>
    unfold cleanLength at hk
    split at hk
    . next hfirst =>
      cases k with
      | zero => exact hfirst
      | succ k =>
        have hnext := ih (bin + 1) k (Nat.lt_of_succ_lt_succ hk)
        rw [Nat.add_assoc, Nat.add_comm 1 k] at hnext
        exact hnext
    . exact absurd hk (Nat.not_lt_zero k)

theorem not_clean_cleanLength (bin n : Nat) (hn : cleanLength clean bin n < n)
    : clean ((bin + cleanLength clean bin n) % captureBins) = false := by
  induction n generalizing bin with
  | zero => exact absurd hn (Nat.not_lt_zero _)
  | succ n ih =>
    by_cases hfirst : clean (bin % captureBins) = true
    . have heq : cleanLength clean bin (n + 1) = cleanLength clean (bin + 1) n + 1 := by
        rw [cleanLength, if_pos hfirst]
      rw [heq] at hn
      have hnext := ih (bin + 1) (Nat.lt_of_succ_lt_succ hn)
      rw [Nat.add_assoc, Nat.add_comm 1] at hnext
      rw [heq]
      exact hnext
    . have heq : cleanLength clean bin (n + 1) = 0 := by
        rw [cleanLength, if_neg hfirst]
      rw [heq, Nat.add_zero]
      exact Bool.eq_false_iff.mpr hfirst

variable {clean}

/-- A run is as long as the search finds it. -/
theorem CircularRun.length_eq {start length : Nat} (h : CircularRun clean start length)
    : cleanLength clean start captureBins = length := by
  have hbins : captureBins = 64 := rfl
  have hle := cleanLength_le clean start captureBins
  have hlength : length < captureBins := by
    -- a run around the whole circle would reach the bin before it
    by_contra hlong
    have hlast := h.inside (captureBins - 1) (by omega)
    have hbefore := h.before
    have hsame : start + captureBins - 1 = start + (captureBins - 1) := by omega
    rw [hsame, hlast] at hbefore
    contradiction
  cases Nat.lt_trichotomy (cleanLength clean start captureBins) length with
  | inl hless =>
    have hend := not_clean_cleanLength clean start captureBins (by omega)
    rw [h.inside _ hless] at hend
    contradiction
  | inr h' =>
    cases h' with
    | inl heq => exact heq
    | inr hmore =>
      have hinside := clean_of_lt_cleanLength clean start captureBins length hmore
      rw [h.after] at hinside
      contradiction

/-- A clean bin after one that is not begins a run. -/
theorem circularRun_cleanLength {start : Nat} (hstart : start < captureBins)
    (hfirst : clean start = true)
    (hbefore : clean ((start + captureBins - 1) % captureBins) = false)
    : CircularRun clean start (cleanLength clean start captureBins) := by
  have hbins : captureBins = 64 := rfl
  have hle := cleanLength_le clean start captureBins
  have hpos : 0 < cleanLength clean start captureBins := by
    by_contra hzero
    have hend := not_clean_cleanLength clean start captureBins (by omega)
    have heq : cleanLength clean start captureBins = 0 := by omega
    rw [heq, Nat.add_zero, Nat.mod_eq_of_lt hstart, hfirst] at hend
    contradiction
  have hlt : cleanLength clean start captureBins < captureBins := by
    by_contra hwhole
    have hlast := clean_of_lt_cleanLength clean start captureBins (captureBins - 1) (by omega)
    have hsame : start + captureBins - 1 = start + (captureBins - 1) := by omega
    rw [hsame, hlast] at hbefore
    contradiction
  constructor
  . exact hstart
  . exact hpos
  . exact clean_of_lt_cleanLength clean start captureBins
  . exact hbefore
  . exact not_clean_cleanLength clean start captureBins hlt

end Runs

section Select

variable {clean : Nat → Bool} {entryPhase : Int}

/-- What the search for the eye has found among the runs that begin before the bin `n`. -/
structure BestBefore (clean : Nat → Bool) (entryPhase : Int) (n : Nat) (best : Option CaptureEye)
    : Prop where
  found : ∀ eye, best = some eye →
    CircularRun clean eye.startBin eye.bins ∧ captureMinEye ≤ eye.bins
      ∧ eye.phase = runCentre eye.startBin eye.bins ∧ eye.startBin < n ∧ eye.fullCircle = false
      ∧ ∀ start < n, ∀ length, CircularRun clean start length →
        NoBetter entryPhase eye start length
  none : best = none → ∀ start < n, ∀ length, CircularRun clean start length →
    length < captureMinEye

theorem noBetter_self (eye : CaptureEye) (hphase : eye.phase = runCentre eye.startBin eye.bins)
    : NoBetter entryPhase eye eye.startBin eye.bins := by
  right
  refine ⟨rfl, .inr ⟨?_, Nat.le_refl _⟩⟩
  rw [← hphase]

/-- A better eye is better than all that the other one was better than. -/
theorem noBetter_trans {eye other : CaptureEye} {start length : Nat}
    (h : NoBetter entryPhase other start length)
    (hmore : other.bins < eye.bins ∨ other.bins = eye.bins
      ∧ capturePhaseDistance eye.phase entryPhase < capturePhaseDistance other.phase entryPhase)
    : NoBetter entryPhase eye start length := by
  unfold NoBetter at h ⊢
  cases h with
  | inl hless => omega
  | inr hsame =>
    obtain ⟨hlength, hnear⟩ := hsame
    cases hnear with
    | inl hnearer => omega
    | inr htie =>
      have htie := htie.1
      omega

/-- What is kept stays the best if the run that begins at the next bin is no better. -/
theorem bestBefore_keep {n : Nat} {best : Option CaptureEye} (h : BestBefore clean entryPhase n best)
    (hrun : ∀ length, CircularRun clean n length →
      (∀ eye, best = some eye → NoBetter entryPhase eye n length)
        ∧ (best = none → length < captureMinEye))
    : BestBefore clean entryPhase (n + 1) best := by
  constructor
  . intro eye heye
    obtain ⟨hcircular, hlong, hphase, hstart, hfull, hbest⟩ := h.found eye heye
    refine ⟨hcircular, hlong, hphase, Nat.lt_succ_of_lt hstart, hfull, ?_⟩
    intro start hlt length hother
    cases Nat.lt_or_eq_of_le (Nat.le_of_lt_succ hlt) with
    | inl hold => exact hbest start hold length hother
    | inr hnew =>
      rw [hnew] at hother ⊢
      exact (hrun length hother).1 eye heye
  . intro hnone start hlt length hother
    cases Nat.lt_or_eq_of_le (Nat.le_of_lt_succ hlt) with
    | inl hold => exact h.none hnone start hold length hother
    | inr hnew =>
      rw [hnew] at hother
      exact (hrun length hother).2 hnone

/-- The run that begins at the next bin, if it is better than all before it. -/
theorem bestBefore_eyeAt {n : Nat}
    (hcircular : CircularRun clean n (cleanLength clean n captureBins))
    (hlong : ¬(captureEyeAt clean n).bins < captureMinEye)
    (hbest : ∀ start < n, ∀ length, CircularRun clean start length →
      NoBetter entryPhase (captureEyeAt clean n) start length)
    : BestBefore clean entryPhase (n + 1) (some (captureEyeAt clean n)) := by
  constructor
  . intro eye heye
    rw [Option.some.injEq] at heye
    rw [← heye]
    refine ⟨hcircular, Nat.le_of_not_lt hlong, rfl, Nat.lt_succ_self n, rfl, ?_⟩
    intro start hlt length hother
    cases Nat.lt_or_eq_of_le (Nat.le_of_lt_succ hlt) with
    | inl hold => exact hbest start hold length hother
    | inr hsame =>
      rw [hsame] at hother ⊢
      rw [← hother.length_eq]
      exact noBetter_self _ rfl
  . intro hnone
    contradiction

/-- One more bin: the run that begins there, if there is one, is compared with the best so far. -/
theorem bestBefore_better {n : Nat} {best : Option CaptureEye} (hn : n < captureBins)
    (h : BestBefore clean entryPhase n best)
    : BestBefore clean entryPhase (n + 1) (captureBetterEye clean entryPhase best n) := by
  unfold captureBetterEye
  split
  . next hno =>
    -- no run begins here
    apply bestBefore_keep h
    intro length hrun
    rw [Bool.or_eq_true, Bool.not_eq_true', hrun.first, hrun.before] at hno
    cases hno with
    | inl hfirst => contradiction
    | inr hbefore => contradiction
  . next hyes =>
    rw [Bool.or_eq_true, not_or, Bool.not_eq_true', Bool.not_eq_true, Bool.not_eq_false] at hyes
    have hcircular := circularRun_cleanLength hn hyes.1 hyes.2
    have hbins : (captureEyeAt clean n).bins = cleanLength clean n captureBins := rfl
    have hstart : (captureEyeAt clean n).startBin = n := rfl
    have hphase : (captureEyeAt clean n).phase
        = runCentre (captureEyeAt clean n).startBin (captureEyeAt clean n).bins := rfl
    dsimp only
    split
    . next hshort =>
      -- too short for an eye, so no better than one, and not long enough if there is none
      apply bestBefore_keep h
      intro length hrun
      rw [hbins, hrun.length_eq] at hshort
      constructor
      . intro eye heye
        have hlong := (h.found eye heye).2.1
        left
        omega
      . intro _
        exact hshort
    . next hlong =>
      split
      . -- the first run that is long enough
        apply bestBefore_eyeAt hcircular hlong
        intro start hlt length hother
        left
        have hshort := h.none rfl start hlt length hother
        omega
      . next found =>
        obtain ⟨_, _, _, hbefore, _, hbest⟩ := h.found found rfl
        split
        . next hworse =>
          apply bestBefore_keep h
          intro length hrun
          constructor
          . intro eye heye
            rw [Option.some.injEq] at heye
            rw [← heye]
            rw [Bool.or_eq_true, Bool.and_eq_true, decide_eq_true_eq, beq_iff_eq,
              decide_eq_true_eq, hbins, hphase, hbins, hstart, hrun.length_eq] at hworse
            unfold NoBetter
            omega
          . intro hnone
            contradiction
        . next hbetter =>
          rw [Bool.or_eq_true, Bool.and_eq_true, decide_eq_true_eq, beq_iff_eq,
            decide_eq_true_eq] at hbetter
          apply bestBefore_eyeAt hcircular hlong
          intro start hlt length hother
          apply noBetter_trans (hbest start hlt length hother)
          omega

/-- The eye that is selected, if not all bins are clean. -/
theorem bestRun_captureSelectEye {eye : CaptureEye}
    (h : captureSelectEye clean entryPhase = some eye) (hfull : eye.fullCircle = false)
    : BestRun clean entryPhase eye := by
  unfold captureSelectEye at h
  split at h
  . rw [Option.some.injEq] at h
    rw [← h] at hfull
    contradiction
  . have hall (n : Nat) (hn : n ≤ captureBins) : BestBefore clean entryPhase n
        ((List.range n).foldl (captureBetterEye clean entryPhase) none) := by
      induction n with
      | zero =>
        constructor
        . intro eye heye
          contradiction
        . intro _ start hstart
          exact absurd hstart (Nat.not_lt_zero start)
      | succ n ih =>
        rw [List.range_succ, List.foldl_append, List.foldl_cons, List.foldl_nil]
        exact bestBefore_better hn (ih (Nat.le_of_succ_le hn))
    obtain ⟨hrun, hlong, hphase, _, _, hbest⟩ := (hall captureBins (Nat.le_refl _)).found eye h
    constructor
    . exact hrun
    . exact hlong
    . exact hphase
    . intro start length hother
      exact hbest start hother.start_lt length hother

end Select

end ZZVcap
