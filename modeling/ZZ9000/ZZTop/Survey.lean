import ZZ9000.Vcap.EyeLemmas
import ZZ9000.ZZTop.Sampling

/-!
This module contains the verification of the phase that a sampling calibration retests. The bins and
the boundaries are measured by any measurement, and `calibrate` is the run with the one of the card.
-/

namespace ZZTop

open ZZVcap

/-- What is known of the eye when its phase is retested. -/
structure Survey where
  clean : List Bool
  eye : CaptureEye
  lower : CaptureBoundary
  upper : CaptureBoundary
  deriving DecidableEq, Repr

namespace Survey

def isClean (s : Survey) (bin : Nat) : Bool := s.clean.getD bin false

/-- The ends of the refined interval, as offsets from the ends of the circle that is cut open. -/
def lo (s : Survey) : Int := s.lower.origin + s.lower.good
def hi (s : Survey) : Int := s.upper.origin + s.upper.good
def margin (s : Survey) : Int := (s.hi - s.lo).tdiv 2
def phase (s : Survey) : Int := eyePhase s.lower s.upper

theorem phase_eq (s : Survey) : s.phase = capturePhaseWrap (s.lo + s.margin) := by
  rfl

end Survey

section Program

variable {m : Type → Type} [Monad m] (measure : Int → m Bool) (reject : m CaptureEye)

def sweepWith (i n : Nat) : m (List Bool) :=
  match n with
  | 0 => return []
  | n + 1 => do
    let clean ← measure (binPhase i)
    let rest ← sweepWith (i + 1) n
    return clean :: rest

def refineWith (n : Nat) (edge : CaptureBoundary) : m CaptureBoundary :=
  match n with
  | 0 => return edge
  | n + 1 => do
    if edge.pending then
      let clean ← measure edge.next
      refineWith n (edge.record clean)
    else
      return edge

def selectWith (entryPhase : Int) (clean : List Bool) : m CaptureEye :=
  match captureSelectEye (fun i => clean.getD i false) entryPhase with
  | none => reject
  | some eye => if eye.fullCircle then reject else return eye

/-- The calibration from the first bin to the retest. -/
def surveyWith (entryPhase : Int) : m Survey := do
  let clean ← sweepWith measure 0 captureBins
  let eye ← selectWith reject entryPhase clean
  let lower ← refineWith measure captureBinSteps (lowerEdge eye)
  let upper ← refineWith measure captureBinSteps (upperEdge eye)
  return { clean, eye, lower, upper }

end Program

section Calibrate

variable (ntsc lace : Bool)

/-- The verdict of `vcap_sampling_measure` on a phase. -/
def measureBin (phase : Int) : ExceptT SamplingExit Sampling Bool := do
  let s ← measureOr phase ntsc lace sweepComparisons
  return s.clean

theorem sweep_eq (i n : Nat) : sweep ntsc lace i n = sweepWith (measureBin ntsc lace) i n := by
  induction n generalizing i with
  | zero => rfl
  | succ n ih =>
    unfold sweep sweepWith measureBin
    rw [ih]
    simp only [bind_assoc, pure_bind]
    rfl

theorem refine_eq (n : Nat) (edge : CaptureBoundary)
    : refine ntsc lace n edge = refineWith (measureBin ntsc lace) n edge := by
  induction n generalizing edge with
  | zero => rfl
  | succ n ih =>
    unfold refine refineWith
    split
    . simp only [ih, measureBin, bind_assoc, pure_bind]
    . rfl

theorem calibrate_eq (entryPhase : Int) (turns : Nat)
    : calibrate ntsc lace entryPhase turns
        = (do
          checkEntry entryPhase
          vcapSamplingOpenScreen
          let s ← surveyWith (measureBin ntsc lace) (fail true noEye) entryPhase
          retest s.phase ntsc lace
          awaitAccept turns
          ExceptT.lift (Concurrency.Coroutine.modify (selectPhase s.phase s.clean))) := by
  unfold calibrate surveyWith
  simp only [sweep_eq, refine_eq, bind_assoc, pure_bind]
  rfl

end Calibrate

/-- The phases that were measured, each with its verdict. -/
abbrev Verdicts := List (Int × Bool)

abbrev Surveying := StateT Verdicts Option

section Oracle

variable (oracle : Verdicts → Int → Option Bool)

/-- Any verdict may depend on what was measured before. There is none if the measurement fails. -/
def askVerdict (phase : Int) : Surveying Bool := fun log =>
  match oracle log phase with
  | none => none
  | some clean => some (clean, log ++ [(phase, clean)])

def giveUp : Surveying α := fun _ => none

/-- A calibration that has reached its retest with these measurements. -/
def Reaches (entryPhase : Int) (s : Survey) (log : Verdicts) : Prop :=
  (surveyWith (askVerdict oracle) giveUp entryPhase).run [] = some (s, log)

end Oracle

/-- What is known when a phase is retested. -/
structure Surveyed (entryPhase : Int) (s : Survey) (log : Verdicts) : Prop where
  bins : ∀ bin < captureBins, (binPhase bin, s.isClean bin) ∈ log
  best : BestRun s.isClean entryPhase s.eye
  ended : s.lower.pending = false ∧ s.upper.pending = false
  finite : log.length ≤ captureBins + 5 + 5
  loClean : (capturePhaseWrap s.lo, true) ∈ log
  hiClean : (capturePhaseWrap s.hi, true) ∈ log
  loDirty : (capturePhaseWrap (s.lo - 1), false) ∈ log
  hiDirty : (capturePhaseWrap (s.hi + 1), false) ∈ log
  arc : s.lo ≤ s.hi ∧ s.hi < s.lo + capturePhaseSteps
  valid : capturePhaseValid s.phase = true
  inside : ∃ place, s.phase = capturePhaseWrap place ∧ s.lo ≤ place ∧ place ≤ s.hi
  toLo : (capturePhaseDistance s.phase (capturePhaseWrap s.lo) : Int) = s.margin
  toHi : (capturePhaseDistance s.phase (capturePhaseWrap s.hi) : Int) = s.margin
    ∨ (capturePhaseDistance s.phase (capturePhaseWrap s.hi) : Int) = s.margin + 1

section Bisection

/-- Both ends of the boundary were measured. -/
structure EndsMeasured (log : Verdicts) (edge : CaptureBoundary) : Prop where
  good : (capturePhaseWrap (edge.origin + edge.good), true) ∈ log
  bad : (capturePhaseWrap (edge.origin + edge.bad), false) ∈ log

/-- The boundary has come closer from where it began. -/
def Within (start edge : CaptureBoundary) : Prop :=
  edge.origin = start.origin
    ∧ (start.bad ≤ edge.bad ∧ edge.bad < edge.good ∧ edge.good ≤ start.good
      ∨ start.good ≤ edge.good ∧ edge.good < edge.bad ∧ edge.bad ≤ start.bad)

def gap (edge : CaptureBoundary) : Nat :=
  if edge.good > edge.bad then edge.good - edge.bad else edge.bad - edge.good

theorem pending_iff (edge : CaptureBoundary) : edge.pending = true ↔ 1 < gap edge := by
  unfold CaptureBoundary.pending gap
  split
  . rw [decide_eq_true_eq]
  . rw [decide_eq_true_eq]

variable {edge start : CaptureBoundary}

theorem record_true (edge : CaptureBoundary)
    : edge.record true = { edge with good := (edge.good + edge.bad) / 2 } := by
  rfl

theorem record_false (edge : CaptureBoundary)
    : edge.record false = { edge with bad := (edge.good + edge.bad) / 2 } := by
  rfl

theorem within_record (h : Within start edge) (hpending : edge.pending = true) (clean : Bool)
    : Within start (edge.record clean) := by
  rw [pending_iff] at hpending
  unfold gap at hpending
  obtain ⟨horigin, hends⟩ := h
  cases clean with
  | false =>
    rw [record_false]
    refine ⟨horigin, ?_⟩
    dsimp only
    split at hpending
    . omega
    . omega
  | true =>
    rw [record_true]
    refine ⟨horigin, ?_⟩
    dsimp only
    split at hpending
    . omega
    . omega

/-- Every measurement halves the distance of the ends. -/
theorem gap_record_le (hpending : edge.pending = true) (clean : Bool)
    : gap (edge.record clean) ≤ (gap edge + 1) / 2 := by
  rw [pending_iff] at hpending
  unfold gap at hpending ⊢
  cases clean with
  | false =>
    rw [record_false]
    dsimp only
    split at hpending
    . split
      . omega
      . omega
    . split
      . omega
      . omega
  | true =>
    rw [record_true]
    dsimp only
    split at hpending
    . split
      . omega
      . omega
    . split
      . omega
      . omega

theorem endsMeasured_mono {log log' : Verdicts} (h : EndsMeasured log edge) (hlog : log <+: log')
    : EndsMeasured log' edge :=
  ⟨hlog.subset h.good, hlog.subset h.bad⟩

theorem endsMeasured_record {log : Verdicts} (h : EndsMeasured log edge) (clean : Bool)
    : EndsMeasured (log ++ [(edge.next, clean)]) (edge.record clean) := by
  have hkept := endsMeasured_mono h (List.prefix_append log [(edge.next, clean)])
  have hnew : (edge.next, clean) ∈ log ++ [(edge.next, clean)] :=
    List.mem_append_right log (List.mem_singleton_self _)
  cases clean with
  | false => exact ⟨hkept.good, hnew⟩
  | true => exact ⟨hnew, hkept.bad⟩

variable {oracle : Verdicts → Int → Option Bool}

theorem askVerdict_eq_some {log log' : Verdicts} {phase : Int} {clean : Bool}
    (h : askVerdict oracle phase log = some (clean, log'))
    : log' = log ++ [(phase, clean)] := by
  unfold askVerdict at h
  split at h
  . contradiction
  . rw [Option.some.injEq, Prod.mk.injEq] at h
    rw [← h.2, ← h.1]

/-- What a computation with verdicts does in its parts. -/
theorem bind_eq_some {c : Surveying α} {f : α → Surveying β} {log log' : Verdicts} {b : β}
    (h : (c >>= f) log = some (b, log'))
    : ∃ a mid, c log = some (a, mid) ∧ f a mid = some (b, log') := by
  have h : (c log).bind (fun r => f r.1 r.2) = some (b, log') := h
  rw [Option.bind_eq_some_iff] at h
  obtain ⟨⟨a, mid⟩, hc, hf⟩ := h
  exact ⟨a, mid, hc, hf⟩

theorem pure_eq_some {log log' : Verdicts} {a b : α}
    (h : (pure a : Surveying α) log = some (b, log'))
    : b = a ∧ log' = log := by
  have h : some (a, log) = some (b, log') := h
  rw [Option.some.injEq, Prod.mk.injEq] at h
  exact ⟨h.1.symm, h.2.symm⟩

/-- A boundary whose ends are at most `2 ^ k` apart is found with `k` measurements. -/
theorem refineWith_spec {n k : Nat} {edge' : CaptureBoundary} {log log' : Verdicts}
    (h : refineWith (askVerdict oracle) n edge log = some (edge', log'))
    (hwithin : Within start edge) (hends : EndsMeasured log edge)
    (hgap : gap edge ≤ 2 ^ k) (hk : k ≤ n)
    : Within start edge' ∧ EndsMeasured log' edge' ∧ edge'.pending = false
      ∧ log <+: log' ∧ log'.length ≤ log.length + k := by
  induction n generalizing k edge log with
  | zero =>
    obtain ⟨rfl, rfl⟩ := pure_eq_some h
    have hzero : k = 0 := Nat.le_zero.mp hk
    refine ⟨hwithin, hends, ?_, List.prefix_refl log', Nat.le_add_right _ _⟩
    rw [← Bool.not_eq_true, pending_iff]
    rw [hzero] at hgap
    omega
  | succ n ih =>
    unfold refineWith at h
    split at h
    . next hpending =>
      obtain ⟨clean, mid, hmeasure, hrest⟩ := bind_eq_some h
      have hmid := askVerdict_eq_some hmeasure
      subst hmid
      have hmore := (pending_iff edge).mp hpending
      cases k with
      | zero => omega
      | succ k =>
        have hhalf := gap_record_le hpending clean
        have hpow : 2 ^ (k + 1) = 2 * 2 ^ k := Nat.pow_succ'
        have hrec := ih hrest (within_record hwithin hpending clean)
          (endsMeasured_record hends clean) (by omega) (Nat.le_of_succ_le_succ hk)
        obtain ⟨hwithin', hends', hended, hpre, hlength⟩ := hrec
        refine ⟨hwithin', hends', hended, ?_, ?_⟩
        . exact List.IsPrefix.trans (List.prefix_append log _) hpre
        . rw [List.length_append, List.length_singleton] at hlength
          omega
    . next hended =>
      obtain ⟨rfl, rfl⟩ := pure_eq_some h
      refine ⟨hwithin, hends, ?_, List.prefix_refl log', Nat.le_add_right _ _⟩
      rw [Bool.not_eq_true] at hended
      exact hended

end Bisection

section Sweep

variable {oracle : Verdicts → Int → Option Bool}

theorem sweepWith_spec {i n : Nat} {clean : List Bool} {log log' : Verdicts}
    (h : sweepWith (askVerdict oracle) i n log = some (clean, log'))
    : log <+: log' ∧ log'.length = log.length + n
      ∧ ∀ k < n, (binPhase (i + k), clean.getD k false) ∈ log' := by
  induction n generalizing i clean log with
  | zero =>
    obtain ⟨_, rfl⟩ := pure_eq_some h
    refine ⟨List.prefix_refl log', rfl, ?_⟩
    intro k hk
    exact absurd hk (Nat.not_lt_zero k)
  | succ n ih =>
    unfold sweepWith at h
    obtain ⟨first, mid, hmeasure, hrest⟩ := bind_eq_some h
    obtain ⟨rest, last, hsweep, hdone⟩ := bind_eq_some hrest
    obtain ⟨rfl, rfl⟩ := pure_eq_some hdone
    have hmid := askVerdict_eq_some hmeasure
    subst hmid
    obtain ⟨hpre, hlength, hbins⟩ := ih hsweep
    refine ⟨List.IsPrefix.trans (List.prefix_append log _) hpre, ?_, ?_⟩
    . rw [hlength, List.length_append, List.length_singleton]
      omega
    . intro k hk
      cases k with
      | zero =>
        apply hpre.subset
        exact List.mem_append_right log (List.mem_singleton_self _)
      | succ k =>
        have hbin := hbins k (Nat.lt_of_succ_lt_succ hk)
        rw [Nat.add_assoc, Nat.add_comm 1 k] at hbin
        exact hbin

theorem selectWith_eq_some {entryPhase : Int} {clean : List Bool} {eye : CaptureEye}
    {log log' : Verdicts} (h : selectWith giveUp entryPhase clean log = some (eye, log'))
    : captureSelectEye (fun i => clean.getD i false) entryPhase = some eye
      ∧ eye.fullCircle = false ∧ log' = log := by
  unfold selectWith at h
  cases hfound : captureSelectEye (fun i => clean.getD i false) entryPhase with
  | none =>
    rw [hfound] at h
    contradiction
  | some found =>
    rw [hfound] at h
    dsimp only at h
    by_cases hfull : found.fullCircle = true
    . rw [if_pos hfull] at h
      contradiction
    . rw [if_neg hfull] at h
      obtain ⟨rfl, rfl⟩ := pure_eq_some h
      rw [Bool.not_eq_true] at hfull
      exact ⟨rfl, hfull, rfl⟩

/-- The phases of the bins go around the circle. -/
theorem capturePhaseWrap_binPhase (bin : Nat)
    : capturePhaseWrap (binPhase bin) = binPhase (bin % captureBins) := by
  unfold binPhase
  rw [capturePhaseWrap_eq]
  dsimp only [capturePhaseMin, captureBinSteps, captureBins]
  omega

end Sweep

section Ends

variable {clean : Nat → Bool} {entryPhase : Int} {eye : CaptureEye} {log : Verdicts}

theorem BestRun_bins_lt (h : BestRun clean entryPhase eye) : eye.bins < captureBins := by
  have hbins : captureBins = 64 := rfl
  have hle := cleanLength_le clean eye.startBin captureBins
  have hlength := h.run.length_eq
  by_contra hlong
  have hlast := h.run.inside (captureBins - 1) (by omega)
  have hbefore := h.run.before
  have hsame : eye.startBin + captureBins - 1 = eye.startBin + (captureBins - 1) := by omega
  rw [hsame, hlast] at hbefore
  contradiction

/-- The bins beside the lower end of the eye were measured. -/
theorem endsMeasured_lowerEdge (h : BestRun clean entryPhase eye)
    (hbins : ∀ bin < captureBins, (binPhase bin, clean bin) ∈ log)
    : EndsMeasured log (lowerEdge eye) := by
  have hstart := h.run.start_lt
  have hpos : captureBins = 64 := rfl
  constructor
  . have hgood : (lowerEdge eye).origin + (lowerEdge eye).good = binPhase eye.startBin := by
      unfold lowerEdge
      dsimp only
      omega
    rw [hgood, capturePhaseWrap_binPhase, Nat.mod_eq_of_lt hstart, ← h.run.first]
    exact hbins eye.startBin hstart
  . have hbad : capturePhaseWrap ((lowerEdge eye).origin + (lowerEdge eye).bad)
        = binPhase ((eye.startBin + captureBins - 1) % captureBins) := by
      rw [← capturePhaseWrap_binPhase, capturePhaseWrap_eq, capturePhaseWrap_eq]
      unfold lowerEdge binPhase
      dsimp only [capturePhaseMin, captureBinSteps, captureBins]
      omega
    rw [hbad, ← h.run.before]
    exact hbins _ (Nat.mod_lt _ (by omega))

/-- The bins beside the upper end of the eye were measured. -/
theorem endsMeasured_upperEdge (h : BestRun clean entryPhase eye)
    (hbins : ∀ bin < captureBins, (binPhase bin, clean bin) ∈ log)
    : EndsMeasured log (upperEdge eye) := by
  have hpos : captureBins = 64 := rfl
  have hlength := h.run.pos
  constructor
  . have hgood : (upperEdge eye).origin + (upperEdge eye).good
        = binPhase (eye.startBin + (eye.bins - 1)) := by
      unfold upperEdge binPhase
      dsimp only [capturePhaseMin, captureBinSteps]
      omega
    rw [hgood, capturePhaseWrap_binPhase, ← h.run.inside (eye.bins - 1) (by omega)]
    exact hbins _ (Nat.mod_lt _ (by omega))
  . have hbad : (upperEdge eye).origin + (upperEdge eye).bad
        = binPhase (eye.startBin + eye.bins) := by
      unfold upperEdge binPhase
      dsimp only [capturePhaseMin, captureBinSteps]
      omega
    rw [hbad, capturePhaseWrap_binPhase, ← h.run.after]
    exact hbins _ (Nat.mod_lt _ (by omega))

end Ends

section Run

variable {oracle : Verdicts → Int → Option Bool} {entryPhase : Int}

/-- A boundary whose bisection is over. -/
structure Bisected (log : Verdicts) (start edge : CaptureBoundary) : Prop where
  within : Within start edge
  ends : EndsMeasured log edge
  ended : edge.pending = false

theorem bisected_offsets {log : Verdicts} {start edge : CaptureBoundary}
    (h : Bisected log start edge)
    : edge.good = edge.bad + 1 ∨ edge.bad = edge.good + 1 := by
  have hended := h.ended
  have hwithin := h.within.2
  rw [← Bool.not_eq_true, pending_iff] at hended
  unfold gap at hended
  split at hended
  . omega
  . omega

theorem within_lowerEdge (eye : CaptureEye) : Within (lowerEdge eye) (lowerEdge eye) := by
  refine ⟨rfl, .inl ⟨Nat.le_refl _, ?_, Nat.le_refl _⟩⟩
  exact Nat.succ_pos 27

theorem within_upperEdge (eye : CaptureEye) : Within (upperEdge eye) (upperEdge eye) := by
  refine ⟨rfl, .inr ⟨Nat.le_refl _, ?_, Nat.le_refl _⟩⟩
  exact Nat.succ_pos 27

theorem gap_edges (eye : CaptureEye) : gap (lowerEdge eye) = 28 ∧ gap (upperEdge eye) = 28 := by
  exact ⟨rfl, rfl⟩

variable {s : Survey} {log : Verdicts}

/-- The arc between the two boundaries, and the middle of it. -/
theorem surveyed_of_bisected (hbins : ∀ bin < captureBins, (binPhase bin, s.isClean bin) ∈ log)
    (hbest : BestRun s.isClean entryPhase s.eye)
    (hlower : Bisected log (lowerEdge s.eye) s.lower)
    (hupper : Bisected log (upperEdge s.eye) s.upper)
    (hfinite : log.length ≤ captureBins + 5 + 5)
    : Surveyed entryPhase s log := by
  have hpos := hbest.run.pos
  have hlt := BestRun_bins_lt hbest
  have hcount : captureBins = 64 := rfl
  have hsteps : capturePhaseSteps = 1792 := rfl
  have hoffsetsL := bisected_offsets hlower
  have hoffsetsU := bisected_offsets hupper
  obtain ⟨horiginL, hwithinL⟩ := hlower.within
  obtain ⟨horiginU, hwithinU⟩ := hupper.within
  dsimp only [lowerEdge, upperEdge, captureBinSteps] at horiginL hwithinL horiginU hwithinU
  have hlo : s.lo = s.lower.origin + s.lower.good := rfl
  have hhi : s.hi = s.upper.origin + s.upper.good := rfl
  have harc : s.lo ≤ s.hi ∧ s.hi ≤ s.lo + 1790 := by
    omega
  have hmargin : s.margin = (s.hi - s.lo) / 2 := by
    unfold Survey.margin
    exact Int.tdiv_eq_ediv_of_nonneg (by omega)
  have hphase := s.phase_eq
  constructor
  . exact hbins
  . exact hbest
  . exact ⟨hlower.ended, hupper.ended⟩
  . exact hfinite
  . exact hlower.ends.good
  . exact hupper.ends.good
  . have hbad : s.lo - 1 = s.lower.origin + s.lower.bad := by
      omega
    rw [hbad]
    exact hlower.ends.bad
  . have hbad : s.hi + 1 = s.upper.origin + s.upper.bad := by
      omega
    rw [hbad]
    exact hupper.ends.bad
  . omega
  . rw [hphase]
    exact capturePhaseValid_wrap _
  . exact ⟨s.lo + s.margin, hphase, by omega, by omega⟩
  . have hnat : ((s.margin.toNat : Nat) : Int) = s.margin := Int.toNat_of_nonneg (by omega)
    rw [hphase, ← hnat, capturePhaseDistance_add _ _ (by omega)]
  . have hnat : (((s.hi - (s.lo + s.margin)).toNat : Nat) : Int) = s.hi - (s.lo + s.margin) :=
      Int.toNat_of_nonneg (by omega)
    have hrest : s.hi = s.lo + s.margin + ((s.hi - (s.lo + s.margin)).toNat : Nat) := by
      omega
    rw [hphase, hrest, capturePhaseDistance_sub _ _ (by omega)]
    omega

theorem surveyed_of_reaches (h : Reaches oracle entryPhase s log)
    : Surveyed entryPhase s log := by
  unfold Reaches surveyWith at h
  obtain ⟨clean, log1, hsweep, h⟩ := bind_eq_some h
  obtain ⟨eye, log2, hselect, h⟩ := bind_eq_some h
  obtain ⟨lower, log3, hlower, h⟩ := bind_eq_some h
  obtain ⟨upper, log4, hupper, h⟩ := bind_eq_some h
  obtain ⟨rfl, rfl⟩ := pure_eq_some h
  obtain ⟨_, hlength1, hbins⟩ := sweepWith_spec hsweep
  simp only [Nat.zero_add] at hbins
  obtain ⟨heye, hfull, rfl⟩ := selectWith_eq_some hselect
  have hbest := bestRun_captureSelectEye heye hfull
  obtain ⟨hgapL, hgapU⟩ := gap_edges eye
  have hlow := refineWith_spec (k := 5) hlower (within_lowerEdge eye)
    (endsMeasured_lowerEdge hbest hbins) (by omega) (by decide)
  obtain ⟨hwithinL, hendsL, hendedL, hprefixL, hlengthL⟩ := hlow
  have hbins3 : ∀ bin < captureBins, (binPhase bin, clean.getD bin false) ∈ log3 :=
    fun bin hbin => hprefixL.subset (hbins bin hbin)
  have hup := refineWith_spec (k := 5) hupper (within_upperEdge eye)
    (endsMeasured_upperEdge hbest hbins3) (by omega) (by decide)
  obtain ⟨hwithinU, hendsU, hendedU, hprefixU, hlengthU⟩ := hup
  apply surveyed_of_bisected
  . exact fun bin hbin => hprefixU.subset (hbins3 bin hbin)
  . exact hbest
  . exact ⟨hwithinL, endsMeasured_mono hendsL hprefixU, hendedL⟩
  . exact ⟨hwithinU, hendsU, hendedU⟩
  . have hnil : ([] : Verdicts).length = 0 := rfl
    omega

/-- The calibration retests the phase of a survey, and every survey has found the middle of its eye. -/
theorem calibrate_surveyed
    : (∀ ntsc lace entryPhase turns, calibrate ntsc lace entryPhase turns
        = (do
          checkEntry entryPhase
          vcapSamplingOpenScreen
          let s ← surveyWith (measureBin ntsc lace) (fail true noEye) entryPhase
          retest s.phase ntsc lace
          awaitAccept turns
          ExceptT.lift (Concurrency.Coroutine.modify (selectPhase s.phase s.clean))))
      ∧ ∀ oracle entryPhase s log, Reaches oracle entryPhase s log → Surveyed entryPhase s log :=
  ⟨calibrate_eq, fun _ _ _ _ h => surveyed_of_reaches h⟩

/-- An eye around the end of the circle. -/
theorem calibrate_surveyed_wrapped
    : ∃ s log, Reaches (fun _ phase => some (phase < -700 || phase > 800)) 0 s log
      ∧ Surveyed 0 s log := by
  have hsome : ((surveyWith (askVerdict fun _ phase => some (phase < -700 || phase > 800)) giveUp
      0).run []).isSome = true := by
    decide +kernel
  obtain ⟨⟨s, log⟩, hreaches⟩ := Option.isSome_iff_exists.mp hsome
  exact ⟨s, log, hreaches, calibrate_surveyed.2 _ _ _ _ hreaches⟩

end Run

end ZZTop
