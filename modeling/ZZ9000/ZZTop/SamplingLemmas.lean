import ZZ9000.Vcap.PhaseLemmas
import ZZ9000.ZZTop.Sampling

/-!
This module contains what the sampling calibration leaves behind: which phase the card has
acknowledged last, and what was measured there.
-/

namespace ZZTop

open Concurrency ZZVcap
open Concurrency.Coroutine

abbrev samplingContract : Contract SamplingWorld Empty Empty :=
  .solo (fun _ _ => True) (fun _ _ => True)

/-- What is about the outputs only. -/
def Apart (R : SamplingWorld → Prop) : Prop :=
  ∀ w card run failure frames, R w → R { w with card, run, failure, frames }

/-- What the client keeps, except for its requests for a phase. -/
structure Quiet (P : SamplingWorld → Prop) : Prop where
  observe : ∀ w offset value, P w → P (w.observe offset value)
  write : ∀ w offset value, offset ∈ VcapIo.captureRegs →
    P w → P { w with card := w.card.write offset value }
  run : ∀ w run, P w → P { w with run }

/-- The card has acknowledged the phase last. -/
def Acked (phase : Int) (w : SamplingWorld) : Prop := w.card.acked = some phase

namespace SamplingCard

variable {card : SamplingCard}

theorem requests_observe (offset : UInt32) (value : UInt16)
    : (card.observe offset value).requests = card.requests := by
  unfold observe
  dsimp only
  split <;> rfl

theorem seen_observe (offset : UInt32) (value : UInt16)
    : (card.observe offset value).seen = Function.update card.seen offset value := by
  unfold observe
  dsimp only
  split <;> rfl

theorem acked_observe_of_ne {offset : UInt32} (value : UInt16)
    (h : offset ≠ capturePhaseStatusReg + 2)
    : (card.observe offset value).acked = card.acked := by
  unfold observe
  dsimp only
  rw [if_neg (by simp [h])]

theorem acked_observe_status {value : UInt16} {state : VcapPhaseState} {target : Int}
    (hstate : (card.observe (capturePhaseStatusReg + 2) value).phaseState = state)
    (hsettled : state.settledAt target = true)
    : (card.observe (capturePhaseStatusReg + 2) value).acked = some target := by
  have htarget : state.applied = target := by
    simp only [VcapPhaseState.settledAt, Bool.and_eq_true, beq_iff_eq] at hsettled
    exact hsettled.2
  have hsame : (card.observe (capturePhaseStatusReg + 2) value).phaseState
      = { card with seen := Function.update card.seen (capturePhaseStatusReg + 2) value :
          SamplingCard }.phaseState := by
    unfold phaseState seen32
    rw [seen_observe]
  rw [hsame] at hstate
  unfold observe
  dsimp only
  rw [if_pos]
  . simp only [hstate, htarget]
  . unfold acknowledges
    rw [hstate, htarget]
    exact ⟨rfl, hsettled⟩

theorem write_of_mem {offset : UInt32} (value : UInt16) (h : offset ∈ VcapIo.captureRegs)
    : card.write offset value = card := by
  unfold write
  unfold VcapIo.captureRegs at h
  rw [if_neg, if_neg]
  . intro hcommit
    rw [hcommit.1] at h
    revert h
    decide
  . intro htarget
    rw [htarget] at h
    revert h
    decide

end SamplingCard

theorem triple_keepRunning {P : SamplingWorld → Prop} (hrun : ∀ w run, P w → P { w with run })
    : Triple samplingContract P vcapSamplingKeepRunning (fun _ => P) := by
  unfold vcapSamplingKeepRunning
  apply triple_bind (J := fun _ => P)
  . apply triple_answer
    intro w _ hw
    exact hw
  . intro r
    apply triple_bind (J := fun _ => P)
    . apply triple_modify_solo
      intro w hw
      exact hrun w _ hw
    . intro _
      apply triple_bind (J := fun _ => P)
      . apply triple_read
        intro w hw
        exact hw
      . intro _
        apply triple_pure
        intro w hw
        exact hw

theorem triple_observe {P : SamplingWorld → Prop} {offset : UInt32}
    (h : ∀ w value, P w → P (w.observe offset value))
    : Triple samplingContract P (samplingIo.read16 offset) (fun _ => P) := by
  intro w₀ w _ hw
  unfold samplingIo
  simp only [wp_bind, wp_answer, wp_modify, wp_pure]
  intro r
  exact ⟨trivial, h w r.value hw⟩

theorem keeps_of_quiet {P : SamplingWorld → Prop} (hP : Quiet P)
    : samplingIo.Keeps samplingContract P where
  read16 offset := triple_observe fun w value => hP.observe w offset value
  delay := by
    apply triple_pure
    intro w hw
    exact hw
  keepRunning := triple_keepRunning hP.run

theorem wp_read32 {offset : UInt32} {Q : UInt32 → SamplingWorld → SamplingWorld → Prop}
    {w₀ w : SamplingWorld}
    (hQ : ∀ high low, Q (vcapWord high low) w₀
      ((w.observe offset high).observe (offset + 2) low))
    : (samplingIo.read32 offset).wp samplingContract Q w₀ w := by
  unfold VcapIo.read32 samplingIo
  simp only [wp_bind, wp_answer, wp_modify, wp_pure]
  intro high low
  exact hQ high.value low.value

/-- The state that the client makes of its reads is the one of the card. -/
theorem phaseState_observe {card : SamplingCard} (cap cap' clock clock' status status' : UInt16)
    : ((((((card.observe captureCapReg cap).observe (captureCapReg + 2) cap').observe
        captureClockStatusReg clock).observe (captureClockStatusReg + 2) clock').observe
        capturePhaseStatusReg status).observe (capturePhaseStatusReg + 2) status').phaseState
        = vcapPhaseState (vcapPhaseDomain (vcapWord cap cap')) (vcapWord clock clock')
            (vcapWord status status') := by
  unfold SamplingCard.phaseState SamplingCard.seen32
  simp only [SamplingCard.seen_observe]
  have hne : captureCapReg ≠ captureCapReg + 2 ∧ captureCapReg ≠ captureClockStatusReg
    ∧ captureCapReg ≠ captureClockStatusReg + 2 ∧ captureCapReg ≠ capturePhaseStatusReg
    ∧ captureCapReg ≠ capturePhaseStatusReg + 2 ∧ captureCapReg + 2 ≠ captureClockStatusReg
    ∧ captureCapReg + 2 ≠ captureClockStatusReg + 2 ∧ captureCapReg + 2 ≠ capturePhaseStatusReg
    ∧ captureCapReg + 2 ≠ capturePhaseStatusReg + 2
    ∧ captureClockStatusReg ≠ captureClockStatusReg + 2
    ∧ captureClockStatusReg ≠ capturePhaseStatusReg
    ∧ captureClockStatusReg ≠ capturePhaseStatusReg + 2
    ∧ captureClockStatusReg + 2 ≠ capturePhaseStatusReg
    ∧ captureClockStatusReg + 2 ≠ capturePhaseStatusReg + 2
    ∧ capturePhaseStatusReg ≠ capturePhaseStatusReg + 2 := by
    decide
  simp [Function.update_of_ne, hne]

theorem acknowledges_of_quiet {P : SamplingWorld → Prop} (hP : Quiet P)
    : samplingIo.Acknowledges samplingContract P Acked where
  toKeeps := keeps_of_quiet hP
  phaseRead := by
    intro w₀ w _ hw
    unfold VcapIo.phaseRead
    rw [wp_bind]
    apply wp_read32
    intro cap cap'
    dsimp only
    split
    . refine ⟨trivial, hP.observe _ _ _ (hP.observe _ _ _ hw), ?_⟩
      simp
    . rw [wp_bind]
      apply wp_read32
      intro clock clock'
      rw [wp_bind]
      apply wp_read32
      intro status status'
      refine ⟨trivial, ?_, ?_⟩
      . exact hP.observe _ _ _ (hP.observe _ _ _ (hP.observe _ _ _ (hP.observe _ _ _
          (hP.observe _ _ _ (hP.observe _ _ _ hw)))))
      . intro target hsettled
        exact SamplingCard.acked_observe_status (phaseState_observe _ _ _ _ _ _) hsettled

section Measure

variable {P : SamplingWorld → Prop}

/-- A capture that succeeds has seen its phase acknowledged. -/
theorem exit_vcapSamplingCapture (hP : Quiet P) (phase : Int)
    : ExitTriple samplingContract P (vcapSamplingCapture phase)
        (fun _ w => P w ∧ Acked phase w) (fun _ => P) := by
  unfold vcapSamplingCapture
  apply exit_bind (J := fun _ => P)
  . apply exit_lift
    apply triple_read
    intro w hw
    exact hw
  . intro w
    apply exit_bind (J := fun _ w => P w ∧ Acked phase w)
    . apply triple_mono (K := P) (VcapIo.exit_capture (acknowledges_of_quiet hP) _ _ _)
      . intro w hw
        exact hw
      . intro r w hr
        cases r with
        | ok data => exact ⟨hr.1, hr.2 rfl⟩
        | error result => exact hr
      . intro offset hoffset value
        apply triple_modify_solo
        intro w hw
        exact hP.write w offset value hoffset hw
      . intro offset hoffset
        apply triple_observe
        intro w value hw
        refine ⟨hP.observe w offset value hw.1, ?_⟩
        intro hrequire
        have hne : offset ≠ capturePhaseStatusReg + 2 := by
          intro heq
          rw [heq] at hoffset
          revert hoffset
          decide
        exact (SamplingCard.acked_observe_of_ne value hne).trans (hw.2 hrequire)
    . intro data
      apply exit_bind (J := fun _ w => P w ∧ Acked phase w)
      . apply exit_lift
        apply triple_modify_solo
        intro w hw
        exact ⟨hP.run w _ hw.1, hw.2⟩
      . intro _
        apply exit_pure
        intro w hw
        exact hw

theorem exit_keepRunning (hP : Quiet P)
    : ExitTriple (ε := VcapResult) samplingContract P (ExceptT.lift vcapSamplingKeepRunning)
        (fun _ => P) (fun _ => P) := by
  apply exit_lift
  exact triple_keepRunning hP.run

end Measure

def ofParity (parity : Nat) (frames : List SamplingFrame) : List SamplingFrame :=
  frames.filter fun frame => frame.parity = parity

/-- The first frame does not differ from the one before it. -/
def Unchanged (frame previous : SamplingFrame) : Prop :=
  captureChangedPixels frame.pixels previous.pixels = 0

namespace MeasureState

/-- The variables of the loop say what was measured in the frames. -/
structure Scores (phase : Int) (frames : List SamplingFrame) (s : MeasureState) : Prop where
  phase : ∀ frame ∈ frames, frame.phase = some phase
  wrong : s.wrong = 0 → ∀ frame ∈ frames, capturePatternErrors frame.pixels = 0
  previous : ∀ parity, s.previous parity = (ofParity parity frames).head?.map (·.pixels)
  comparisons : ∀ parity, s.comparisons parity = (ofParity parity frames).length - 1
  changed : s.changed = 0 → ∀ parity, (ofParity parity frames).IsChain Unchanged

theorem scores_init (phase : Int)
    : Scores phase [] .init where
  phase := by simp
  wrong := by simp
  previous := by simp [init, ofParity]
  comparisons := by simp [init, ofParity]
  changed := by simp [ofParity]

theorem scores_score {phase : Int} {frames : List SamplingFrame} {s : MeasureState}
    {frame : SamplingFrame} (h : Scores phase frames s) (hframe : frame.phase = some phase)
    : Scores phase (frame :: frames) (s.score frame.parity frame.pixels) where
  phase := by
    intro f hf
    rw [List.mem_cons] at hf
    cases hf with
    | inl heq => rw [heq]; exact hframe
    | inr hmem => exact h.phase f hmem
  wrong := by
    intro hwrong f hf
    have hzero : s.wrong + capturePatternErrors frame.pixels = 0 := hwrong
    rw [List.mem_cons] at hf
    cases hf with
    | inl heq =>
      rw [heq]
      omega
    | inr hmem => exact h.wrong (by omega) f hmem
  previous := by
    intro parity
    by_cases hparity : frame.parity = parity
    . rw [← hparity]
      simp [score, ofParity]
    . have := h.previous parity
      simp only [score, ofParity, Function.update_of_ne (Ne.symm hparity)]
      simp only [ofParity] at this
      rw [this, List.filter_cons_of_neg (by simpa using hparity)]
  comparisons := by
    intro parity
    have hprevious := h.previous frame.parity
    have hcount := h.comparisons
    by_cases hparity : frame.parity = parity
    . rw [← hparity]
      have hlength : (ofParity frame.parity (frame :: frames)).length
          = (ofParity frame.parity frames).length + 1 := by
        simp [ofParity]
      rw [hlength]
      unfold score
      cases hlist : ofParity frame.parity frames with
      | nil =>
        rw [hlist] at hprevious
        rw [hprevious]
        have := hcount frame.parity
        rw [hlist] at this
        simpa using this
      | cons f fs =>
        rw [hlist] at hprevious
        rw [hprevious]
        have := hcount frame.parity
        rw [hlist] at this
        simp [this]
    . have hsame : ofParity parity (frame :: frames) = ofParity parity frames := by
        simp [ofParity, hparity]
      rw [hsame, ← hcount parity]
      unfold score
      cases s.previous frame.parity with
      | none => rfl
      | some _ => exact Function.update_of_ne (Ne.symm hparity) _ _
  changed := by
    intro hchanged parity
    have hprevious := h.previous frame.parity
    by_cases hparity : frame.parity = parity
    . rw [← hparity]
      have hcons : ofParity frame.parity (frame :: frames)
          = frame :: ofParity frame.parity frames := by
        simp [ofParity]
      rw [hcons]
      unfold score at hchanged
      cases hlist : ofParity frame.parity frames with
      | nil => simp
      | cons f fs =>
        rw [hlist] at hprevious
        simp only [hprevious, List.head?_cons, Option.map_some] at hchanged
        rw [List.isChain_cons_cons]
        refine ⟨by unfold Unchanged; omega, ?_⟩
        rw [← hlist]
        exact h.changed (by omega) frame.parity
    . have hsame : ofParity parity (frame :: frames) = ofParity parity frames := by
        simp [ofParity, hparity]
      rw [hsame]
      apply h.changed
      unfold score at hchanged
      dsimp only at hchanged
      split at hchanged
      . exact hchanged
      . omega

end MeasureState

/-- The outputs, and what was measured in the frames so far. -/
def Measuring (R : SamplingWorld → Prop) (phase : Int) (s : MeasureState) (w : SamplingWorld)
    : Prop :=
  R w ∧ s.Scores phase w.frames

section Apart

variable {R : SamplingWorld → Prop} (hR : Apart R)

include hR

theorem quiet_apart
    : Quiet R where
  observe := fun w _ _ h => hR w _ w.run w.failure w.frames h
  write := fun w _ _ _ h => hR w _ w.run w.failure w.frames h
  run := fun w run h => hR w w.card run w.failure w.frames h

theorem quiet_measuring (phase : Int) (s : MeasureState)
    : Quiet (Measuring R phase s) where
  observe := fun w _ _ h => ⟨hR w _ w.run w.failure w.frames h.1, h.2⟩
  write := fun w _ _ _ h => ⟨hR w _ w.run w.failure w.frames h.1, h.2⟩
  run := fun w run h => ⟨hR w w.card run w.failure w.frames h.1, h.2⟩

theorem triple_phaseApply (phase : Int) (restoring : Bool)
    : Triple samplingContract R (samplingIo.phaseApply phase restoring)
        (VcapIo.Confirms R Acked phase) := by
  apply VcapIo.triple_phaseApply (acknowledges_of_quiet (quiet_apart hR))
  intro offset _ value
  apply triple_modify_solo
  intro w hw
  exact hR w _ w.run w.failure w.frames hw

/-- Every turn of the loop scores one frame. -/
theorem exit_measureLoop (phase : Int) (lace : Bool) (comparisons n : Nat) (s : MeasureState)
    : ExitTriple samplingContract (Measuring R phase s) (measureLoop phase lace comparisons n s)
        (fun s w => Measuring R phase s w ∧ Acked phase w ∧ s.enough lace comparisons = true)
        (fun _ => R) := by
  induction n generalizing s with
  | zero =>
    apply exit_throw
    intro w hw
    exact hw.1
  | succ n ih =>
    apply exit_bind (J := fun _ w => Measuring R phase s w ∧ Acked phase w)
    . apply triple_mono (K := Measuring R phase s)
        (exit_vcapSamplingCapture (quiet_measuring hR phase s) phase)
      . intro w hw
        exact hw
      . intro r w hr
        cases r with
        | ok data => exact hr
        | error result => exact hr.1
    . intro data
      apply exit_bind (J := fun _ w =>
        Measuring R phase (s.score (frameParity lace data.status) data.pixels) w ∧ Acked phase w)
      . apply exit_lift
        apply triple_modify_solo
        intro w hw
        refine ⟨⟨hR w w.card w.run w.failure _ hw.1.1, ?_⟩, hw.2⟩
        exact MeasureState.scores_score hw.1.2 hw.2
      intro _
      apply exit_ite
      . intro henough
        apply exit_pure
        intro w hw
        exact ⟨hw.1, hw.2, henough⟩
      . intro _
        apply exit_of_pre _ (ih _)
        intro w hw
        exact hw.1

/-- A measurement that succeeds is one of the phase that the card has acknowledged. -/
theorem exit_vcapSamplingMeasure (phase : Int) (ntsc lace : Bool) (comparisons : Nat)
    : ExitTriple samplingContract R (vcapSamplingMeasure phase ntsc lace comparisons)
        (fun s w => Measuring R phase s w ∧ Acked phase w ∧ s.enough lace comparisons = true)
        (fun _ => R) := by
  have hquiet := quiet_apart hR
  unfold vcapSamplingMeasure
  apply exit_bind (exit_keepRunning hquiet)
  intro running
  refine VcapIo.exit_refuse (fun w hw => hw) fun _ => ?_
  apply exit_bind (J := fun _ => R)
  . apply VcapIo.exit_proceed
    apply triple_mono (K := R) (triple_phaseApply hR phase false)
    . intro w hw
      exact hw
    . intro r w hr
      exact ⟨fun _ => hr.2, hr.2⟩
  . intro _
    have hcapture : ExitTriple samplingContract R (vcapSamplingCapture phase) (fun _ => R)
        (fun _ => R) := by
      apply triple_mono (K := R) (exit_vcapSamplingCapture hquiet phase)
      . intro w hw
        exact hw
      . intro r w hr
        cases r with
        | ok data => exact hr.1
        | error result => exact hr
    apply exit_bind hcapture
    intro _
    apply exit_bind hcapture
    intro data
    refine VcapIo.exit_refuse (fun w hw => hw) fun hsame => ?_
    apply exit_bind (J := fun _ => Measuring R phase .init)
    . apply exit_lift
      apply triple_modify_solo
      intro w hw
      exact ⟨hR w w.card w.run w.failure [] hw, MeasureState.scores_init phase⟩
    . intro _
      have hlace : (data.status &&& captureSnapshotLace != 0) = lace := by
        rw [Bool.or_eq_false_iff] at hsame
        simpa using hsame.1
      rw [hlace]
      exact exit_measureLoop hR phase lace comparisons _ _

end Apart

/-- The comparisons of the retest have shown that the phase is clean. -/
def Retested (phase : Int) (lace : Bool) (w : SamplingWorld) : Prop :=
  (∀ frame ∈ w.frames, frame.phase = some phase ∧ capturePatternErrors frame.pixels = 0)
    ∧ ∀ parity, parity = 0 ∨ lace = true ∧ parity = 1 →
      retestComparisons < (ofParity parity w.frames).length
        ∧ (ofParity parity w.frames).IsChain Unchanged

theorem retested_of_clean {R : SamplingWorld → Prop} {phase : Int} {lace : Bool} {s : MeasureState}
    {w : SamplingWorld} (h : Measuring R phase s w)
    (henough : s.enough lace retestComparisons = true) (hclean : s.clean = true)
    : Retested phase lace w := by
  unfold MeasureState.clean at hclean
  unfold MeasureState.enough at henough
  rw [Bool.and_eq_true, beq_iff_eq, beq_iff_eq] at hclean
  refine ⟨fun frame hframe => ⟨h.2.phase frame hframe, h.2.wrong hclean.1 frame hframe⟩, ?_⟩
  intro parity hparity
  refine ⟨?_, h.2.changed hclean.2 parity⟩
  have hcount := h.2.comparisons parity
  have hpos : 0 < retestComparisons := by decide
  simp only [Bool.and_eq_true, Bool.or_eq_true, Bool.not_eq_true', decide_eq_true_eq] at henough
  have hparity : retestComparisons ≤ s.comparisons parity := by
    cases hparity with
    | inl heq =>
      rw [heq]
      exact henough.1
    | inr hodd =>
      rw [hodd.2]
      cases henough.2 with
      | inl hno => rw [hodd.1] at hno; contradiction
      | inr hle => exact hle
  omega

section Calibrate

variable (selected : Int) (quality : List UInt8) (entry : Int) (requests : List Int)

/-- Nothing has been given out yet. -/
def Withheld (w : SamplingWorld) : Prop :=
  w.selectedPhase = selected ∧ w.quality = quality ∧ w.restored = none

/-- The card is at the entry phase, or the run has left it alone. -/
def Untouched (w : SamplingWorld) : Prop :=
  (w.checked = true → Acked entry w) ∧ (w.checked = false → w.card.requests = requests)

/-- A run without a phase has given out nothing and knows whether it has to restore the phase. -/
def Finished (e : SamplingExit) (w : SamplingWorld) : Prop :=
  match e with
  | .waiting => True
  | .finished result mutationAttempted =>
    (result = 0 ∨ result = -1) ∧ Withheld selected quality w
      ∧ (mutationAttempted = false → Untouched entry requests w)

theorem apart_withheld
    : Apart (Withheld selected quality) := by
  intro w card run failure frames h
  exact h

variable {selected quality entry requests}

theorem exit_fail {I : SamplingWorld → Prop} {J : α → SamplingWorld → Prop} (text : String)
    (mutationAttempted : Bool) (hI : ∀ w, I w → Withheld selected quality w)
    (hclean : mutationAttempted = false → ∀ w, I w → Untouched entry requests w)
    : ExitTriple samplingContract I (fail mutationAttempted text) J
        (Finished selected quality entry requests) := by
  apply exit_bind (J := fun _ w => Withheld selected quality w
    ∧ (mutationAttempted = false → Untouched entry requests w))
  . apply exit_lift
    apply triple_modify_solo
    intro w hw
    exact ⟨hI w hw, fun hm => hclean hm w hw⟩
  . intro _
    apply exit_throw
    intro w hw
    exact ⟨Or.inr rfl, hw⟩

theorem exit_failedMeasurement {J : α → SamplingWorld → Prop} (vresult : VcapResult)
    : ExitTriple samplingContract (Withheld selected quality) (failedMeasurement vresult) J
        (Finished selected quality entry requests) := by
  unfold failedMeasurement
  apply exit_bind (J := fun _ => Withheld selected quality)
  . apply exit_lift
    apply triple_read
    intro w hw
    exact hw
  . intro w
    apply exit_ite
    . intro _
      apply exit_throw
      intro w hw
      exact ⟨Or.inl rfl, hw, by simp⟩
    . intro _
      apply exit_fail
      . intro w hw
        exact hw
      . simp

theorem exit_measureOr (phase : Int) (ntsc lace : Bool) (comparisons : Nat)
    : ExitTriple samplingContract (Withheld selected quality) (measureOr phase ntsc lace comparisons)
        (fun s w => Measuring (Withheld selected quality) phase s w ∧ Acked phase w
          ∧ s.enough lace comparisons = true)
        (Finished selected quality entry requests) := by
  unfold measureOr
  apply exit_bind
  . apply exit_lift
    exact exit_vcapSamplingMeasure (apart_withheld selected quality) phase ntsc lace comparisons
  . intro r
    cases r with
    | error vresult => exact exit_failedMeasurement vresult
    | ok s =>
      apply exit_pure
      intro w hw
      exact hw

/-- A measurement gives out nothing. -/
theorem exit_measureOr_bind {f : MeasureState → ExceptT SamplingExit Sampling α}
    {J : α → SamplingWorld → Prop} (phase : Int) (ntsc lace : Bool) (comparisons : Nat)
    (hf : ∀ s, ExitTriple samplingContract (Withheld selected quality) (f s) J
      (Finished selected quality entry requests))
    : ExitTriple samplingContract (Withheld selected quality)
        (measureOr phase ntsc lace comparisons >>= f) J
        (Finished selected quality entry requests) := by
  apply exit_bind (exit_measureOr phase ntsc lace comparisons)
  intro s
  apply exit_of_pre _ (hf s)
  intro w hw
  exact hw.1.1

theorem exit_sweep (ntsc lace : Bool) (i n : Nat)
    : ExitTriple samplingContract (Withheld selected quality) (sweep ntsc lace i n)
        (fun _ => Withheld selected quality) (Finished selected quality entry requests) := by
  induction n generalizing i with
  | zero =>
    apply exit_pure
    intro w hw
    exact hw
  | succ n ih =>
    apply exit_measureOr_bind
    intro s
    apply exit_bind (ih (i + 1))
    intro clean
    apply exit_pure
    intro w hw
    exact hw

theorem exit_selectEye (clean : List Bool) (entryPhase : Int)
    : ExitTriple samplingContract (Withheld selected quality) (selectEye clean entryPhase)
        (fun _ => Withheld selected quality) (Finished selected quality entry requests) := by
  have hfail : ExitTriple samplingContract (Withheld selected quality)
      (fail true noEye : ExceptT SamplingExit Sampling CaptureEye)
      (fun _ => Withheld selected quality) (Finished selected quality entry requests) := by
    apply exit_fail
    . intro w hw
      exact hw
    . simp
  unfold selectEye
  split
  . exact hfail
  . apply exit_ite
    . intro _
      exact hfail
    . intro _
      apply exit_pure
      intro w hw
      exact hw

theorem exit_refine (ntsc lace : Bool) (n : Nat) (edge : CaptureBoundary)
    : ExitTriple samplingContract (Withheld selected quality) (refine ntsc lace n edge)
        (fun _ => Withheld selected quality) (Finished selected quality entry requests) := by
  induction n generalizing edge with
  | zero =>
    apply exit_pure
    intro w hw
    exact hw
  | succ n ih =>
    apply exit_ite
    . intro _
      apply exit_measureOr_bind
      intro s
      exact ih _
    . intro _
      apply exit_pure
      intro w hw
      exact hw

theorem exit_retest (phase : Int) (ntsc lace : Bool)
    : ExitTriple samplingContract (Withheld selected quality) (retest phase ntsc lace)
        (fun _ w => Withheld selected quality w ∧ Acked phase w ∧ Retested phase lace w)
        (Finished selected quality entry requests) := by
  apply exit_bind (exit_measureOr phase ntsc lace retestComparisons)
  intro s
  apply exit_ite
  . intro hclean
    apply exit_pure
    intro w hw
    exact ⟨hw.1.1, hw.2.1, retested_of_clean hw.1 hw.2.2 hclean⟩
  . intro _
    apply exit_bind (J := fun _ => Withheld selected quality)
    . apply exit_lift
      apply triple_modify_solo
      intro w hw
      exact hw.1.1
    . intro _
      exact exit_failedMeasurement .ok

/-- The user only changes the run. -/
theorem exit_awaitAccept {P : SamplingWorld → Prop} (hrun : ∀ w run, P w → P { w with run })
    (hout : ∀ w, P w → Withheld selected quality w) (turns : Nat)
    : ExitTriple samplingContract P (awaitAccept turns) (fun _ => P)
        (Finished selected quality entry requests) := by
  have hread : ExitTriple samplingContract P
      (ExceptT.lift read : ExceptT SamplingExit Sampling SamplingWorld) (fun _ => P)
      (Finished selected quality entry requests) := by
    apply exit_lift
    apply triple_read
    intro w hw
    exact hw
  have hwait (turns : Nat) : ExitTriple samplingContract P (waitForAccept turns) (fun _ => P)
      (Finished selected quality entry requests) := by
    induction turns with
    | zero =>
      apply exit_throw
      intro w _
      trivial
    | succ turns ih =>
      apply exit_bind hread
      intro w
      apply exit_ite
      . intro _
        apply exit_pure
        intro w hw
        exact hw
      . intro _
        apply exit_bind (exit_lift (triple_keepRunning hrun))
        intro running
        apply exit_ite
        . intro _
          exact ih
        . intro _
          apply exit_pure
          intro w hw
          exact hw
  have haccept : ExitTriple samplingContract P (vcapSamplingWaitForAccept turns) (fun _ => P)
      (Finished selected quality entry requests) := by
    apply exit_bind (J := fun _ => P)
    . apply exit_lift
      apply triple_modify_solo
      intro w hw
      exact hrun w _ hw
    . intro _
      apply exit_bind (hwait turns)
      intro _
      apply exit_bind hread
      intro w
      apply exit_pure
      intro w hw
      exact hw
  unfold awaitAccept
  apply exit_bind haccept
  intro accepted
  apply exit_ite
  . intro _
    apply exit_pure
    intro w hw
    exact hw
  . intro _
    apply exit_bind hread
    intro w
    apply exit_bind (J := fun _ => Withheld selected quality)
    . apply exit_lift
      apply triple_modify_solo
      intro w hw
      exact hout w hw
    . intro _
      apply exit_throw
      intro w' hw'
      refine ⟨?_, hw', by simp⟩
      split <;> simp

variable (selected quality requests) in
/-- The run has not done anything yet. -/
def Fresh (w : SamplingWorld) : Prop :=
  Withheld selected quality w ∧ w.card.requests = requests ∧ w.checked = false

variable (selected quality entry) in
/-- The card is at the entry phase. -/
def Entered (w : SamplingWorld) : Prop :=
  Withheld selected quality w ∧ Acked entry w ∧ w.checked = true

theorem quiet_fresh
    : Quiet (Fresh selected quality requests) where
  observe := by
    intro w offset value h
    exact ⟨h.1, (SamplingCard.requests_observe offset value).trans h.2.1, h.2.2⟩
  write := by
    intro w offset value hoffset h
    rw [SamplingCard.write_of_mem value hoffset]
    exact h
  run := fun w run h => h

theorem untouched_of_fresh {w : SamplingWorld} (h : Fresh selected quality requests w)
    : Untouched entry requests w := by
  refine ⟨?_, fun _ => h.2.1⟩
  intro hchecked
  rw [h.2.2] at hchecked
  contradiction

theorem untouched_of_entered {w : SamplingWorld} (h : Entered selected quality entry w)
    : Untouched entry requests w := by
  refine ⟨fun _ => h.2.1, ?_⟩
  intro hchecked
  rw [h.2.2] at hchecked
  contradiction

theorem exit_checkEntry
    : ExitTriple samplingContract (Fresh selected quality requests) (checkEntry entry)
        (fun _ => Entered selected quality entry) (Finished selected quality entry requests) := by
  have hquiet : Quiet (Fresh selected quality requests) := quiet_fresh
  have hio := acknowledges_of_quiet hquiet
  have hfail (text : String) : ExitTriple samplingContract (Fresh selected quality requests)
      (fail false text : ExceptT SamplingExit Sampling Unit)
      (fun _ => Entered selected quality entry) (Finished selected quality entry requests) := by
    apply exit_fail
    . intro w hw
      exact hw.1
    . intro _ w hw
      exact untouched_of_fresh hw
  unfold checkEntry
  apply exit_bind (exit_lift hio.phaseRead)
  intro r
  apply exit_of_pre (K := Fresh selected quality requests) fun w hw => hw.1
  cases r with
  | error vresult => exact hfail _
  | ok state =>
    apply exit_ite
    . intro _
      exact hfail _
    . intro _
      apply exit_bind (exit_lift (VcapIo.triple_phaseCheck hio entry))
      intro vresult
      apply exit_ite
      . intro hok
        apply exit_lift
        apply triple_modify_solo
        intro w hw
        have := hw.1 hok
        exact ⟨this.1.1, this.2, rfl⟩
      . intro _
        apply exit_of_pre (K := Fresh selected quality requests) fun w hw => hw.2
        exact hfail _

theorem exit_vcapSamplingOpenScreen
    : ExitTriple samplingContract (Entered selected quality entry) vcapSamplingOpenScreen
        (fun _ => Withheld selected quality) (Finished selected quality entry requests) := by
  unfold vcapSamplingOpenScreen
  apply exit_bind (J := fun _ => Entered selected quality entry)
  . apply exit_lift
    apply triple_answer
    intro w _ hw
    exact hw
  . intro r
    cases r.screen with
    | some failure =>
      apply exit_fail
      . intro w hw
        exact hw.1
      . intro _ w hw
        exact untouched_of_entered hw
    | none =>
      apply exit_bind (exit_lift (triple_keepRunning fun w run h => h))
      intro running
      apply exit_ite
      . intro _
        apply exit_pure
        intro w hw
        exact hw.1
      . intro _
        apply exit_bind (J := fun _ => Entered selected quality entry)
        . apply exit_lift
          apply triple_read
          intro w hw
          exact hw
        . intro w
          apply exit_bind (J := fun _ => Entered selected quality entry)
          . apply exit_lift
            apply triple_modify_solo
            intro w hw
            exact hw
          . intro _
            apply exit_throw
            intro w' hw'
            refine ⟨?_, hw'.1, fun _ => untouched_of_entered hw'⟩
            split <;> simp

/-- The phase that is given out is the one that the card has acknowledged and that was retested. -/
def Selected (lace : Bool) (w : SamplingWorld) : Prop :=
  w.restored = none ∧ Acked w.selectedPhase w ∧ Retested w.selectedPhase lace w

theorem exit_calibrate (ntsc lace : Bool) (turns : Nat)
    : ExitTriple samplingContract (Fresh selected quality requests)
        (calibrate ntsc lace entry turns) (fun _ => Selected lace)
        (Finished selected quality entry requests) := by
  unfold calibrate
  apply exit_bind exit_checkEntry
  intro _
  apply exit_bind exit_vcapSamplingOpenScreen
  intro _
  apply exit_bind (exit_sweep ntsc lace 0 captureBins)
  intro clean
  apply exit_bind (exit_selectEye clean entry)
  intro eye
  apply exit_bind (exit_refine ntsc lace _ _)
  intro lower
  apply exit_bind (exit_refine ntsc lace _ _)
  intro upper
  apply exit_bind (exit_retest (eyePhase lower upper) ntsc lace)
  intro _
  apply exit_bind (J := fun _ w => Withheld selected quality w ∧ Acked (eyePhase lower upper) w
    ∧ Retested (eyePhase lower upper) lace w)
  . apply exit_awaitAccept
    . intro w run hw
      exact hw
    . intro w hw
      exact hw.1
  . intro _
    apply exit_lift
    apply triple_modify_solo
    intro w hw
    exact ⟨hw.1.2.2, hw.2⟩

variable (selected quality entry requests) in
/-- What `vcap_sampling_run` has done when it returns. -/
def Concluded (lace : Bool) (result : Int) (w : SamplingWorld) : Prop :=
  (result = 1 → Selected lace w)
    ∧ (result ≠ 1 → w.selectedPhase = selected ∧ w.quality = quality)
    ∧ (result ≠ 1 → result ≠ -2 → Acked entry w ∨ w.checked = false ∧ w.card.requests = requests)
    ∧ (result = -2 ↔ ∃ vresult, w.restored = some vresult ∧ vresult ≠ .ok)

theorem triple_restoreEntryPhase (lace : Bool) (result : Int) (mutationAttempted : Bool)
    : Triple samplingContract
        (Finished selected quality entry requests (.finished result mutationAttempted))
        (restoreEntryPhase entry result mutationAttempted)
        (Concluded selected quality entry requests lace) := by
  unfold restoreEntryPhase
  apply triple_of_fact (p := result = 0 ∨ result = -1) fun w hw => hw.1
  intro hresult
  apply triple_ite
  . intro _
    apply triple_bind (J := fun r w => w.selectedPhase = selected ∧ w.quality = quality
      ∧ (r = .ok → Acked entry w))
    . apply triple_mono (K := Withheld selected quality)
        (triple_phaseApply (apart_withheld selected quality) entry true)
      . intro w hw
        exact hw.2.1
      . intro r w hr
        exact ⟨hr.2.1, hr.2.2.1, fun hok => (hr.1 hok).2⟩
    . intro vresult
      apply triple_bind (J := fun _ w => w.selectedPhase = selected ∧ w.quality = quality
        ∧ (vresult = .ok → Acked entry w) ∧ w.restored = some vresult)
      . apply triple_modify_solo
        intro w hw
        exact ⟨hw.1, hw.2.1, hw.2.2, rfl⟩
      . intro _
        apply triple_ite
        . intro hok
          apply triple_pure
          intro w hw
          refine ⟨by omega, fun _ => ⟨hw.1, hw.2.1⟩, fun _ _ => Or.inl (hw.2.2.1 hok), ?_⟩
          constructor
          . intro h
            omega
          . intro ⟨_, hsome, hne⟩
            rw [hw.2.2.2] at hsome
            simp only [Option.some.injEq] at hsome
            exact absurd (hsome ▸ hok) hne
        . intro hbad
          apply triple_bind (J := fun _ w => w.selectedPhase = selected ∧ w.quality = quality
            ∧ w.restored = some vresult)
          . apply triple_modify_solo
            intro w hw
            exact ⟨hw.1, hw.2.1, hw.2.2.2⟩
          . intro _
            apply triple_pure
            intro w hw
            refine ⟨by simp, fun _ => ⟨hw.1, hw.2.1⟩, by simp, ?_⟩
            simp only [true_iff]
            exact ⟨vresult, hw.2.2, hbad⟩
  . intro hno
    apply triple_pure
    intro w hw
    have huntouched := hw.2.2 (by simpa using hno)
    refine ⟨by omega, fun _ => ⟨hw.2.1.1, hw.2.1.2.1⟩, ?_, ?_⟩
    . intro _ _
      cases hchecked : w.checked with
      | true => exact Or.inl (huntouched.1 hchecked)
      | false => exact Or.inr ⟨rfl, huntouched.2 hchecked⟩
    . constructor
      . intro h
        omega
      . intro ⟨_, hsome, _⟩
        rw [hw.2.1.2.2] at hsome
        contradiction

theorem triple_calibrateOrRestore (ntsc lace : Bool) (turns : Nat)
    : Triple samplingContract (Fresh selected quality requests)
        (calibrateOrRestore ntsc lace entry turns)
        (fun r w => ∀ result, r = some result →
          Concluded selected quality entry requests lace result w) := by
  unfold calibrateOrRestore
  apply triple_bind (J := fun _ => Fresh selected quality requests)
  . apply triple_modify_solo
    intro w hw
    exact hw
  . intro _
    apply triple_bind (exit_calibrate ntsc lace turns)
    intro r
    cases r with
    | ok _ =>
      apply triple_pure
      intro w hw result hresult
      have hselected : Selected lace w := hw
      simp only [Option.some.injEq] at hresult
      rw [← hresult]
      refine ⟨fun _ => hselected, by simp, by simp, ?_⟩
      constructor
      . intro h
        contradiction
      . intro ⟨_, hsome, _⟩
        rw [hselected.1] at hsome
        contradiction
    | error e =>
      cases e with
      | waiting =>
        apply triple_pure
        intro w _ result hresult
        contradiction
      | finished result mutationAttempted =>
        apply triple_map
        apply triple_mono (K := Finished selected quality entry requests
          (.finished result mutationAttempted)) (triple_restoreEntryPhase lace _ _)
        . intro w hw
          exact hw
        . intro r w hr result hresult
          simp only [Option.some.injEq] at hresult
          rw [← hresult]
          exact hr

theorem triple_vcapSamplingRun (ntsc lace : Int) (turns : Nat)
    : Triple samplingContract
        (fun w => w.selectedPhase = selected ∧ w.quality = quality ∧ w.card.requests = requests)
        (vcapSamplingRun ntsc lace entry turns)
        (fun r w => ∀ result, r = some result →
          Concluded selected quality entry requests (lace == 1) result w) := by
  unfold vcapSamplingRun
  apply triple_bind (J := fun _ => Fresh selected quality requests)
  . apply triple_modify_solo
    intro w hw
    exact ⟨⟨hw.1, hw.2.1, rfl⟩, hw.2.2, rfl⟩
  . intro _
    apply triple_ite
    . intro _
      apply triple_bind (J := fun _ => Fresh selected quality requests)
      . apply triple_modify_solo
        intro w hw
        exact hw
      . intro _
        apply triple_pure
        intro w hw result hresult
        simp only [Option.some.injEq] at hresult
        rw [← hresult]
        refine ⟨by simp, fun _ => ⟨hw.1.1, hw.1.2.1⟩, fun _ _ => Or.inr ⟨hw.2.2, hw.2.1⟩, ?_⟩
        constructor
        . intro h
          contradiction
        . intro ⟨_, hsome, _⟩
          rw [hw.1.2.2] at hsome
          contradiction
    . intro _
      apply triple_of_pre _ (triple_calibrateOrRestore (ntsc == 1) (lace == 1) turns)
      intro w hw
      exact hw

end Calibrate

/--
A calibration that selects a phase has seen the card acknowledge it last, and its retest has shown
that it is clean. Any other one gives nothing out, and the card has acknowledged the entry phase last,
unless the restoration has failed or the run has found the card elsewhere and requested nothing.
-/
theorem sampling_run {w w' : SamplingWorld} {ntsc lace entryPhase result : Int} {turns : Nat}
    {answers : List SamplingAnswer} {marks : Trace SamplingWorld Empty}
    (hrun : (vcapSamplingRun ntsc lace entryPhase turns).exec w answers
      = some (marks, w', .done (some result)))
    : (result = 1 → w'.card.acked = some w'.selectedPhase
        ∧ Retested w'.selectedPhase (lace == 1) w')
        ∧ (result ≠ 1 → w'.selectedPhase = w.selectedPhase ∧ w'.quality = w.quality)
        ∧ (result ≠ 1 → result ≠ -2 → w'.card.acked = some entryPhase
          ∨ w'.checked = false ∧ w'.card.requests = w.card.requests)
        ∧ (result = -2 ↔ ∃ vresult, w'.restored = some vresult ∧ vresult ≠ .ok) := by
  obtain ⟨_, r, hstop, hend⟩ := exec_of_triple (triple_vcapSamplingRun ntsc lace turns)
    ⟨rfl, rfl, rfl⟩ hrun (by intro m; exact m.1.elim)
  cases hstop
  have hconcluded := hend result rfl
  refine ⟨?_, hconcluded.2⟩
  intro hresult
  exact (hconcluded.1 hresult).2

def SamplingAnswer.word (value : UInt16) : SamplingAnswer where
  value := value
  ctrlC := false
  messages := []
  windowActive := true
  screen := none

/-- The reads of the phase of a C28 card whose engine is done with the phase that it has applied. -/
def c28Answers (status : UInt16) : List SamplingAnswer :=
  [.word 0x5651, .word 0x0206, .word 0, .word 0x17, .word 0, .word status]

/-- A card that nobody has asked for anything. -/
def samplingStart : SamplingWorld where
  card := { seen := fun _ => 0, target := 0, requests := [], acked := none }
  run := startRun false false
  selectedPhase := 0
  quality := []
  failure := ""
  checked := false
  frames := []
  restored := none

/-- Escape ends the first measurement, and the entry phase 5 is restored. -/
theorem sampling_run_cancelled
    : ∃ answers marks w',
        (vcapSamplingRun 0 0 5 0).exec samplingStart answers = some (marks, w', .done (some 0))
          ∧ w'.checked = true ∧ w'.card.requests = [5] ∧ w'.card.acked = some 5
          ∧ w'.selectedPhase = 0 ∧ w'.quality = [] := by
  let escape : SamplingAnswer := { SamplingAnswer.word 0 with messages := [.rawkey rawkeyEscape] }
  let answers := c28Answers 0xa005 ++ c28Answers 0xa005 ++ [.word 0, .word 0, escape]
    ++ c28Answers 0xa005 ++ c28Answers 0xa005 ++ c28Answers 0xa005
  have heval : (vcapSamplingRun 0 0 5 0).ends samplingStart answers (fun r w =>
      r == some 0 && w.checked && w.card.requests == [5]) = true := by
    decide +kernel
  obtain ⟨marks, w', r, hrun, htest⟩ := exists_of_ends heval
  simp only [Bool.and_eq_true, beq_iff_eq] at htest
  rw [htest.1.1] at hrun
  have hend := sampling_run hrun
  have hout := hend.2.1 (by decide)
  refine ⟨answers, marks, w', hrun, htest.1.2, htest.2, ?_, hout.1, hout.2⟩
  cases hend.2.2.1 (by decide) (by decide) with
  | inl hacked => exact hacked
  | inr hno =>
    rw [htest.1.2] at hno
    cases hno.1

/-- The card has acknowledged the phase 7 when the calibration is asked to enter from the phase 5. -/
theorem sampling_elsewhere
    : ¬∀ (w w' : SamplingWorld) (entryPhase result : Int) (answers : List SamplingAnswer) (marks),
        (vcapSamplingRun 0 0 entryPhase 0).exec w answers = some (marks, w', .done (some result)) →
          result ≠ 1 → result ≠ -2 → w'.card.acked = some entryPhase := by
  intro h
  have heval : (vcapSamplingRun 0 0 5 0).ends samplingStart (c28Answers 0xa007) (fun r w =>
      r == some (-1) && w.card.acked == some 7) = true := by
    decide +kernel
  obtain ⟨marks, w', r, hrun, htest⟩ := exists_of_ends heval
  simp only [Bool.and_eq_true, beq_iff_eq] at htest
  rw [htest.1] at hrun
  have hacked := h _ _ _ _ _ _ hrun (by decide) (by decide)
  rw [htest.2] at hacked
  contradiction

end ZZTop
