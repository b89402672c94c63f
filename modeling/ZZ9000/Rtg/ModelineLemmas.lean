import ZZ9000.Rtg.Modeline
import ZZ9000.Rtg.CustomClockLemmas

/-!
This module contains the verification of the planning of a mode: what a plan promises about the mode
that is staged, and that the clock that P96 is told is a fixed point of the planning.
-/

namespace ZZRtg

/-- Where the syncs start and end and how long lines and frames are, in pixels and lines. -/
structure Timing where
  hsyncStart : Nat
  hsyncEnd : Nat
  htotal : Nat
  vsyncStart : Nat
  vsyncEnd : Nat
  vtotal : Nat

/-- P96 counts the syncs from the ends of the picture. -/
def P96Mode.timing (p96 : P96Mode) : Timing where
  hsyncStart := p96.width.toNat + p96.horSyncStart.toNat
  hsyncEnd := p96.width.toNat + p96.horSyncStart.toNat + p96.horSyncSize.toNat
  htotal := p96.horTotal.toNat
  vsyncStart := p96.height.toNat + p96.verSyncStart.toNat
  vsyncEnd := p96.height.toNat + p96.verSyncStart.toNat + p96.verSyncSize.toNat
  vtotal := p96.verTotal.toNat

def CustomMode.timing (mode : CustomMode) : Timing where
  hsyncStart := mode.hsyncStart.toNat
  hsyncEnd := mode.hsyncEnd.toNat
  htotal := mode.htotal.toNat
  vsyncStart := mode.vsyncStart.toNat
  vsyncEnd := mode.vsyncEnd.toNat
  vtotal := mode.vtotal.toNat

def RtgModeTiming.timing (preset : RtgModeTiming) : Timing where
  hsyncStart := preset.hsyncStart.toNat
  hsyncEnd := preset.hsyncEnd.toNat
  htotal := preset.htotal.toNat
  vsyncStart := preset.vsyncStart.toNat
  vsyncEnd := preset.vsyncEnd.toNat
  vtotal := preset.vtotal.toNat

section Presets

variable {p96 : P96Mode} {preset : RtgModeTiming} {scale scale' : UInt16}

/-- In a row the picture ends before the sync, which ends after it starts. -/
structure RtgModeTiming.Ordered (preset : RtgModeTiming) : Prop where
  width_le_hsyncStart : preset.width ≤ preset.hsyncStart
  hsyncStart_le : preset.hsyncStart ≤ preset.hsyncEnd
  height_le_vsyncStart : preset.height ≤ preset.vsyncStart
  vsyncStart_le : preset.vsyncStart ≤ preset.vsyncEnd

theorem ordered_of_mem (h : preset ∈ rtgModeTimings)
    : preset.Ordered := by
  have all : rtgModeTimings.all (fun t =>
      decide (t.width ≤ t.hsyncStart ∧ t.hsyncStart ≤ t.hsyncEnd
        ∧ t.height ≤ t.vsyncStart ∧ t.vsyncStart ≤ t.vsyncEnd)) = true := by decide
  have row := of_decide_eq_true (List.all_eq_true.mp all preset h)
  exact ⟨row.1, row.2.1, row.2.2.1, row.2.2.2⟩

/-- The picture that a preset shows is that of the mode, or twice as wide and high. -/
def Fits (p96 : P96Mode) (preset : RtgModeTiming) (scale : UInt16) : Prop :=
  (scale = 0 ∧ preset.width.toNat = p96.width.toNat ∧ preset.height.toNat = p96.height.toNat)
  ∨ (scale = 3 ∧ preset.width.toNat = 2 * p96.width.toNat
    ∧ preset.height.toNat = 2 * p96.height.toNat)

theorem mem_of_outputSize {width height : UInt16}
    (h : rtgModeTimingForOutputSize width height = some preset)
    : preset ∈ rtgModeTimings ∧ preset.width = width ∧ preset.height = height := by
  have found := List.find?_some h
  rw [Bool.and_eq_true, beq_iff_eq, beq_iff_eq] at found
  exact ⟨List.mem_of_find?_eq_some h, found.1, found.2⟩

theorem fits_of_dimensions (h : p96PresetForDimensions p96 scale = (some preset, scale'))
    : preset ∈ rtgModeTimings ∧ Fits p96 preset scale' := by
  unfold p96PresetForDimensions at h
  split at h
  . cases h
  . dsimp only at h
    rw [Prod.mk.injEq] at h
    cases h with | intro found hscale =>
    unfold rtgModeTimingForLogicalSize at found
    split at found
    . next small =>
      rw [if_pos small] at hscale
      have row := mem_of_outputSize found
      have two : (2 : UInt16).toNat = 2 := rfl
      have narrow := UInt16.lt_iff_toNat_lt.mp small.1
      have low := UInt16.lt_iff_toNat_lt.mp small.2
      have n640 : (640 : UInt16).toNat = 640 := rfl
      have n480 : (480 : UInt16).toNat = 480 := rfl
      constructor
      . exact row.1
      . right
        rw [row.2.1, row.2.2, UInt16.toNat_mul, UInt16.toNat_mul, two]
        constructor
        . exact hscale.symm
        . omega
    . next large =>
      rw [if_neg large] at hscale
      have row := mem_of_outputSize found
      constructor
      . exact row.1
      . left
        rw [row.2.1, row.2.2]
        exact ⟨hscale.symm, rfl, rfl⟩

/-- The check of a preset compares differences of 16 bits, which no row lets wrap. -/
theorem timing_of_matching (h : p96MatchingPreset p96 scale = (some preset, scale'))
    : p96.timing = preset.timing ∧ p96.pixelClock = preset.pixelClockHz
      ∧ preset ∈ rtgModeTimings ∧ Fits p96 preset scale' := by
  unfold p96MatchingPreset at h
  split at h
  . cases h
  . next timing _ dimensions =>
    split at h
    . cases h
    . next same =>
      rw [Prod.mk.injEq, Option.some.injEq] at h
      cases h with | intro hpreset hscale =>
      subst hpreset
      subst hscale
      simp only [ne_eq, not_or, not_not] at same
      have row := fits_of_dimensions dimensions
      have ordered := ordered_of_mem row.1
      have width : p96.width ≤ timing.hsyncStart := by
        have := UInt16.le_iff_toNat_le.mp ordered.width_le_hsyncStart
        rw [UInt16.le_iff_toNat_le]
        have fits := row.2
        unfold Fits at fits
        omega
      have height : p96.height ≤ timing.vsyncStart := by
        have := UInt16.le_iff_toNat_le.mp ordered.height_le_vsyncStart
        rw [UInt16.le_iff_toNat_le]
        have fits := row.2
        unfold Fits at fits
        omega
      have hsyncStart := UInt16.toNat_sub_of_le _ _ width
      have hsyncSize := UInt16.toNat_sub_of_le _ _ ordered.hsyncStart_le
      have vsyncStart := UInt16.toNat_sub_of_le _ _ height
      have vsyncSize := UInt16.toNat_sub_of_le _ _ ordered.vsyncStart_le
      have := UInt16.le_iff_toNat_le.mp width
      have := UInt16.le_iff_toNat_le.mp height
      have := UInt16.le_iff_toNat_le.mp ordered.hsyncStart_le
      have := UInt16.le_iff_toNat_le.mp ordered.vsyncStart_le
      constructor
      . unfold P96Mode.timing RtgModeTiming.timing
        rw [same.1, same.2.1, same.2.2.1, same.2.2.2.1, same.2.2.2.2.1, same.2.2.2.2.2.1,
          hsyncStart, hsyncSize, vsyncStart, vsyncSize, Timing.mk.injEq]
        omega
      . exact ⟨same.2.2.2.2.2.2, row⟩

end Presets

section Custom

variable {p96 : P96Mode} {mode : CustomMode}

/-- No scan that the card cannot show, and one polarity for both syncs. -/
structure P96Mode.Supported (p96 : P96Mode) : Prop where
  scan : p96.flags &&& p96UnsupportedScanFlags = 0
  polarity : p96.flags &&& p96HPolarity ≠ 0 ↔ p96.flags &&& p96VPolarity ≠ 0

/-- A mode that is staged shows the picture of the P96 mode with the timing of the P96 mode. -/
structure Shows (p96 : P96Mode) (mode : CustomMode) : Prop where
  width : mode.width = p96.width
  height : mode.height = p96.height
  timing : mode.timing = p96.timing
  polarity : mode.polarity = isNegative p96.flags p96HPolarity

theorem isNegative_inj (flags a b : UInt16)
    : isNegative flags a = isNegative flags b ↔ (flags &&& a ≠ 0 ↔ flags &&& b ≠ 0) := by
  unfold isNegative
  split
  . next ha =>
    split
    . next hb => exact iff_of_true rfl (iff_of_true ha hb)
    . next hb => exact iff_of_false (by decide) fun h => hb (h.mp ha)
  . next ha =>
    split
    . next hb => exact iff_of_false (by decide) fun h => ha (h.mpr hb)
    . next hb => exact iff_of_true rfl (iff_of_false ha hb)

theorem toNat_end (active start size : UInt16)
    : (active.toUInt32 + start.toUInt32 + size.toUInt32).toNat
        = active.toNat + start.toNat + size.toNat := by
  have := active.toNat_lt
  have := start.toNat_lt
  have := size.toNat_lt
  rw [UInt32.toNat_add, UInt32.toNat_add, UInt16.toNat_toUInt32, UInt16.toNat_toUInt32,
    UInt16.toNat_toUInt32]
  omega

theorem toNat_start (active start : UInt16)
    : (active.toUInt32 + start.toUInt32).toNat = active.toNat + start.toNat := by
  have := active.toNat_lt
  have := start.toNat_lt
  rw [UInt32.toNat_add, UInt16.toNat_toUInt32, UInt16.toNat_toUInt32]
  omega

theorem shows_of_staged (h : (p96ToCustomMode p96 mode).1 = true)
    : p96.Supported ∧ (p96ToCustomMode p96 mode).2.geometryValid = true
      ∧ Shows p96 (p96ToCustomMode p96 mode).2 := by
  unfold p96ToCustomMode at h ⊢
  dsimp only at h ⊢
  split at h
  . cases h
  . next scan =>
    rw [if_neg scan]
    split at h
    . cases h
    . next polarity =>
      rw [if_neg polarity]
      split at h
      . cases h
      . next narrow =>
        rw [if_neg narrow]
        have last : (0xffff : UInt32).toNat = 65535 := rfl
        rw [not_or, UInt32.not_lt, UInt32.not_lt, UInt32.le_iff_toNat_le, UInt32.le_iff_toNat_le,
          toNat_end, toNat_end, last] at narrow
        constructor
        . constructor
          . exact not_not.mp scan
          . exact (isNegative_inj _ _ _).mp (not_not.mp polarity)
        . constructor
          . exact h
          . constructor
            . rfl
            . rfl
            . unfold CustomMode.timing P96Mode.timing
              dsimp only
              rw [UInt32.toNat_toUInt16, UInt32.toNat_toUInt16, UInt32.toNat_toUInt16,
                UInt32.toNat_toUInt16, toNat_end, toNat_end, toNat_start, toNat_start,
                Nat.mod_eq_of_lt (by omega), Nat.mod_eq_of_lt (by omega),
                Nat.mod_eq_of_lt (by omega), Nat.mod_eq_of_lt (by omega)]
            . rfl

theorem p96ToCustomMode_congr (p96 : P96Mode) (mode mode' : CustomMode)
    : (p96ToCustomMode p96 mode).1 = (p96ToCustomMode p96 mode').1 := by
  unfold p96ToCustomMode
  dsimp only
  split
  . rfl
  . split
    . rfl
    . split
      . rfl
      . rfl

/-- Whether the planning goes on depends neither on the clock nor on what the record holds. -/
theorem stageTiming_congr (p96 : P96Mode) (requireCompleteTiming : Bool) (hz : UInt32)
    (mode mode' : CustomMode)
    : (stageTiming { p96 with pixelClock := hz } requireCompleteTiming mode).1
      = (stageTiming p96 requireCompleteTiming mode').1 := by
  cases requireCompleteTiming with
  | false => rfl
  | true => exact p96ToCustomMode_congr p96 mode mode'

end Custom

section Plans

/-!
A plan is a preset, a custom mode or a refusal. Which of them is decided by the preset of the mode,
whether the mode can be staged and the clock; what the record of the caller holds does not matter.
-/

/-- The preset that the firmware can show a mode with. -/
def presetOf (p96 : P96Mode) (firmwareCapabilities : UInt16) : Option RtgModeTiming × UInt16 :=
  if firmwareCapabilities &&& capCustomMode ≠ 0 then
    p96MatchingPreset p96 0
  else
    p96PresetForDimensions p96 0

/-- The three outcomes of the planning. -/
inductive Planned (p96 : P96Mode) (firmwareCapabilities : UInt16) (requireCompleteTiming : Bool)
    (plan : PlanRecord) : Bool × PlanRecord → Prop where
  | preset (timing : RtgModeTiming) (scale : UInt16)
      (h : presetOf p96 firmwareCapabilities = (some timing, scale))
      : Planned p96 firmwareCapabilities requireCompleteTiming plan
          (true, plan.reset.usePreset timing scale)
  | custom (hnone : (presetOf p96 firmwareCapabilities).1 = none)
      (capable : firmwareCapabilities &&& capCustomMode ≠ 0)
      (staged : (stageTiming p96 requireCompleteTiming plan.custom).1 = true)
      (t : Pll) (legal : t.Legal) (mode : CustomMode)
      (hmode : mode = (stageTiming p96 requireCompleteTiming plan.custom).2)
      (resolved : customResolveClock p96.pixelClock mode
        = (t.hz, { mode with mul := t.mul, div := t.div, div2 := t.div2 }))
      : Planned p96 firmwareCapabilities requireCompleteTiming plan (true,
          { plan.reset with
            action := .custom
            custom := { mode with mul := t.mul, div := t.div, div2 := t.div2 }
            achievedClock := t.hz })
  | refused (hnone : (presetOf p96 firmwareCapabilities).1 = none)
      (why : firmwareCapabilities &&& capCustomMode ≠ 0
        → (stageTiming p96 requireCompleteTiming plan.custom).1 = true
        → ∀ mode, (customResolveClock p96.pixelClock mode).1 = 0)
      (after : PlanRecord)
      : Planned p96 firmwareCapabilities requireCompleteTiming plan (false, after)

theorem planned_p96PlanCore (p96 : P96Mode) (firmwareCapabilities : UInt16)
    (requireCompleteTiming : Bool) (plan : PlanRecord)
    : Planned p96 firmwareCapabilities requireCompleteTiming plan
        (p96PlanCore p96 firmwareCapabilities requireCompleteTiming plan) := by
  unfold p96PlanCore
  dsimp only
  split
  . next capable =>
    have same : presetOf p96 firmwareCapabilities = p96MatchingPreset p96 0 := if_pos capable
    split
    . next timing scale found =>
      exact .preset timing scale (same.trans found)
    . next found =>
      have hnone : (presetOf p96 firmwareCapabilities).1 = none := by
        rw [same, found]
      split
      . next staged =>
        split
        . next zero =>
          apply Planned.refused hnone
          intro _ _ mode
          rw [customResolveClock_congr _ mode, zero]
        . next nonzero =>
          cases exists_tuple_of_ne_zero nonzero with | intro t h =>
          dsimp only [PlanRecord.reset] at h ⊢
          rw [h.2]
          exact @Planned.custom p96 firmwareCapabilities requireCompleteTiming plan hnone capable
            staged t h.1 _ rfl h.2
      . next unstaged =>
        apply Planned.refused hnone
        intro _ staged
        exact absurd staged unstaged
  . next incapable =>
    have same : presetOf p96 firmwareCapabilities = p96PresetForDimensions p96 0 := if_neg incapable
    split
    . next found =>
      apply Planned.refused
      . rw [same, found]
      . intro capable
        exact absurd capable incapable
    . next timing scale found =>
      exact .preset timing scale (same.trans found)

variable {p96 : P96Mode} {firmwareCapabilities : UInt16} {plan : PlanRecord}

theorem geometryValid_setPll (mode : CustomMode) (mul div div2 : UInt16)
    : { mode with mul, div, div2 : CustomMode }.geometryValid = mode.geometryValid := rfl

theorem valid_of_legal {mode : CustomMode} {t : Pll} (geometry : mode.geometryValid = true)
    (legal : t.Legal)
    : { mode with mul := t.mul, div := t.div, div2 := t.div2 : CustomMode }.valid = true := by
  unfold CustomMode.valid
  dsimp only
  rw [geometryValid_setPll, geometry, Bool.true_and, Bool.and_eq_true, decide_eq_true_eq,
    decide_eq_true_eq]
  exact legal

/-- What a plan for a custom mode promises. -/
structure CustomPlan (p96 : P96Mode) (plan : PlanRecord) : Prop where
  valid : plan.custom.valid = true
  shows : Shows p96 plan.custom
  supported : p96.Supported
  clock : plan.achievedClock = customClockHz plan.custom.mul plan.custom.div plan.custom.div2

/-- What a plan for a preset promises if the firmware has custom modes. -/
def PresetPlan (p96 : P96Mode) (plan : PlanRecord) : Prop :=
  ∃ preset ∈ rtgModeTimings, plan.preset = some preset ∧ Fits p96 preset plan.scale.toUInt16
    ∧ p96.timing = preset.timing ∧ p96.pixelClock = preset.pixelClockHz

theorem customPlan_of_planned
    (h : (p96PlanModeline p96 firmwareCapabilities plan).1 = true)
    (custom : (p96PlanModeline p96 firmwareCapabilities plan).2.action = .custom)
    : CustomPlan p96 (p96PlanModeline p96 firmwareCapabilities plan).2 := by
  have planned := planned_p96PlanCore p96 firmwareCapabilities true plan
  unfold p96PlanModeline at h custom ⊢
  generalize p96PlanCore p96 firmwareCapabilities true plan = result at planned h custom
  cases planned with
  | preset _ _ _ => cases custom
  | refused _ _ _ => cases h
  | custom _ _ staged t legal mode hmode _ =>
    have shows := shows_of_staged staged
    rw [hmode]
    constructor
    . exact valid_of_legal shows.2.1 legal
    . exact ⟨shows.2.2.width, shows.2.2.height, shows.2.2.timing, shows.2.2.polarity⟩
    . exact shows.1
    . rfl

theorem presetPlan_of_planned
    (h : (p96PlanModeline p96 firmwareCapabilities plan).1 = true)
    (preset : (p96PlanModeline p96 firmwareCapabilities plan).2.action = .preset)
    (capable : firmwareCapabilities &&& capCustomMode ≠ 0)
    : PresetPlan p96 (p96PlanModeline p96 firmwareCapabilities plan).2 := by
  have planned := planned_p96PlanCore p96 firmwareCapabilities true plan
  unfold p96PlanModeline at h preset ⊢
  generalize p96PlanCore p96 firmwareCapabilities true plan = result at planned h preset
  cases planned with
  | custom _ _ _ _ _ _ _ _ => cases preset
  | refused _ _ _ => cases h
  | preset timing scale found =>
    unfold presetOf at found
    rw [if_pos capable] at found
    have same := timing_of_matching found
    have hscale : scale.toUInt8.toUInt16 = scale := by
      cases same.2.2.2 with
      | inl normal => rw [normal.1]; rfl
      | inr doubled => rw [doubled.1]; rfl
    refine ⟨timing, same.2.2.1, rfl, ?_, same.1, same.2.1⟩
    unfold PlanRecord.usePreset
    dsimp only
    rw [hscale]
    exact same.2.2.2

/-- The negotiation of a clock asks for less, so it follows every plan of the complete timing. -/
theorem negotiated_of_planned {before : PlanRecord}
    (h : (p96PlanModeline p96 firmwareCapabilities plan).1 = true)
    : let planned := (p96PlanModeline p96 firmwareCapabilities plan).2
      let negotiated := p96NegotiatePixelClock p96 firmwareCapabilities before
      negotiated.1 = true ∧ negotiated.2.action = planned.action
        ∧ negotiated.2.preset = planned.preset ∧ negotiated.2.scale = planned.scale
        ∧ negotiated.2.achievedClock = planned.achievedClock := by
  have planned := planned_p96PlanCore p96 firmwareCapabilities true plan
  have negotiated := planned_p96PlanCore p96 firmwareCapabilities false before
  unfold p96PlanModeline at h ⊢
  unfold p96NegotiatePixelClock
  generalize p96PlanCore p96 firmwareCapabilities true plan = result at planned h
  generalize p96PlanCore p96 firmwareCapabilities false before = result' at negotiated
  cases planned with
  | refused _ _ _ => cases h
  | preset timing scale found =>
    cases negotiated with
    | preset timing' scale' found' =>
      have same := found.symm.trans found'
      rw [Prod.mk.injEq, Option.some.injEq] at same
      rw [same.1, same.2]
      exact ⟨rfl, rfl, rfl, rfl, rfl⟩
    | custom hnone _ _ _ _ _ _ _ =>
      rw [found] at hnone
      cases hnone
    | refused hnone _ _ =>
      rw [found] at hnone
      cases hnone
  | custom hnone capable _ t legal mode _ resolved =>
    cases negotiated with
    | preset timing' scale' found' =>
      rw [found'] at hnone
      cases hnone
    | custom _ _ _ t' _ mode' _ resolved' =>
      have same := customResolveClock_congr p96.pixelClock mode' mode
      rw [resolved, resolved'] at same
      exact ⟨rfl, rfl, rfl, rfl, same⟩
    | refused _ why _ =>
      have zero := why capable rfl mode
      rw [resolved] at zero
      exact absurd zero legal.hz_ne_zero

/-- The mode keeps its preset if it takes the clock of the preset. -/
theorem presetOf_pixelClockHz {timing : RtgModeTiming} {scale : UInt16}
    (h : presetOf p96 firmwareCapabilities = (some timing, scale))
    : presetOf { p96 with pixelClock := timing.pixelClockHz } firmwareCapabilities
      = (some timing, scale) := by
  by_cases capable : firmwareCapabilities &&& capCustomMode ≠ 0
  . have found := h
    unfold presetOf at found
    rw [if_pos capable] at found
    rw [← (timing_of_matching found).2.1]
    exact h
  . unfold presetOf at h ⊢
    rw [if_neg capable] at h ⊢
    exact h

/-- The clock of a plan may be written back: the mode is planned again with the same clock. -/
theorem replanned_of_planned {requireCompleteTiming : Bool} {again : PlanRecord}
    (h : (p96PlanCore p96 firmwareCapabilities requireCompleteTiming plan).1 = true)
    : let hz := (p96PlanCore p96 firmwareCapabilities requireCompleteTiming plan).2.clock
      let replanned := p96PlanCore { p96 with pixelClock := hz } firmwareCapabilities
        requireCompleteTiming again
      replanned.1 = true ∧ replanned.2.clock = hz := by
  have planned := planned_p96PlanCore p96 firmwareCapabilities requireCompleteTiming plan
  dsimp only
  generalize p96PlanCore p96 firmwareCapabilities requireCompleteTiming plan = result at planned h
  have replanned := planned_p96PlanCore { p96 with pixelClock := result.2.clock }
    firmwareCapabilities requireCompleteTiming again
  generalize p96PlanCore { p96 with pixelClock := result.2.clock } firmwareCapabilities
    requireCompleteTiming again = result' at replanned
  cases planned with
  | refused _ _ _ => cases h
  | preset timing scale found =>
    have kept := presetOf_pixelClockHz found
    cases replanned with
    | preset timing' scale' found' =>
      have same := kept.symm.trans found'
      rw [Prod.mk.injEq, Option.some.injEq] at same
      rw [same.1]
      exact ⟨rfl, rfl⟩
    | custom hnone _ _ _ _ _ _ _ => cases (congrArg Prod.fst kept).symm.trans hnone
    | refused hnone _ _ => cases (congrArg Prod.fst kept).symm.trans hnone
  | custom _ capable staged t legal _ _ _ =>
    cases replanned with
    | preset timing' scale' found' =>
      -- the timing was that of a preset, only the clock was not
      unfold presetOf at found'
      rw [if_pos capable] at found'
      exact ⟨rfl, (timing_of_matching found').2.1.symm⟩
    | custom _ _ _ t' _ mode' _ resolved' =>
      have stable := customResolveClock_hz t legal mode'
      dsimp only [PlanRecord.clock] at resolved'
      rw [resolved'] at stable
      exact ⟨rfl, stable⟩
    | refused _ why _ =>
      rw [stageTiming_congr p96 requireCompleteTiming _ again.custom plan.custom] at why
      have zero := why capable staged plan.custom
      have stable := customResolveClock_hz t legal plan.custom
      dsimp only [PlanRecord.clock] at zero
      exact absurd (stable.symm.trans zero) legal.hz_ne_zero

/-- What `SetGC` stages is a valid mode with the timing that P96 has given it. -/
theorem valid_of_modelinePlanner {mode : CustomMode}
    (h : modelinePlanner p96 firmwareCapabilities = some (.custom mode))
    : mode.valid = true ∧ Shows p96 mode := by
  unfold modelinePlanner at h
  dsimp only at h
  split at h
  . next planned =>
    split at h
    . cases h
    . rw [Option.map_eq_some_iff] at h
      cases h with | intro timing found =>
      cases found.2
    . next custom =>
      have plan := customPlan_of_planned planned custom
      rw [Option.some.injEq, ModelinePlan.custom.injEq] at h
      rw [← h]
      exact ⟨plan.valid, plan.shows⟩
  . cases h

end Plans

/--
A custom mode is valid and has the timing of the P96 mode, a preset has its timing and its clock.
The negotiation of the clock agrees with every plan, and the clock of a plan is a fixed point.
-/
theorem p96PlanModeline_sound (p96 : P96Mode) (firmwareCapabilities : UInt16)
    (plan before again : PlanRecord)
    (h : (p96PlanModeline p96 firmwareCapabilities plan).1 = true)
    : let planned := (p96PlanModeline p96 firmwareCapabilities plan).2
      let negotiated := p96NegotiatePixelClock p96 firmwareCapabilities before
      let replanned :=
        p96PlanModeline { p96 with pixelClock := planned.clock } firmwareCapabilities again
      (planned.action = .custom → CustomPlan p96 planned)
      ∧ (planned.action = .preset → firmwareCapabilities &&& capCustomMode ≠ 0
          → PresetPlan p96 planned)
      ∧ (negotiated.1 = true ∧ negotiated.2.action = planned.action
        ∧ negotiated.2.preset = planned.preset ∧ negotiated.2.scale = planned.scale
        ∧ negotiated.2.achievedClock = planned.achievedClock)
      ∧ replanned.1 = true ∧ replanned.2.clock = planned.clock := by
  constructor
  . exact customPlan_of_planned h
  constructor
  . exact presetPlan_of_planned h
  constructor
  . exact negotiated_of_planned h
  . exact replanned_of_planned h

/-- A mode of 1280 by 800 pixels that no preset shows. -/
def mode1280x800 : P96Mode :=
  ⟨1280, 800, 1680, 64, 136, 828, 1, 3, 0x18, 83460000⟩

theorem p96PlanModeline_sound_custom
    : CustomPlan mode1280x800 (p96PlanModeline mode1280x800 0x80 emptyPlan).2 := by
  have sound := p96PlanModeline_sound mode1280x800 0x80 emptyPlan emptyPlan emptyPlan
    (by decide +kernel)
  exact sound.1 (by decide +kernel)

end ZZRtg
