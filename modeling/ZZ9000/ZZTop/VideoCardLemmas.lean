import ZZ9000.ZZTop.AlignLemmas
import ZZ9000.ZZTop.VideoCard

/-!
This module contains what the hardware behind `video.c` keeps while it is left alone: a part of it
that is not busy with a request stays as it is.
-/

namespace ZZTop

open ZZVcap

namespace PhaseCard

theorem advance_of_not_busy {card : PhaseCard} (status : UInt16) (h : card.state.busy = false)
    : (card.advance status).state.busy = false
        ∧ (card.advance status).state.applied = card.state.applied := by
  unfold advance
  rw [h]
  dsimp only
  rw [if_neg (by simp)]
  split
  . next hnext =>
    simp only [Bool.and_eq_true, Bool.not_eq_true', beq_iff_eq] at hnext
    exact hnext
  . exact ⟨h, rfl⟩

theorem capability_advance (card : PhaseCard) (status : UInt16)
    : (card.advance status).capability = card.capability := by
  unfold advance
  dsimp only
  split
  . rfl
  . split <;> rfl

end PhaseCard

namespace GeometryCard

variable {card : GeometryCard}

/-- What is settled is what has been applied last. -/
def Coherent (card : GeometryCard) : Prop :=
  card.state.settled = true
    → card.window = (card.state.requestedWidth, card.state.requestedHeight)

theorem settled_of_status {state : VcapGeometryState}
    (h : state.status = geometryPending ∨ state.status = geometryRejected)
    : state.settled = false := by
  unfold VcapGeometryState.settled VcapGeometryState.appliedValid
  cases h with
  | inl heq =>
    rw [heq]
    rfl
  | inr heq =>
    rw [heq]
    rfl

theorem coherent_apply (width height : UInt16) (h : card.Coherent)
    : (card.apply width height).Coherent := by
  unfold apply
  split
  . intro _
    rfl
  . exact h

theorem coherent_reject (h : card.Coherent)
    : card.reject.Coherent := by
  unfold reject
  split
  . intro hsettled
    rw [settled_of_status (Or.inr rfl)] at hsettled
    contradiction
  . exact h

end GeometryCard

namespace VideoCard

variable {card card' card'' : VideoCard}

/-- What may have happened to the hardware meanwhile, and to the key of the configuration. -/
structure Follows (card card' : VideoCard) : Prop where
  fwVersion : card'.fwVersion = card.fwVersion
  fwCaps : card'.fwCaps = card.fwCaps
  capability : card'.phase.capability = card.phase.capability
  crop : card.crop.request = none →
    card'.crop.request = none ∧ card'.crop.appliedRaw = card.crop.appliedRaw
  phase : card.phase.state.busy = false →
    card'.phase.state.busy = false ∧ card'.phase.state.applied = card.phase.state.applied
  requestedWidth : card'.geometry.state.requestedWidth = card.geometry.state.requestedWidth
  requestedHeight : card'.geometry.state.requestedHeight = card.geometry.state.requestedHeight
  geometry : card.geometry.state.pending = false →
    card'.geometry.state = card.geometry.state ∧ card'.geometry.window = card.geometry.window
  coherent : card.geometry.Coherent → card'.geometry.Coherent

theorem Follows.refl (card : VideoCard)
    : Follows card card where
  fwVersion := rfl
  fwCaps := rfl
  capability := rfl
  crop := fun h => ⟨h, rfl⟩
  phase := fun h => ⟨h, rfl⟩
  requestedWidth := rfl
  requestedHeight := rfl
  geometry := fun _ => ⟨rfl, rfl⟩
  coherent := fun h => h

theorem Follows.trans (h : Follows card card') (h' : Follows card' card'')
    : Follows card card'' where
  fwVersion := by rw [h'.fwVersion, h.fwVersion]
  fwCaps := by rw [h'.fwCaps, h.fwCaps]
  capability := by rw [h'.capability, h.capability]
  crop := by
    intro hidle
    have h₁ := h.crop hidle
    have h₂ := h'.crop h₁.1
    exact ⟨h₂.1, by rw [h₂.2, h₁.2]⟩
  phase := by
    intro hidle
    have h₁ := h.phase hidle
    have h₂ := h'.phase h₁.1
    exact ⟨h₂.1, by rw [h₂.2, h₁.2]⟩
  requestedWidth := by rw [h'.requestedWidth, h.requestedWidth]
  requestedHeight := by rw [h'.requestedHeight, h.requestedHeight]
  geometry := by
    intro hidle
    have h₁ := h.geometry hidle
    have h₂ := h'.geometry (by rw [h₁.1]; exact hidle)
    exact ⟨by rw [h₂.1, h₁.1], by rw [h₂.2, h₁.2]⟩
  coherent := fun hcoherent => h'.coherent (h.coherent hcoherent)

theorem follows_crop {crop : LiveCard}
    (h : card.crop.request = none → crop.request = none ∧ crop.appliedRaw = card.crop.appliedRaw)
    : Follows card { card with crop } :=
  { Follows.refl card with crop := h }

theorem crop_complete {raw : UInt32 → UInt32} {crop : LiveCard} (h : crop.request = none)
    : crop.complete raw = crop := by
  unfold LiveCard.complete
  rw [h]

theorem follows_event (e : VideoEvent)
    : Follows card (card.event e) := by
  cases e with
  | cropApply effectiveCrop =>
    apply follows_crop
    intro h
    simp only [LiveCard.event, crop_complete h]
    exact ⟨h, trivial⟩
  | cropReject =>
    apply follows_crop
    intro h
    simp only [LiveCard.event, crop_complete h]
    exact ⟨h, trivial⟩
  | signal standardValid ntsc appliedValid replaces =>
    apply follows_crop
    intro h
    exact ⟨h, rfl⟩
  | phase status =>
    exact { Follows.refl card with
      capability := card.phase.capability_advance status
      phase := PhaseCard.advance_of_not_busy status }
  | clock raw =>
    exact { Follows.refl card with phase := fun h => ⟨h, rfl⟩ }
  | windowApply width height =>
    have hidle (h : card.geometry.state.pending = false)
        : card.geometry.apply width height = card.geometry := by
      unfold GeometryCard.apply
      rw [if_neg (by simp [h])]
    refine { Follows.refl card with
      requestedWidth := ?_
      requestedHeight := ?_
      geometry := ?_
      coherent := GeometryCard.coherent_apply width height }
    . simp only [event, GeometryCard.apply]
      split <;> rfl
    . simp only [event, GeometryCard.apply]
      split <;> rfl
    . intro h
      simp only [event, hidle h]
      exact ⟨trivial, trivial⟩
  | windowReject =>
    have hidle (h : card.geometry.state.pending = false)
        : card.geometry.reject = card.geometry := by
      unfold GeometryCard.reject
      rw [if_neg (by simp [h])]
    refine { Follows.refl card with
      requestedWidth := ?_
      requestedHeight := ?_
      geometry := ?_
      coherent := GeometryCard.coherent_reject }
    . simp only [event, GeometryCard.reject]
      split <;> rfl
    . simp only [event, GeometryCard.reject]
      split <;> rfl
    . intro h
      simp only [event, hidle h]
      exact ⟨trivial, trivial⟩
  | present present =>
    exact { Follows.refl card with }

theorem key_event (e : VideoEvent)
    : (card.event e).geometry.key = card.geometry.key := by
  cases e with
  | windowApply width height =>
    simp only [event, GeometryCard.apply]
    split <;> rfl
  | windowReject =>
    simp only [event, GeometryCard.reject]
    split <;> rfl
  | _ => rfl

theorem follows_events (es : List VideoEvent)
    : Follows card (card.events es) ∧ (card.events es).geometry.key = card.geometry.key := by
  unfold events
  induction es generalizing card with
  | nil => exact ⟨.refl card, rfl⟩
  | cons e es ih =>
    have hrest := @ih (card.event e)
    exact ⟨(follows_event e).trans hrest.1, by rw [List.foldl_cons, hrest.2, key_event]⟩

/-- A query only changes the key. -/
theorem write_configKey (key : UInt16) (card : VideoCard)
    : card.write regConfigKey key = { card with geometry := { card.geometry with key } } := by
  rfl

theorem follows_configKey (key : UInt16) (card : VideoCard)
    : Follows card (card.write regConfigKey key) := by
  rw [write_configKey]
  exact { Follows.refl card with }

@[simp]
theorem register_captureCap (card : VideoCard)
    : card.register captureCapReg = (card.phase.capability >>> 16).toUInt16 := by
  rfl

@[simp]
theorem register_captureCap_low (card : VideoCard)
    : card.register (captureCapReg + 2) = card.phase.capability.toUInt16 := by
  rfl

@[simp]
theorem register_phaseStatus (card : VideoCard)
    : card.register capturePhaseStatusReg = 0 := by
  show (vcapWord 0 card.phase.status >>> 16).toUInt16 = 0
  exact toUInt16_vcapWord_shiftRight

@[simp]
theorem register_phaseStatus_low (card : VideoCard)
    : card.register (capturePhaseStatusReg + 2) = card.phase.status := by
  show (vcapWord 0 card.phase.status).toUInt16 = card.phase.status
  exact toUInt16_vcapWord

@[simp]
theorem register_configKey (card : VideoCard)
    : card.register regConfigKey = card.geometry.value := by
  rfl

theorem register_live (card : VideoCard)
    : card.register (vcapLiveStatus + 2) = card.crop.statusLo
        ∧ card.register vcapLiveAppliedRaw = (card.crop.appliedRaw >>> 16).toUInt16
        ∧ card.register (vcapLiveAppliedRaw + 2) = card.crop.appliedRaw.toUInt16 := by
  exact ⟨rfl, rfl, rfl⟩

end VideoCard

end ZZTop
