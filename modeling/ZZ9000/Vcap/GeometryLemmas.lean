import ZZ9000.Vcap.Geometry
import ZZ9000.Vcap.PhaseLemmas

/-!
This module contains the rules for the client of the capture window, which are those for the phase
with the state of the window in place of the one of the engine.
-/

namespace ZZVcap

open Concurrency
open Concurrency.Coroutine

namespace VcapGeometryState

variable {state : VcapGeometryState} {width height : UInt16}

/-- The state is done with the request for such a window. -/
structure Done (width height : UInt16) (state : VcapGeometryState) : Prop where
  settled : state.settled = true
  rejected : state.rejected = false
  requests : state.requests width height = true

theorem done_of_check (h : state.check width height = .ok)
    : state.Done width height := by
  unfold check at h
  split at h
  . contradiction
  . next hrejected =>
    split at h
    . contradiction
    . next hsettled =>
      split at h
      . next hrequests =>
        exact ⟨by simpa using hsettled, by simpa using hrejected, hrequests⟩
      . contradiction

theorem done_of_outcome {serial expected : UInt16}
    (h : state.outcome width height serial expected = some .ok)
    : state.Done width height := by
  unfold outcome at h
  split at h
  . contradiction
  . next hrejected =>
    split at h
    . contradiction
    . split at h
      . next hdone =>
        simp only [Bool.and_eq_true, beq_iff_eq, Bool.not_eq_true'] at hdone
        split at h
        . next hrequests =>
          refine ⟨?_, by simpa using hrejected, hrequests⟩
          unfold settled
          simp [hdone]
        . contradiction
      . contradiction

theorem pending_of_settled (h : state.settled = true)
    : state.pending = false := by
  unfold settled at h
  simp only [Bool.and_eq_true, Bool.not_eq_true'] at h
  exact h.1.2

end VcapGeometryState

namespace VcapIo

variable {σ μ ω ρ : Type} {C : Contract σ μ ω} {P : σ → Prop} {io : VcapIo (Coroutine σ μ ω ρ)}

/-- What a result of the client says about the capture window. -/
def Shows (P : σ → Prop) (ack : VcapGeometryState → σ → Prop) (width height : UInt16)
    (r : VcapResult) (s : σ) : Prop :=
  P s ∧ (r = .ok → ∃ state : VcapGeometryState, state.Done width height ∧ ack state s)

/-- What a state of the capture window that was read says. -/
def GeometryReads (P : σ → Prop) (ack : VcapGeometryState → σ → Prop)
    (r : Except VcapResult VcapGeometryState) (s : σ) : Prop :=
  P s ∧
    match r with
    | .error result => result ≠ .ok
    | .ok state => ack state s

variable {ack : VcapGeometryState → σ → Prop}
  (hread : Triple C P io.geometryRead (GeometryReads P ack))

include hread

theorem triple_geometryCheck (width height : UInt16)
    : Triple C P (io.geometryCheck width height) (Shows P ack width height) := by
  apply triple_bind hread
  intro r
  cases r with
  | error result =>
    apply triple_pure
    intro s hs
    exact ⟨hs.1, fun hr => absurd hr hs.2⟩
  | ok state =>
    apply triple_pure
    intro s hs
    refine ⟨hs.1, ?_⟩
    intro hcheck
    exact ⟨state, VcapGeometryState.done_of_check hcheck, hs.2⟩

theorem triple_geometryWait (hio : Keeps C P io) (width height serial expected : UInt16)
    (restoring : Bool) (ticks : Nat)
    : Triple C P (io.geometryWait width height serial expected restoring ticks)
        (Shows P ack width height) := by
  induction ticks with
  | zero =>
    apply triple_pure
    intro s hs
    exact ⟨hs, by simp⟩
  | succ ticks ih =>
    apply triple_bind (triple_keepRunningOr hio restoring)
    intro running
    apply triple_ite
    . intro _
      apply triple_bind hread
      intro r
      cases r with
      | error result =>
        apply triple_pure
        intro s hs
        exact ⟨hs.1, fun hr => absurd hr hs.2⟩
      | ok state =>
        dsimp only
        cases houtcome : state.outcome width height serial expected with
        | some result =>
          apply triple_pure
          intro s hs
          refine ⟨hs.1, ?_⟩
          intro hr
          rw [hr] at houtcome
          exact ⟨state, VcapGeometryState.done_of_outcome houtcome, hs.2⟩
        | none =>
          apply triple_of_pre (K := P) fun s hs => hs.1
          apply triple_bind hio.delay
          intro _
          exact ih
    . intro _
      apply triple_pure
      intro s hs
      exact ⟨hs, by simp⟩

/-- A request that succeeds is done. One that is done already is not made again. -/
theorem triple_geometryApply {width height : UInt16} (hio : Keeps C P io)
    (hkeep : ∀ before restoring, Triple C (fun s => P s ∧ ack before s)
      (io.keepRunningOr restoring) (fun _ s => P s ∧ ack before s))
    (hregisters : ∀ before, Triple C (fun s => P s ∧ ack before s) io.dedicatedRegisters
      (fun _ s => P s ∧ ack before s))
    (hwrite : ∀ before : VcapGeometryState, ¬before.Done width height → ∀ registers,
      Triple C (fun s => P s ∧ ack before s) (io.writeRequest registers width height) (fun _ => P))
    (restoring : Bool)
    : Triple C P (io.geometryApply width height restoring) (Shows P ack width height) := by
  unfold geometryApply
  apply triple_ite
  . intro _
    apply triple_bind hread
    intro r
    cases r with
    | error result =>
      apply triple_pure
      intro s hs
      exact ⟨hs.1, fun hr => absurd hr hs.2⟩
    | ok before =>
      apply triple_bind (hkeep before restoring)
      intro running
      apply triple_ite
      . intro _
        unfold geometryRequest
        apply triple_ite
        . intro hdone
          simp only [Bool.and_eq_true, Bool.not_eq_true'] at hdone
          apply triple_pure
          intro s hs
          exact ⟨hs.1, fun _ => ⟨before, ⟨hdone.1.1, hdone.1.2, hdone.2⟩, hs.2⟩⟩
        . intro hnot
          have hfresh : ¬before.Done width height := by
            intro hdone
            apply hnot
            simp [hdone.settled, hdone.rejected, hdone.requests]
          apply triple_bind (hregisters before)
          intro registers
          apply triple_bind (hwrite before hfresh registers)
          intro _
          exact triple_geometryWait hread hio _ _ _ _ _ _
      . intro _
        apply triple_pure
        intro s hs
        exact ⟨hs.1, by simp⟩
  . intro _
    apply triple_pure
    intro s hs
    exact ⟨hs, by simp⟩

end VcapIo

end ZZVcap
