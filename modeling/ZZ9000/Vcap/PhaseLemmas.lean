import ZZ9000.Concurrency.Exits
import ZZ9000.Vcap.Capture

/-!
This module contains the rules for the capture client: what its functions keep if the accesses to the
card keep it, and what they know about the phase where they succeed.
-/

namespace ZZVcap

open Concurrency
open Concurrency.Coroutine

variable {σ μ ω ρ : Type} {C : Contract σ μ ω} {P : σ → Prop}

namespace VcapIo

variable {io : VcapIo (Coroutine σ μ ω ρ)}

/-- What the client does besides writing to registers keeps `P`. -/
structure Keeps (C : Contract σ μ ω) (P : σ → Prop) (io : VcapIo (Coroutine σ μ ω ρ)) : Prop where
  read16 : ∀ offset, Triple C P (io.read16 offset) (fun _ => P)
  delay : Triple C P io.delay (fun _ => P)
  keepRunning : Triple C P io.keepRunning (fun _ => P)

theorem triple_read32_of {offset : UInt32} (hhigh : Triple C P (io.read16 offset) (fun _ => P))
    (hlow : Triple C P (io.read16 (offset + 2)) (fun _ => P))
    : Triple C P (io.read32 offset) (fun _ => P) := by
  apply triple_bind hhigh
  intro _
  apply triple_bind hlow
  intro _
  apply triple_pure
  intro s hs
  exact hs

section Keeps

variable (hio : Keeps C P io)

include hio

theorem triple_read32 (offset : UInt32)
    : Triple C P (io.read32 offset) (fun _ => P) :=
  triple_read32_of (hio.read16 offset) (hio.read16 (offset + 2))

theorem triple_readStable (offset : UInt32)
    : Triple C P (io.readStable offset) (fun _ => P) := by
  unfold readStable
  apply triple_mono (K := P) (triple_attempts (J := fun _ => P) _ _)
  . intro s hs
    exact hs
  . intro r s hs
    cases r with
    | none => exact hs.1 rfl
    | some value => exact hs.2 value rfl
  . apply triple_bind (triple_read32 hio offset)
    intro _
    apply triple_bind (triple_read32 hio offset)
    intro _
    apply triple_pure
    intro s hs
    exact ⟨fun _ => hs, fun _ _ => hs⟩

theorem exit_stable (offset : UInt32)
    : ExitTriple C P (io.stable offset) (fun _ => P) (fun _ => P) := by
  apply exit_bind (exit_lift (triple_readStable hio offset))
  intro r
  cases r with
  | none =>
    apply exit_throw
    intro s hs
    exact hs
  | some value =>
    apply exit_pure
    intro s hs
    exact hs

theorem triple_keepRunningOr (restoring : Bool)
    : Triple C P (io.keepRunningOr restoring) (fun _ => P) := by
  apply triple_ite
  . intro _
    apply triple_pure
    intro s hs
    exact hs
  . intro _
    exact hio.keepRunning

end Keeps

/-- What was not refused goes on. -/
theorem exit_refuse {f : Unit → ExceptT VcapResult (Coroutine σ μ ω ρ) α} {I : σ → Prop}
    {J : α → σ → Prop} {E : VcapResult → σ → Prop} {failed : Bool} {result : VcapResult}
    (hE : ∀ s, I s → E result s) (hf : failed = false → ExitTriple C I (f ()) J E)
    : ExitTriple C I (refuse failed result >>= f) J E := by
  unfold refuse
  cases failed with
  | true =>
    apply exit_bind (J := fun _ _ => False)
    . apply exit_throw
      exact hE
    . intro _ s₀ s _ hs
      contradiction
  | false =>
    apply exit_bind (J := fun _ => I)
    . apply exit_pure
      intro s hs
      exact hs
    . intro _
      exact hf rfl

theorem exit_proceed {c : Coroutine σ μ ω ρ VcapResult} {I J : σ → Prop} {E : VcapResult → σ → Prop}
    (hc : Triple C I c (fun r s => (r = .ok → J s) ∧ E r s))
    : ExitTriple C I (proceed c) (fun _ => J) E := by
  apply exit_bind (exit_lift hc)
  intro r
  apply exit_ite
  . intro hr
    apply exit_pure
    intro s hs
    exact hs.1 hr
  . intro _
    apply exit_throw
    intro s hs
    exact hs.2

/-- A settled state that was read is acknowledged. -/
def Reads (P : σ → Prop) (ack : Int → σ → Prop) (r : Except VcapResult VcapPhaseState) (s : σ)
    : Prop :=
  P s ∧
    match r with
    | .error result => result ≠ .ok
    | .ok state => ∀ target, state.settledAt target = true → ack target s

structure Acknowledges (C : Contract σ μ ω) (P : σ → Prop) (ack : Int → σ → Prop)
    (io : VcapIo (Coroutine σ μ ω ρ)) : Prop extends Keeps C P io where
  phaseRead : Triple C P io.phaseRead (Reads P ack)

/-- The registers that a request for a phase writes to. -/
def phaseRegs : List UInt32 := [capturePhaseTargetReg, capturePhaseCommitReg]

/-- What a result of the client says about a phase. -/
def Confirms (P : σ → Prop) (ack : Int → σ → Prop) (target : Int) (r : VcapResult) (s : σ) : Prop :=
  (r = .ok → P s ∧ ack target s) ∧ P s

theorem settledAt_of_check {state : VcapPhaseState} {target : Int} (h : state.check target = .ok)
    : state.settledAt target = true := by
  unfold VcapPhaseState.check at h
  unfold VcapPhaseState.settledAt
  split at h
  . contradiction
  . split at h
    . contradiction
    . split at h
      . contradiction
      . split at h
        . contradiction
        . split at h
          . contradiction
          . next hbusy herror hsettled =>
            simp only [Bool.or_eq_true, Bool.not_eq_true', bne_iff_ne, not_or, not_not,
              Bool.not_eq_false] at hsettled
            simp [hsettled, hbusy, herror]

section Acknowledges

variable {ack : Int → σ → Prop} (hio : Acknowledges C P ack io)

include hio

theorem triple_phaseCheck (target : Int)
    : Triple C P (io.phaseCheck target) (Confirms P ack target) := by
  unfold phaseCheck
  apply triple_bind hio.phaseRead
  intro r
  cases r with
  | error result =>
    apply triple_pure
    intro s hs
    exact ⟨fun hr => absurd hr hs.2, hs.1⟩
  | ok state =>
    apply triple_pure
    intro s hs
    exact ⟨fun hcheck => ⟨hs.1, hs.2 target (settledAt_of_check hcheck)⟩, hs.1⟩

theorem triple_phaseWaitDone (target : Int) (restoring : Bool) (ticks : Nat)
    : Triple C P (io.phaseWaitDone target restoring ticks) (Confirms P ack target) := by
  induction ticks with
  | zero =>
    apply triple_pure
    intro s hs
    exact ⟨by simp, hs⟩
  | succ ticks ih =>
    apply triple_bind hio.phaseRead
    intro r
    cases r with
    | error result =>
      apply triple_pure
      intro s hs
      exact ⟨fun hr => absurd hr hs.2, hs.1⟩
    | ok state =>
      apply triple_ite
      . intro hsettled
        apply triple_pure
        intro s hs
        exact ⟨fun _ => ⟨hs.1, hs.2 target hsettled⟩, hs.1⟩
      . intro _
        apply triple_of_pre (K := P)
        . intro s hs
          exact hs.1
        . apply triple_bind (triple_keepRunningOr hio.toKeeps restoring)
          intro running
          apply triple_ite
          . intro _
            apply triple_bind hio.delay
            intro _
            exact ih
          . intro _
            apply triple_pure
            intro s hs
            exact ⟨by simp, hs⟩

theorem triple_phaseWaitIdle (restoring : Bool) (ticks : Nat)
    : Triple C P (io.phaseWaitIdle restoring ticks)
        (fun r s => P s ∧ r ≠ .error .ok) := by
  induction ticks with
  | zero =>
    apply triple_pure
    intro s hs
    exact ⟨hs, by simp⟩
  | succ ticks ih =>
    apply triple_bind hio.phaseRead
    intro r
    cases r with
    | error result =>
      apply triple_pure
      intro s hs
      exact ⟨hs.1, by simpa using hs.2⟩
    | ok state =>
      apply triple_of_pre (K := P)
      . intro s hs
        exact hs.1
      . apply triple_ite
        . intro _
          apply triple_bind (triple_keepRunningOr hio.toKeeps restoring)
          intro running
          apply triple_ite
          . intro _
            apply triple_bind hio.delay
            intro _
            exact ih
          . intro _
            apply triple_pure
            intro s hs
            exact ⟨hs, by simp⟩
        . intro _
          apply triple_pure
          intro s hs
          exact ⟨hs, by simp⟩

/-- A request that succeeds has been acknowledged. -/
theorem triple_phaseApply
    (hwrite : ∀ offset ∈ phaseRegs, ∀ value, Triple C P (io.write16 offset value) (fun _ => P))
    (target : Int) (restoring : Bool)
    : Triple C P (io.phaseApply target restoring) (Confirms P ack target) := by
  apply triple_bind hio.phaseRead
  intro r
  cases r with
  | error result =>
    apply triple_pure
    intro s hs
    exact ⟨fun hr => absurd hr hs.2, hs.1⟩
  | ok state =>
    apply triple_of_pre (K := P)
    . intro s hs
      exact hs.1
    . apply triple_ite
      . intro _
        apply triple_pure
        intro s hs
        exact ⟨by simp, hs⟩
      . intro _
        apply triple_bind (triple_phaseWaitIdle hio restoring _)
        intro r
        cases r with
        | error result =>
          apply triple_pure
          intro s hs
          exact ⟨fun hr => absurd (congrArg Except.error hr) hs.2, hs.1⟩
        | ok state =>
          apply triple_of_pre (K := P)
          . intro s hs
            exact hs.1
          . unfold phaseRequest
            apply triple_ite
            . intro _
              apply triple_pure
              intro s hs
              exact ⟨by simp, hs⟩
            . intro _
              apply triple_ite
              . intro _
                apply triple_pure
                intro s hs
                exact ⟨by simp, hs⟩
              . intro _
                apply triple_bind (hwrite _ (by simp [phaseRegs]) _)
                intro _
                apply triple_bind (hwrite _ (by simp [phaseRegs]) _)
                intro _
                apply triple_bind hio.delay
                intro _
                exact triple_phaseWaitDone hio target restoring _

theorem exit_requirePhase (context : VcapCaptureContext)
    : ExitTriple C P (io.requirePhase context)
        (fun _ s => P s ∧ (context.requirePhase = true → ack context.phase s)) (fun _ => P) := by
  apply exit_ite
  . intro _
    apply exit_proceed
    apply triple_mono (K := P) (triple_phaseCheck hio _)
    . intro s hs
      exact hs
    . intro r s hr
      refine ⟨?_, hr.2⟩
      intro heq
      have := hr.1 heq
      exact ⟨this.1, fun _ => this.2⟩
  . intro hno
    apply exit_pure
    intro s hs
    exact ⟨hs, fun h => absurd h hno⟩

theorem exit_requirePhase_of (context : VcapCaptureContext)
    : ExitTriple C P (io.requirePhase context) (fun _ => P) (fun _ => P) := by
  apply triple_mono (K := P) (exit_requirePhase hio context)
  . intro s hs
    exact hs
  . intro r s hr
    cases r with
    | ok _ => exact hr.1
    | error _ => exact hr

theorem exit_captureAwait (context : VcapCaptureContext) (before : UInt32) (ticks : Nat)
    : ExitTriple C P (io.captureAwait context before ticks) (fun _ => P) (fun _ => P) := by
  induction ticks with
  | zero =>
    apply exit_throw
    intro s hs
    exact hs
  | succ ticks ih =>
    apply exit_bind (exit_lift hio.keepRunning)
    intro running
    refine exit_refuse (fun s hs => hs) fun _ => ?_
    apply exit_bind (exit_requirePhase_of hio context)
    intro _
    apply exit_bind (exit_stable hio.toKeeps _)
    intro status
    apply exit_ite
    . intro _
      apply exit_pure
      intro s hs
      exact hs
    . intro _
      apply exit_bind (exit_lift hio.delay)
      intro _
      exact ih

theorem triple_captureBlock {addressReg : UInt32}
    (hwrite : ∀ value, Triple C P (io.write16 addressReg value) (fun _ => P)) (dataReg : UInt32)
    (i n : Nat)
    : Triple C P (io.captureBlock addressReg dataReg i n) (fun _ => P) := by
  induction n generalizing i with
  | zero =>
    apply triple_pure
    intro s hs
    exact hs
  | succ n ih =>
    apply triple_bind (hwrite _)
    intro _
    apply triple_bind (triple_read32 hio.toKeeps _)
    intro _
    apply triple_bind (ih _)
    intro _
    apply triple_pure
    intro s hs
    exact hs

end Acknowledges

/-- The registers that a capture writes to. -/
def captureRegs : List UInt32 := [captureArmReg, captureAddressReg, captureMetadataAddrReg]

/-- A capture keeps `P`, and the phase that it was asked to require is acknowledged at its end. -/
theorem exit_capture {ack : Int → σ → Prop} (hio : Acknowledges C P ack io)
    (hwrite : ∀ offset ∈ captureRegs, ∀ value, Triple C P (io.write16 offset value) (fun _ => P))
    {context : VcapCaptureContext}
    (hgeometry : ∀ offset ∈ [captureGeometryReg, captureGeometryReg + 2],
      Triple C (fun s => P s ∧ (context.requirePhase = true → ack context.phase s))
        (io.read16 offset)
        (fun _ s => P s ∧ (context.requirePhase = true → ack context.phase s)))
    (metadata : Bool)
    : ExitTriple C P (io.capture context metadata)
        (fun _ s => P s ∧ (context.requirePhase = true → ack context.phase s)) (fun _ => P) := by
  have hkeeps := hio.toKeeps
  have hcapability : ExitTriple C P io.captureCapability (fun _ => P) (fun _ => P) := by
    apply exit_bind (exit_lift (triple_read32 hkeeps _))
    intro _
    refine exit_refuse (fun s hs => hs) fun _ => ?_
    apply exit_bind (exit_lift (triple_read32 hkeeps _))
    intro _
    refine exit_refuse (fun s hs => hs) fun _ => ?_
    apply exit_pure
    intro s hs
    exact hs
  have hdata (status geometry : UInt32)
      : Triple C P (io.captureData status geometry metadata) (fun _ => P) := by
    apply triple_bind (triple_captureBlock hio (hwrite _ (by simp [captureRegs])) _ _ _)
    intro _
    apply triple_bind (triple_captureBlock hio (hwrite _ (by simp [captureRegs])) _ _ _)
    intro _
    apply triple_pure
    intro s hs
    exact hs
  unfold capture
  apply exit_bind hcapability
  intro domain
  refine exit_refuse (fun s hs => hs) fun _ => ?_
  apply exit_bind (exit_requirePhase_of hio context)
  intro _
  apply exit_bind (exit_stable hkeeps _)
  intro before
  refine exit_refuse (fun s hs => hs) fun _ => ?_
  apply exit_bind (exit_lift (hwrite _ (by simp [captureRegs]) _))
  intro _
  apply exit_bind (exit_captureAwait hio context before _)
  intro status
  apply exit_bind (exit_lift (triple_read32 hkeeps _))
  intro geometry
  refine exit_refuse (fun s hs => hs) fun _ => ?_
  refine exit_refuse (fun s hs => hs) fun _ => ?_
  apply exit_bind (exit_lift (hdata status geometry))
  intro data
  apply exit_bind (exit_stable hkeeps _)
  intro after
  apply exit_bind (exit_requirePhase hio context)
  intro _
  refine exit_refuse (fun s hs => hs.1) fun _ => ?_
  apply exit_bind (exit_lift (triple_read32_of (hgeometry _ (by simp)) (hgeometry _ (by simp))))
  intro geometryAfter
  refine exit_refuse (fun s hs => hs.1) fun _ => ?_
  apply exit_pure
  intro s hs
  exact hs

end VcapIo

end ZZVcap
