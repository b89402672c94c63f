import ZZ9000.Concurrency.Observed
import ZZ9000.Vcap.Phase

/-!
This module contains the rules for a client whose accesses come after whatever has happened on the
card since the one before.
-/

namespace ZZVcap

open Concurrency
open Concurrency.Coroutine

variable {σ ε ρ : Type} {assume assert : Empty → σ → Prop} {R : σ → σ → Prop}
  {register : UInt32 → σ → UInt16} {write : UInt32 → UInt16 → σ → σ}

/-- Each access sees the card as it is then, and nothing else changes it but what `R` allows. -/
structure Drives (assume assert : Empty → σ → Prop) (R : σ → σ → Prop)
    (register : UInt32 → σ → UInt16) (write : UInt32 → UInt16 → σ → σ)
    (io : VcapIo (Coroutine σ Empty Empty ρ)) : Prop where
  read : ∀ {I : σ → Prop}, Lasting R I → ∀ offset,
    Triple (.solo assume assert) I (io.read16 offset) (fun v s => I s ∧ v = register offset s)
  write : ∀ {I J : σ → Prop}, Lasting R I → ∀ offset value,
    (∀ s, I s → J (write offset value s)) →
      Triple (.solo assume assert) I (io.write16 offset value) (fun _ => J)
  delay : ∀ {I : σ → Prop}, Lasting R I →
    Triple (.solo assume assert) I io.delay (fun _ => I)
  running : ∀ {I : σ → Prop}, Lasting R I →
    Triple (.solo assume assert) I io.keepRunning (fun _ => I)

variable {io : VcapIo (Coroutine σ Empty Empty ρ)}

/-- The halves of a register are read at two moments. -/
theorem Drives.read32 {event : σ → ε → σ} (hio : Drives assume assert R register write io)
    (hR : Course event R) {I : σ → Prop} (hI : Lasting R I) (offset : UInt32)
    : Triple (.solo assume assert) I (io.read32 offset)
        (fun v s => I s ∧ ∃ first, I first ∧ R first s
          ∧ v = vcapWord (register offset first) (register (offset + 2) s)) := by
  apply triple_bind (hio.read hI offset)
  intro high
  apply triple_of_pre (K := fun s => ∃ first, I s ∧ I first ∧ R first s
    ∧ high = register offset first)
  . intro s hs
    exact ⟨s, hs.1, hs.1, hR.refl s, hs.2⟩
  . apply triple_exists
    intro first
    have hlasting : Lasting R (fun s => I s ∧ I first ∧ R first s
        ∧ high = register offset first) := by
      intro s s' hlater h
      exact ⟨hI s s' hlater h.1, h.2.1, hR.trans _ _ _ h.2.2.1 hlater, h.2.2.2⟩
    apply triple_bind (hio.read hlasting (offset + 2))
    intro low
    apply triple_pure
    intro s hs
    refine ⟨hs.1.1, first, hs.1.2.1, hs.1.2.2.1, ?_⟩
    rw [hs.1.2.2.2, hs.2]

theorem Drives.keepRunningOr (hio : Drives assume assert R register write io) {I : σ → Prop}
    (hI : Lasting R I) (restoring : Bool)
    : Triple (.solo assume assert) I (io.keepRunningOr restoring) (fun _ => I) := by
  apply triple_ite
  . intro _
    apply triple_pure
    intro s hs
    exact hs
  . intro _
    exact hio.running hI

end ZZVcap
