import Mathlib.Tactic.IntervalCases
import ZZ9000.Vcap.Client

/-!
This module contains what the two 16-bit halves of a capture register say about its fields, and
which fields of a control its packed word keeps.
-/

namespace ZZVcap

variable {high low high' low' : UInt16}

theorem toUInt16_vcapWord
    : (vcapWord high low).toUInt16 = low := by
  apply UInt16.toBitVec_inj.mp
  apply BitVec.eq_of_getLsbD_eq
  intro i hi
  interval_cases i <;> simp [vcapWord]

theorem toUInt16_vcapWord_shiftRight
    : (vcapWord high low >>> 16).toUInt16 = high := by
  apply UInt16.toBitVec_inj.mp
  apply BitVec.eq_of_getLsbD_eq
  intro i hi
  interval_cases i <;> simp [vcapWord]

theorem vcapWord_inj (h : vcapWord high low = vcapWord high' low')
    : high = high' ∧ low = low' := by
  constructor
  . have hhigh : (vcapWord high low >>> 16).toUInt16 = high := toUInt16_vcapWord_shiftRight
    rw [← hhigh, h]
    exact toUInt16_vcapWord_shiftRight
  . have hlow : (vcapWord high low).toUInt16 = low := toUInt16_vcapWord
    rw [← hlow, h]
    exact toUInt16_vcapWord

theorem toNat_vcapWord (high low : UInt16)
    : (vcapWord high low).toNat = high.toNat * 65536 + low.toNat := by
  have hhigh := high.toNat_lt
  have hlow := low.toNat_lt
  unfold vcapWord
  rw [UInt32.toNat_or, UInt32.toNat_shiftLeft]
  simp only [UInt16.toNat_toUInt32, UInt32.reduceToNat, Nat.reduceMod, Nat.shiftLeft_eq,
    Nat.reducePow]
  rw [Nat.mod_eq_of_lt (by omega), show (65536 : Nat) = 2 ^ 16 from rfl,
    Nat.mul_comm high.toNat, ← Nat.two_pow_add_eq_or_of_lt hlow]

/-- A register that does not change between its halves is read as it is. -/
theorem vcapWord_halves (raw : UInt32)
    : vcapWord (raw >>> 16).toUInt16 raw.toUInt16 = raw := by
  have hraw := raw.toNat_lt
  rw [← UInt32.toNat_inj, toNat_vcapWord, UInt32.toNat_toUInt16, UInt32.toNat_toUInt16,
    UInt32.toNat_shiftRight]
  simp only [UInt32.reduceToNat, Nat.reduceMod, Nat.shiftRight_eq_div_pow, Nat.reducePow]
  omega

theorem vcapWord_and_one
    : vcapWord high low &&& 1 = (low &&& 1).toUInt32 := by
  apply UInt32.toBitVec_inj.mp
  apply BitVec.eq_of_getLsbD_eq
  intro i hi
  interval_cases i <;> simp [vcapWord]

theorem busy_vcapWord
    : (vcapStatusUnpack (vcapWord high low)).busy = (low &&& 1 != 0) := by
  unfold vcapStatusUnpack vcapStatusBusy
  dsimp only
  rw [vcapWord_and_one]
  rw [Bool.eq_iff_iff, bne_iff_ne, bne_iff_ne, not_iff_not]
  constructor
  . intro h
    have := congrArg UInt32.toUInt16 h
    simpa using this
  . intro h
    rw [h]
    rfl

theorem vcapSnapshotOf_eq_some {before raw crop after : UInt32} {out : VcapSnapshot}
    (h : vcapSnapshotOf before raw crop after = some out)
    : before = after ∧ (vcapStatusUnpack before).settled = true ∧ out.status = after
        ∧ out.raw = raw := by
  unfold vcapSnapshotOf at h
  split at h
  . next hvalid =>
    simp only [vcapSnapshotStatusValid, Bool.and_eq_true, beq_iff_eq] at hvalid
    simp only [Option.some.injEq] at h
    rw [← h]
    exact ⟨hvalid.1, hvalid.2, rfl, rfl⟩
  . contradiction

theorem VcapStatus.busy_of_settled {status : VcapStatus} (h : status.settled = true)
    : status.busy = false := by
  simp only [settled, Bool.and_eq_true, Bool.not_eq_true'] at h
  exact h.1.2

theorem appliedRaw_of_vcapRequestResult {status appliedRaw expectedRaw : UInt32} {sequence : UInt8}
    (h : vcapRequestResult status sequence appliedRaw expectedRaw = .applied)
    : appliedRaw = expectedRaw := by
  unfold vcapRequestResult at h
  split at h
  . split at h
    . assumption
    . contradiction
  . contradiction

theorem valid_of_vcapControlUnpack {raw : UInt32} {control : VcapControl}
    (h : vcapControlUnpack raw = some control)
    : control.valid = true := by
  unfold vcapControlUnpack at h
  split at h
  . contradiction
  . next hraw =>
    have hsample := UInt32.le_iff_toNat_le.mp (UInt32.not_lt.mp fun hlt => hraw (Or.inr hlt))
    simp only [Option.some.injEq] at h
    rw [← h]
    have hand (mask value : UInt32) : (value &&& mask).toNat ≤ mask.toNat := by
      rw [UInt32.toNat_and]
      exact Nat.and_le_right
    have hfull := hand 1 (raw >>> 2)
    have hcropH := hand 0x0fff (raw >>> 4)
    have hcropV := hand 0x0fff (raw >>> 16)
    simp only [UInt32.reduceToNat] at hsample hfull hcropH hcropV
    simp only [VcapControl.valid, vcapCropMax, Bool.and_eq_true, decide_eq_true_eq,
      UInt16.le_iff_toNat_le, UInt32.toNat_toUInt16, UInt16.reduceToNat]
    refine ⟨⟨⟨⟨⟨?_, ?_⟩, ?_⟩, ?_⟩, ?_⟩, ?_⟩
    . omega
    . omega
    . omega
    . omega
    . split <;> decide
    . split <;> decide

/-- The flags for an automatic crop are above the sample and the width. -/
theorem vcapCropAutoFlag_low (raw : UInt32)
    : (raw ||| vcapCropHAutoFlag) &&& 7 = raw &&& 7
        ∧ (raw ||| vcapCropVAutoFlag) &&& 7 = raw &&& 7 := by
  constructor
  . apply UInt32.toBitVec_inj.mp
    apply BitVec.eq_of_getLsbD_eq
    intro i hi
    interval_cases i <;> simp [vcapCropHAutoFlag]
  . apply UInt32.toBitVec_inj.mp
    apply BitVec.eq_of_getLsbD_eq
    intro i hi
    interval_cases i <;> simp [vcapCropVAutoFlag]

theorem vcapControlPack_low {control : VcapControl} (hvalid : control.valid = true)
    : vcapControlPack control &&& (7 : UInt32)
        = (control.fullWidth.toUInt32 <<< 2 ||| control.sample.toUInt32) &&& 7 := by
  unfold vcapControlPack
  rw [if_pos hvalid]
  have hcrop (cropV cropH rest : UInt32)
      : (cropV <<< 16 ||| cropH <<< 4 ||| rest) &&& 7 = rest &&& 7 := by
    apply UInt32.toBitVec_inj.mp
    apply BitVec.eq_of_getLsbD_eq
    intro i hi
    interval_cases i <;> simp
  dsimp only
  split
  . rw [(vcapCropAutoFlag_low _).2]
    split
    . rw [(vcapCropAutoFlag_low _).1, UInt32.or_assoc, hcrop]
    . rw [UInt32.or_assoc, hcrop]
  . split
    . rw [(vcapCropAutoFlag_low _).1, UInt32.or_assoc, hcrop]
    . rw [UInt32.or_assoc, hcrop]

theorem controlPath_of_pack {control control' : VcapControl} (hvalid : control.valid = true)
    (h : vcapControlUnpack (vcapControlPack control) = some control')
    : control'.sample = control.sample ∧ control'.fullWidth = control.fullWidth := by
  have hlow := vcapControlPack_low hvalid
  unfold vcapControlUnpack at h
  split at h
  . contradiction
  . simp only [Option.some.injEq] at h
    rw [← h]
    dsimp only
    generalize vcapControlPack control = raw at hlow
    simp only [VcapControl.valid, Bool.and_eq_true, decide_eq_true_eq] at hvalid
    obtain ⟨⟨⟨⟨⟨hsample, hfull⟩, _⟩, _⟩, _⟩, _⟩ := hvalid
    have hsample' : raw &&& 3 = (raw &&& 7 : UInt32) &&& 3 := by
      rw [UInt32.and_assoc]
      rfl
    have hfull' : ((raw >>> 2 : UInt32) &&& 1 : UInt32) = (((raw &&& 7 : UInt32) >>> 2 : UInt32) &&& 1 : UInt32) := by
      apply UInt32.toBitVec_inj.mp
      apply BitVec.eq_of_getLsbD_eq
      intro i hi
      interval_cases i <;> simp
    rw [hsample', hfull', hlow]
    generalize control.sample = sample at *
    generalize control.fullWidth = fullWidth at *
    have hs : sample = 0 ∨ sample = 1 ∨ sample = 2 := by
      have := UInt16.le_iff_toNat_le.mp hsample
      simp only [← UInt16.toNat_inj, UInt16.reduceToNat] at *
      omega
    have hf : fullWidth = 0 ∨ fullWidth = 1 := by
      have := UInt16.le_iff_toNat_le.mp hfull
      simp only [← UInt16.toNat_inj, UInt16.reduceToNat] at *
      omega
    obtain rfl | rfl | rfl := hs <;> obtain rfl | rfl := hf <;> decide

end ZZVcap
