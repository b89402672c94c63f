import ZZ9000.UsbPoseidon.RootHub

/-!
This module determines when the port of the root hub stays coherent: the paths that rewrite it agree
on what its flags mean, except for two resets that succeed on a port which holds no usable device.
-/

namespace ZZUsb

namespace RootHub

structure Coherent (unit : RootHub) : Prop where
  of_dead : unit.portDead = true →
    unit.portPresent = false ∧ unit.portStatus.connection = false
  present_eq : unit.portPresent = unit.portStatus.connection
  connection_of_enable : unit.portStatus.enable = true → unit.portStatus.connection = true
  speed_exclusive : ¬(unit.portStatus.highSpeed = true ∧ unit.portStatus.lowSpeed = true)

theorem coherent_init : init.Coherent := by
  constructor <;> simp [init, PortStatus.powerOnly]

theorem coherent_markDirectLowSpeedUnsupported (unit : RootHub)
    : unit.markDirectLowSpeedUnsupported.Coherent := by
  constructor <;> simp [markDirectLowSpeedUnsupported, PortStatus.powerOnly]

theorem coherent_updatePortState {unit : RootHub} (h : unit.Coherent) (answer : PortAnswer)
    : (unit.updatePortState answer).Coherent := by
  unfold updatePortState
  split
  . split
    . exact h
    . next hdead =>
      split
      . apply coherent_markDirectLowSpeedUnsupported
      . next hlow =>
        dsimp only
        split
        . constructor <;> simp_all [connectedStatus]
        . next hpresent =>
          constructor <;> simp_all [connectedStatus]
  . split
    . dsimp only
      split
      . constructor <;> simp [PortStatus.powerOnly]
      . next habsent =>
        constructor
        . simp
        . exact h.present_eq
        . exact h.connection_of_enable
        . exact h.speed_exclusive
    . exact h

/-- The reset finds a device behind a port that was declared dead. -/
theorem coherent_usbReset_iff {unit : RootHub} (h : unit.Coherent) (answer check : PortAnswer)
    : (unit.usbReset answer check).1.Coherent
        ↔
      ¬(unit.portDead = true ∧ answer.status = EngineStatus.ok ∧ answer.speed ≠ Speed.low) := by
  unfold usbReset
  dsimp only
  split
  . next hok =>
    split
    . next hlow =>
      simp only [hlow, coherent_markDirectLowSpeedUnsupported]
      simp
    . next hlow =>
      constructor
      . intro hcoherent hdead
        have := hcoherent.of_dead hdead.1
        simp at this
      . intro hdead
        have halive : unit.portDead = false := by simp_all
        constructor
        . simp [halive]
        . dsimp only
          split <;> rfl
        . dsimp only
          split <;> simp
        . dsimp only
          split <;> simp [PortStatus.powerOnly]
  . next hok =>
    have hsafe : ¬(unit.portDead = true ∧ answer.status = EngineStatus.ok
        ∧ answer.speed ≠ Speed.low) := by
      simp [hok]
    simp only [hsafe, not_false_eq_true, iff_true]
    split
    . apply coherent_markDirectLowSpeedUnsupported
    . split
      . constructor <;> simp [PortStatus.powerOnly]
      . exact ⟨h.of_dead, h.present_eq, h.connection_of_enable, h.speed_exclusive⟩

/-- The reset enables a port that no device was seen on. -/
theorem coherent_setPortReset_iff {unit : RootHub} (h : unit.Coherent) (answer : PortAnswer)
    : (unit.setPortReset answer).Coherent
        ↔
      ¬(unit.portDead = false ∧ unit.portPresent = false ∧ answer.status = EngineStatus.ok
        ∧ answer.speed ≠ Speed.low) := by
  unfold setPortReset
  split
  . next hdead =>
    simp only [hdead]
    constructor
    . simp
    . intro _
      constructor <;> simp [PortStatus.powerOnly]
  . next hdead =>
    have halive : unit.portDead = false := by simpa using hdead
    dsimp only
    split
    . next hlow =>
      simp only [coherent_markDirectLowSpeedUnsupported, hlow.2]
      simp
    . next hlow =>
      split
      . next hok =>
        have hspeed : answer.speed ≠ Speed.low := by simp_all
        constructor
        . intro hcoherent habsent
          have := hcoherent.connection_of_enable rfl
          rw [h.present_eq] at habsent
          simp_all
        . intro hpresent
          have hconnection : unit.portStatus.connection = true := by
            rw [← h.present_eq]
            simp_all
          constructor
          . simp [halive]
          . exact h.present_eq
          . simp [hconnection]
          . simp [hspeed]
      . next hok =>
        constructor
        . simp [hok]
        . intro _
          constructor
          . simp [halive]
          . exact h.present_eq
          . simp
          . simp

theorem coherent_clearFeature {unit : RootHub} (h : unit.Coherent) (recipient : HubRecipient)
    (port : UInt16) (feature : HubFeature)
    : (unit.clearFeature recipient port feature).1.Coherent := by
  have hchange (portChange : PortChange)
      : Coherent { unit with portChange := portChange } := by
    exact ⟨h.of_dead, h.present_eq, h.connection_of_enable, h.speed_exclusive⟩
  have henable : Coherent { unit with portStatus := { unit.portStatus with enable := false } } := by
    exact ⟨h.of_dead, h.present_eq, by simp, h.speed_exclusive⟩
  unfold clearFeature
  cases recipient with
  | device => exact h
  | unknown => exact h
  | other =>
    dsimp only
    split
    . cases feature with
      | portEnable => exact henable
      | cPortConnection | cPortEnable | cPortReset | cPortSuspend | cPortOverCurrent =>
        apply hchange
      | _ => exact h
    . exact h

end RootHub

/-- A step that does not succeed in resetting a port without a usable device. -/
def PortOp.Safe (op : PortOp) (unit : RootHub) : Prop :=
  match op with
  | .update _ => True
  | .usbReset answer _ =>
    ¬(unit.portDead = true ∧ answer.status = EngineStatus.ok ∧ answer.speed ≠ Speed.low)
  | .setFeature recipient port feature answer =>
    recipient = .other ∧ port = 1 ∧ feature = .portReset →
      ¬(unit.portDead = false ∧ unit.portPresent = false ∧ answer.status = EngineStatus.ok
        ∧ answer.speed ≠ Speed.low)
  | .clearFeature _ _ _ => True

theorem portRange_iff (port : UInt16) : port > 0 ∧ port ≤ numPorts ↔ port = 1 := by
  unfold numPorts
  rw [gt_iff_lt]
  rw [UInt16.lt_iff_toNat_lt]
  rw [UInt16.le_iff_toNat_le]
  rw [← UInt16.toNat_inj]
  simp
  omega

namespace RootHub

theorem coherent_setFeature_iff {unit : RootHub} (h : unit.Coherent) (recipient : HubRecipient)
    (port : UInt16) (feature : HubFeature) (answer : PortAnswer)
    : (unit.setFeature recipient port feature answer).1.Coherent
        ↔
      (PortOp.setFeature recipient port feature answer).Safe unit := by
  unfold setFeature PortOp.Safe
  cases recipient with
  | device => simp [h]
  | unknown => simp [h]
  | other =>
    simp only [portRange_iff]
    split
    . next hport =>
      cases feature with
      | portReset =>
        simp only [hport, true_and, forall_const]
        apply coherent_setPortReset_iff h
      | portPower | portSuspend =>
        simp only [reduceCtorEq, and_false, false_implies, iff_true]
        exact ⟨h.of_dead, h.present_eq, h.connection_of_enable, h.speed_exclusive⟩
      | _ => simp [h]
    . next hport => simp [h, hport]

end RootHub

theorem coherent_apply_iff {unit : RootHub} (h : unit.Coherent) (op : PortOp)
    : (op.apply unit).Coherent ↔ op.Safe unit := by
  cases op with
  | update answer => simp [PortOp.apply, PortOp.Safe, RootHub.coherent_updatePortState h]
  | usbReset answer check => apply RootHub.coherent_usbReset_iff h
  | setFeature recipient port feature answer => apply RootHub.coherent_setFeature_iff h
  | clearFeature recipient port feature =>
    simp [PortOp.apply, PortOp.Safe, RootHub.coherent_clearFeature h]

def SafeRun (unit : RootHub) (ops : List PortOp) : Prop :=
  match ops with
  | [] => True
  | op :: ops => op.Safe unit ∧ SafeRun (op.apply unit) ops

theorem portRun_head (unit : RootHub) (ops : List PortOp) : unit ∈ portRun unit ops := by
  cases ops with
  | nil => simp [portRun]
  | cons op ops => simp [portRun]

theorem portRun_coherent_iff {unit : RootHub} (h : unit.Coherent) (ops : List PortOp)
    : (∀ s ∈ portRun unit ops, s.Coherent) ↔ SafeRun unit ops := by
  induction ops generalizing unit with
  | nil => simp [portRun, SafeRun, h]
  | cons op ops ih =>
    unfold portRun SafeRun
    rw [List.forall_mem_cons]
    constructor
    . intro hall
      have hnext := hall.2 (op.apply unit) (portRun_head _ _)
      exact ⟨(coherent_apply_iff h op).mp hnext, (ih hnext).mp hall.2⟩
    . intro hsafe
      have hnext := (coherent_apply_iff h op).mpr hsafe.1
      exact ⟨h, (ih hnext).mpr hsafe.2⟩

theorem portRun_init_coherent_iff (ops : List PortOp)
    : (∀ s ∈ portRun RootHub.init ops, s.Coherent) ↔ SafeRun RootHub.init ops := by
  apply portRun_coherent_iff
  exact RootHub.coherent_init

/-- A low-speed device is exchanged for a high-speed one, and the unit is reset before a poll. -/
theorem portRun_not_coherent
    : ¬∀ s ∈ portRun RootHub.init [
          .update ⟨EngineStatus.ok, Speed.low⟩,
          .usbReset ⟨EngineStatus.ok, Speed.high⟩ ⟨EngineStatus.ok, Speed.high⟩],
        s.Coherent := by
  intro h
  have := (h _ (List.mem_cons_of_mem _ (List.mem_cons_of_mem _ (portRun_head _ _)))).of_dead rfl
  revert this
  decide

end ZZUsb
