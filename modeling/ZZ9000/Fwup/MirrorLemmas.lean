import ZZ9000.Fwup.Client

/-!
This module proves for which command a status in the status mirror is, against a firmware that
executes the commands one at a time and publishes each when it has finished it.
-/

namespace ZZFwup

/-- The word that the firmware publishes in the mirror. -/
def mirrorWord (sequence : UInt8) (status : UInt16) : UInt32 :=
  (mirrorMagic <<< 24) ||| (sequence.toUInt32 <<< 16) ||| status.toUInt32

/-- `pending` are the numbers of the commands written and not finished, the oldest first. -/
structure FwupFirmware where
  mirror : UInt32
  sequence : UInt8
  pending : List Nat
  written : Nat
  published : List (Nat × UInt16)
  registerReads : Nat
  accesses : Nat

/--
What the firmware does of its own: command `number` ends with `status number`, and `finishes access`
commands have their end before the access with that number.
-/
structure FwupSchedule where
  status : Nat → UInt16
  finishes : Nat → Nat

namespace FwupFirmware

variable (schedule : FwupSchedule)

def finish (fw : FwupFirmware) : FwupFirmware :=
  match fw.pending with
  | [] => fw
  | number :: pending =>
    { fw with
      mirror := mirrorWord (fw.sequence + 1) (schedule.status number)
      sequence := fw.sequence + 1
      pending
      published := fw.published ++ [(number, schedule.status number)] }

def finishMany (fw : FwupFirmware) (count : Nat) : FwupFirmware :=
  match count with
  | 0 => fw
  | count + 1 => (fw.finish schedule).finishMany count

/-- An access of the client, before which the firmware goes on with its commands. -/
def access (fw : FwupFirmware) : FwupFirmware :=
  { fw.finishMany schedule (schedule.finishes fw.accesses) with accesses := fw.accesses + 1 }

def readMirror (fw : FwupFirmware) : UInt32 × FwupFirmware :=
  ((fw.access schedule).mirror, fw.access schedule)

def writeCmd (fw : FwupFirmware) : FwupFirmware :=
  let fw := fw.access schedule
  { fw with pending := fw.pending ++ [fw.written], written := fw.written + 1 }

def readStatus (fw : FwupFirmware) : UInt16 × FwupFirmware :=
  let fw := fw.access schedule
  (fw.mirror.toUInt16, { fw with registerReads := fw.registerReads + 1 })

/-- The transport of a card with a mirror. -/
def io (yields : Bool) : FwupIo FwupFirmware where
  readStatus := readStatus schedule
  writeCmd := fun _ => writeCmd schedule
  writeLen := fun _ => access schedule
  stage := fun _ => access schedule
  readMirror := some (readMirror schedule)
  idle := if yields then some (access schedule) else none

end FwupFirmware

/-- A command of a run: the firmware before it, what came back, and the firmware after it. -/
structure FwupStep where
  before : FwupFirmware
  reply : UInt16
  after : FwupFirmware

def fwupRun (schedule : FwupSchedule) (yields : Bool) (cmds : List UInt16) (fw : FwupFirmware)
    : List FwupStep :=
  match cmds with
  | [] => []
  | cmd :: cmds =>
    let (st, after) := runCommand (FwupFirmware.io schedule yields) cmd fw
    ⟨fw, st, after⟩ :: fwupRun schedule yields cmds after

/-- A status other than BUSY is the one published for the command it came back for. -/
def FwupStep.Attributed (step : FwupStep) : Prop :=
  step.reply ≠ Status.busy → (step.before.written, step.reply) ∈ step.after.published

/-- The firmware has finished every earlier command when the sequence is read for the next one. -/
def FwupStep.Quiet (schedule : FwupSchedule) (step : FwupStep) : Prop :=
  (step.before.access schedule).pending = []

/-- The status register is never read, and a command gets the status published for it. -/
structure FwupAttributed (steps : List FwupStep) : Prop where
  registerReads : ∀ step ∈ steps, step.after.registerReads = step.before.registerReads
  attributed : ∀ step ∈ steps, step.Attributed

/-- The same, for the commands that are issued while no earlier one is unfinished. -/
structure FwupAttributedQuiet (schedule : FwupSchedule) (steps : List FwupStep) : Prop where
  registerReads : ∀ step ∈ steps, step.after.registerReads = step.before.registerReads
  attributed : ∀ step ∈ steps, step.Quiet schedule → step.Attributed

variable {schedule : FwupSchedule}

theorem mirrorWord_toUInt16 (sequence : UInt8) (status : UInt16)
    : (mirrorWord sequence status).toUInt16 = status := by
  have hmagic : (mirrorMagic <<< 24).toUInt16 = 0 := by decide
  have hsequence : (sequence.toUInt32 <<< 16).toUInt16 = 0 := by
    apply UInt16.toNat_inj.mp
    simp [Nat.shiftLeft_eq]
  unfold mirrorWord
  rw [UInt32.toUInt16_or, UInt32.toUInt16_or, hmagic, hsequence]
  simp

/-- A word is no completion of a command whose snapshot was the same word. -/
theorem mirrorCompleted_self (word : UInt32) : mirrorCompleted word word = false := by
  unfold mirrorCompleted
  split
  next => rfl
  next => simp

namespace FwupFirmware

/-! The loops that poll keep what every access keeps, and end on a word that is a completion. -/

/-- What a loop returns when every access of the client keeps `P`. -/
structure Polled (P : FwupFirmware → Prop) (before : UInt32)
    (polled : Option UInt16 × FwupFirmware) : Prop where
  keeps : P polled.2
  completed : ∀ st, polled.1 = some st →
    mirrorCompleted polled.2.mirror before = true ∧ st = polled.2.mirror.toUInt16

section Polled

variable {P : FwupFirmware → Prop} {before : UInt32} {fw : FwupFirmware}

theorem polled_spin (haccess : ∀ fw, P fw → P (access schedule fw)) (h : P fw) (spins : Nat)
    : Polled P before (pollMirrorSpin (readMirror schedule) before spins fw) := by
  induction spins generalizing fw with
  | zero => exact ⟨h, by simp [pollMirrorSpin]⟩
  | succ spins ih =>
    unfold pollMirrorSpin readMirror
    dsimp only
    split
    next hcompleted => exact ⟨haccess fw h, by simp [hcompleted]⟩
    next => exact ih (haccess fw h)

theorem polled_idle (haccess : ∀ fw, P fw → P (access schedule fw)) (h : P fw) (idles : Nat)
    : Polled P before
        (pollMirrorIdle (readMirror schedule) (access schedule) before idles fw) := by
  induction idles generalizing fw with
  | zero => exact ⟨h, by simp [pollMirrorIdle]⟩
  | succ idles ih =>
    unfold pollMirrorIdle readMirror
    dsimp only
    split
    next hcompleted => exact ⟨haccess _ (haccess fw h), by simp [hcompleted]⟩
    next => exact ih (haccess _ (haccess fw h))

theorem pollMirror_polled (haccess : ∀ fw, P fw → P (access schedule fw)) (h : P fw)
    (yields : Bool)
    : ∃ polled, Polled P before polled ∧
        pollMirror (readMirror schedule) (io schedule yields).idle before fw
          =
        (polled.1.getD Status.busy, polled.2) := by
  have hspun : Polled P before (pollMirrorSpin (readMirror schedule) before mirrorSpins fw) :=
    polled_spin haccess h mirrorSpins
  unfold pollMirror
  generalize pollMirrorSpin (readMirror schedule) before mirrorSpins fw = spun at hspun
  obtain ⟨st, fw'⟩ := spun
  cases st with
  | some st => exact ⟨_, hspun, rfl⟩
  | none =>
    cases yields with
    | false => exact ⟨_, hspun, rfl⟩
    | true =>
      have hidled : Polled P before
          (pollMirrorIdle (readMirror schedule) (access schedule) before mirrorIdles fw') :=
        polled_idle haccess hspun.keeps mirrorIdles
      simp only [io, if_true]
      generalize pollMirrorIdle (readMirror schedule) (access schedule) before mirrorIdles fw'
        = idled at hidled
      obtain ⟨st, fw''⟩ := idled
      cases st with
      | some st => exact ⟨_, hidled, rfl⟩
      | none => exact ⟨_, hidled, rfl⟩

end Polled

theorem finishMany_keeps {P : FwupFirmware → Prop} (hfinish : ∀ fw, P fw → P (finish schedule fw))
    {fw : FwupFirmware} (h : P fw) (count : Nat)
    : P (fw.finishMany schedule count) := by
  induction count generalizing fw with
  | zero => exact h
  | succ count ih => exact ih (hfinish fw h)

theorem finish_registerReads (fw : FwupFirmware)
    : (fw.finish schedule).registerReads = fw.registerReads := by
  unfold finish
  split <;> rfl

theorem finish_written (fw : FwupFirmware) : (fw.finish schedule).written = fw.written := by
  unfold finish
  split <;> rfl

theorem access_registerReads (fw : FwupFirmware)
    : (fw.access schedule).registerReads = fw.registerReads := by
  apply finishMany_keeps (P := fun other => other.registerReads = fw.registerReads)
  . intro other hother
    rw [finish_registerReads, hother]
  . rfl

theorem access_written (fw : FwupFirmware) : (fw.access schedule).written = fw.written := by
  apply finishMany_keeps (P := fun other => other.written = fw.written)
  . intro other hother
    rw [finish_written, hother]
  . rfl

/-- Command `number` is the only one that may be pending, and the mirror tells whether it is. -/
def Polling (schedule : FwupSchedule) (number : Nat) (before : UInt32) (fw : FwupFirmware) : Prop :=
  fw.pending = [number] ∧ fw.mirror = before ∨
    fw.pending = [] ∧ fw.mirror.toUInt16 = schedule.status number ∧
      (number, schedule.status number) ∈ fw.published

theorem Polling.finish {number : Nat} {before : UInt32} (fw : FwupFirmware)
    (h : Polling schedule number before fw)
    : Polling schedule number before (fw.finish schedule) := by
  unfold FwupFirmware.finish
  cases h with
  | inl hpending =>
    rw [hpending.1]
    refine Or.inr ⟨rfl, mirrorWord_toUInt16 _ _, ?_⟩
    simp
  | inr hpublished =>
    rw [hpublished.1]
    exact Or.inr hpublished

theorem Polling.access {number : Nat} {before : UInt32} (fw : FwupFirmware)
    (h : Polling schedule number before fw)
    : Polling schedule number before (fw.access schedule) := by
  unfold FwupFirmware.access
  exact finishMany_keeps Polling.finish h (schedule.finishes fw.accesses)

/-- A completion that the client sees is the one of command `number`. -/
theorem Polling.completed {number : Nat} {before : UInt32} {fw : FwupFirmware}
    (h : Polling schedule number before fw) (hcompleted : mirrorCompleted fw.mirror before = true)
    : (number, fw.mirror.toUInt16) ∈ fw.published := by
  cases h with
  | inl hpending =>
    rw [hpending.2, mirrorCompleted_self] at hcompleted
    contradiction
  | inr hpublished =>
    rw [hpublished.2.1]
    exact hpublished.2.2

/-- A command that is written when no other one is pending. -/
theorem Polling.writeCmd (schedule : FwupSchedule) {fw : FwupFirmware} (h : fw.pending = [])
    : Polling schedule fw.written fw.mirror (fw.writeCmd schedule) := by
  have hidle : fw.finishMany schedule (schedule.finishes fw.accesses) = fw := by
    apply finishMany_keeps (P := fun other => other = fw)
    . intro other hother
      rw [hother]
      unfold FwupFirmware.finish
      rw [h]
    . rfl
  unfold FwupFirmware.writeCmd FwupFirmware.access
  rw [hidle]
  exact Or.inl ⟨by simp [h], rfl⟩

end FwupFirmware

open FwupFirmware (Polling)

theorem runCommand_mirror (schedule : FwupSchedule) (yields : Bool) (cmd : UInt16)
    (fw : FwupFirmware)
    : runCommand (FwupFirmware.io schedule yields) cmd fw
        =
      pollMirror (FwupFirmware.readMirror schedule) (FwupFirmware.io schedule yields).idle
        (fw.access schedule).mirror ((fw.access schedule).writeCmd schedule) := by
  rfl

theorem runCommand_registerReads (schedule : FwupSchedule) (yields : Bool) (cmd : UInt16)
    (fw : FwupFirmware)
    : (runCommand (FwupFirmware.io schedule yields) cmd fw).2.registerReads = fw.registerReads := by
  rw [runCommand_mirror]
  have hwritten : ((fw.access schedule).writeCmd schedule).registerReads = fw.registerReads := by
    unfold FwupFirmware.writeCmd
    dsimp only
    rw [FwupFirmware.access_registerReads, FwupFirmware.access_registerReads]
  have haccess : ∀ other : FwupFirmware, other.registerReads = fw.registerReads →
      (other.access schedule).registerReads = fw.registerReads := by
    intro other hother
    rw [FwupFirmware.access_registerReads, hother]
  obtain ⟨polled, hpolled, heq⟩ := FwupFirmware.pollMirror_polled haccess hwritten yields
  rw [heq]
  exact hpolled.keeps

theorem runCommand_attributed {schedule : FwupSchedule} {fw : FwupFirmware}
    (h : (fw.access schedule).pending = []) (yields : Bool) (cmd : UInt16)
    : FwupStep.Attributed ⟨fw, (runCommand (FwupFirmware.io schedule yields) cmd fw).1,
        (runCommand (FwupFirmware.io schedule yields) cmd fw).2⟩ := by
  have hpolling := Polling.writeCmd schedule h
  rw [FwupFirmware.access_written] at hpolling
  obtain ⟨polled, hpolled, heq⟩ := FwupFirmware.pollMirror_polled Polling.access hpolling yields
  rw [runCommand_mirror, heq]
  intro hreply
  obtain ⟨st, fw'⟩ := polled
  cases st with
  | none => exact absurd rfl hreply
  | some st =>
    obtain ⟨hcompleted, hst⟩ := hpolled.completed st rfl
    dsimp only [Option.getD_some] at hst ⊢
    rw [hst]
    exact Polling.completed hpolled.keeps hcompleted

theorem fwupRun_registerReads (schedule : FwupSchedule) (yields : Bool) (cmds : List UInt16)
    (fw : FwupFirmware)
    : ∀ step ∈ fwupRun schedule yields cmds fw,
        step.after.registerReads = step.before.registerReads := by
  induction cmds generalizing fw with
  | nil => simp [fwupRun]
  | cons cmd cmds ih =>
    unfold fwupRun
    simp only [List.mem_cons, forall_eq_or_imp]
    exact ⟨runCommand_registerReads schedule yields cmd fw, ih _⟩

theorem fwupRun_quiet (schedule : FwupSchedule) (yields : Bool) (cmds : List UInt16)
    (fw : FwupFirmware)
    : ∀ step ∈ fwupRun schedule yields cmds fw, step.Quiet schedule → step.Attributed := by
  induction cmds generalizing fw with
  | nil => simp [fwupRun]
  | cons cmd cmds ih =>
    unfold fwupRun
    simp only [List.mem_cons, forall_eq_or_imp]
    refine ⟨?_, ih _⟩
    intro hquiet
    exact runCommand_attributed hquiet yields cmd

theorem fwupRun_attributed (schedule : FwupSchedule) (yields : Bool) (cmds : List UInt16)
    (fw : FwupFirmware)
    : FwupAttributedQuiet schedule (fwupRun schedule yields cmds fw) where
  registerReads := fwupRun_registerReads schedule yields cmds fw
  attributed := fwupRun_quiet schedule yields cmds fw

/-! An OPEN that outlasts the client, and ends with an error while the ABORT after it is polled. -/

def lateOpen : FwupSchedule where
  status := fun number => if number = 0 then 4 else Status.ok
  finishes := fun access => if access = 50004 then 1 else 0

def coldFirmware : FwupFirmware where
  mirror := 0
  sequence := 0
  pending := []
  written := 0
  published := []
  registerReads := 0
  accesses := 0

theorem pollMirrorSpin_of_unfinished {before : UInt32} {fw : FwupFirmware} {spins : Nat}
    (hfinishes : ∀ access, fw.accesses ≤ access → access < fw.accesses + spins →
      schedule.finishes access = 0)
    (hword : mirrorCompleted fw.mirror before = false)
    : pollMirrorSpin (FwupFirmware.readMirror schedule) before spins fw
        =
      (none, { fw with accesses := fw.accesses + spins }) := by
  induction spins generalizing fw with
  | zero => rfl
  | succ spins ih =>
    have haccess : fw.access schedule = { fw with accesses := fw.accesses + 1 } := by
      unfold FwupFirmware.access
      rw [hfinishes fw.accesses (by omega) (by omega)]
      rfl
    have hread : FwupFirmware.readMirror schedule fw
        = (fw.mirror, { fw with accesses := fw.accesses + 1 }) := by
      unfold FwupFirmware.readMirror
      rw [haccess]
    unfold pollMirrorSpin
    rw [hread]
    dsimp only
    rw [hword]
    simp only [Bool.false_eq_true, if_false]
    rw [ih]
    . dsimp only
      rw [Nat.add_assoc, Nat.add_comm 1]
    . intro access hle hlt
      dsimp only at hle hlt
      exact hfinishes access (by omega) (by omega)
    . exact hword

theorem pollMirror_none {readMirror : FwupFirmware → UInt32 × FwupFirmware} {before : UInt32}
    {fw fw' : FwupFirmware}
    (h : pollMirrorSpin readMirror before mirrorSpins fw = (none, fw'))
    : pollMirror readMirror none before fw = (Status.busy, fw') := by
  unfold pollMirror
  rw [h]

theorem lateOpen_spin
    : pollMirrorSpin (FwupFirmware.readMirror lateOpen) 0 mirrorSpins
        { coldFirmware with pending := [0], written := 1, accesses := 2 }
        =
      (none, { coldFirmware with pending := [0], written := 1, accesses := 2 + mirrorSpins }) := by
  apply pollMirrorSpin_of_unfinished
  . intro access _ hlt
    dsimp only [mirrorSpins] at hlt
    unfold lateOpen
    dsimp only
    rw [if_neg (by omega)]
  . decide

theorem runCommand_lateOpen
    : runCommand (FwupFirmware.io lateOpen false) Cmd.openFile coldFirmware
        =
      (Status.busy, { coldFirmware with pending := [0], written := 1, accesses := 2 + mirrorSpins })
    := by
  rw [runCommand_mirror]
  exact pollMirror_none lateOpen_spin

theorem runCommand_lateAbort
    : (runCommand (FwupFirmware.io lateOpen false) Cmd.abort
        { coldFirmware with pending := [0], written := 1, accesses := 2 + mirrorSpins }).1 = 4 ∧
      (runCommand (FwupFirmware.io lateOpen false) Cmd.abort
        { coldFirmware with pending := [0], written := 1, accesses := 2 + mirrorSpins }).2.published
        =
      [(0, 4)] := by
  decide +kernel

theorem fwupRun_cons {P : FwupStep → Prop} {yields : Bool} {cmd : UInt16} {cmds : List UInt16}
    {fw fw' : FwupFirmware} {st : UInt16}
    (hrun : runCommand (FwupFirmware.io schedule yields) cmd fw = (st, fw'))
    (h : ∀ step ∈ fwupRun schedule yields (cmd :: cmds) fw, P step)
    : P ⟨fw, st, fw'⟩ ∧ ∀ step ∈ fwupRun schedule yields cmds fw', P step := by
  unfold fwupRun at h
  rw [hrun] at h
  simpa only [List.mem_cons, forall_eq_or_imp] using h

theorem FwupStep.not_attributed {step : FwupStep} (hwritten : step.before.written = 1)
    (hreply : step.reply = 4) (hpublished : step.after.published = [(0, 4)])
    : ¬step.Attributed := by
  unfold FwupStep.Attributed
  rw [hwritten, hreply, hpublished]
  decide

theorem fwupRun_not_attributed
    : ¬∀ (schedule : FwupSchedule) (yields : Bool) (cmds : List UInt16) (fw : FwupFirmware),
        FwupAttributed (fwupRun schedule yields cmds fw) := by
  intro h
  have hrun := (h lateOpen false [Cmd.openFile, Cmd.abort] coldFirmware).attributed
  have habort := (fwupRun_cons runCommand_lateOpen hrun).2
  have hstep := (fwupRun_cons (Prod.eta _).symm habort).1
  exact FwupStep.not_attributed rfl runCommand_lateAbort.1 runCommand_lateAbort.2 hstep

end ZZFwup
