import ZZ9000.Concurrency.Observed
import ZZ9000.Vcap.Capture
import ZZ9000.Vcap.LiveLemmas

/-!
This module contains the snapshot hardware that `zz_vcap_capture` talks to. Another client may arm
snapshots, and what the card does happens between any two accesses.
-/

namespace ZZVcap

open Concurrency
open Concurrency.Coroutine (read modify happen)

/-- A snapshot as the card shows it when it is done, with the phase that was applied then. -/
structure Shot where
  status : UInt32
  geometry : UInt32
  pixels : Nat → UInt32
  metadata : Nat → UInt32
  phase : Int

/-- How far a snapshot is: each one toggles the arm bit and counts once. -/
structure Taking where
  toggled : Bool
  counted : Bool
  deriving DecidableEq, Repr

/--
The registers of the card. The arm bit and the frame number follow from the snapshots `shots` that
are done and the one that is being taken. `armBase` and `numberBase` are what they began with.
-/
structure SnapshotCard where
  cap : UInt32
  metadataCap : UInt32
  clockStatus : UInt32
  phaseStatus : UInt32
  armBase : Nat
  numberBase : Nat
  armed : Bool
  taking : Option Taking
  valid : Bool
  flags : UInt16
  geometry : UInt32
  pixels : Nat → UInt32
  metadata : Nat → UInt32
  address : UInt16
  metadataAddress : UInt16
  shots : List Shot

/-- What happens on the card between two accesses. -/
inductive SnapshotEvent where
  /-- Another client arms a snapshot. -/
  | arm
  | start
  | change (toggle count valid : Bool) (flags : UInt16) (geometry : UInt32)
      (pixels metadata : Nat → UInt32)
  | finish
  | clock (status : UInt32)
  /-- The flags of the phase engine change. Nobody requests another phase. -/
  | engine (status : UInt32)

namespace SnapshotCard

def toggles (s : SnapshotCard) : Nat :=
  s.shots.length + (s.taking.elim 0 fun t => t.toggled.toNat)

def counts (s : SnapshotCard) : Nat :=
  s.shots.length + (s.taking.elim 0 fun t => t.counted.toNat)

/-- The snapshots that have been begun. -/
def begun (s : SnapshotCard) : Nat := s.shots.length + (s.taking.elim 0 fun _ => 1)

/-- The frame number after so many snapshots. -/
def number (counts : Nat) (s : SnapshotCard) : UInt16 := UInt16.ofNat (s.numberBase + counts)

/-- The arm bit after so many snapshots. -/
def armBit (toggles : Nat) (s : SnapshotCard) : Bool := (s.armBase + toggles) % 2 == 1

def statusHigh (s : SnapshotCard) : UInt16 := s.number s.counts

/-- The low half of a status: bits for valid, busy and arm, and the flags of the standard above. -/
def lowWord (valid busy arm : Bool) (flags : UInt16) : UInt16 :=
  (if valid then 1 else 0) ||| (if busy then 2 else 0) ||| (if arm then 4 else 0)
    ||| (flags &&& 0xfff8)

def statusLow (s : SnapshotCard) : UInt16 :=
  lowWord s.valid s.taking.isSome (s.armBit s.toggles) s.flags

def status (s : SnapshotCard) : UInt32 := vcapWord s.statusHigh s.statusLow

def applied (s : SnapshotCard) : Int := vcapPhaseDecode (vcapPhaseDomain s.cap) s.phaseStatus

/-- The registers of 32 bits. -/
def longword (offset : UInt32) (s : SnapshotCard) : UInt32 :=
  if offset = captureCapReg then s.cap
  else if offset = captureMetadataCapReg then s.metadataCap
  else if offset = captureClockStatusReg then s.clockStatus
  else if offset = capturePhaseStatusReg then s.phaseStatus
  else if offset = captureSnapshotReg then s.status
  else if offset = captureGeometryReg then s.geometry
  else if offset = captureDataReg then s.pixels s.address.toNat
  else if offset = captureMetadataDataReg then s.metadata s.metadataAddress.toNat
  else 0

def register (offset : UInt32) (s : SnapshotCard) : UInt16 :=
  if offset &&& 2 = 0 then
    (s.longword offset >>> 16).toUInt16
  else
    (s.longword (offset - 2)).toUInt16

def write (offset : UInt32) (value : UInt16) (s : SnapshotCard) : SnapshotCard :=
  if offset = captureArmReg ∧ value = captureArmToken then { s with armed := true }
  else if offset = captureAddressReg then { s with address := value }
  else if offset = captureMetadataAddrReg then { s with metadataAddress := value }
  else s

/-- The snapshot at hand. When it is done, it has toggled the arm bit and counted. -/
def shot (s : SnapshotCard) : Shot where
  status :=
    let done := s.shots.length + 1
    vcapWord (s.number done) (lowWord true false (s.armBit done) s.flags)
  geometry := s.geometry
  pixels := s.pixels
  metadata := s.metadata
  phase := s.applied

def finished (s : SnapshotCard) : SnapshotCard :=
  { s with taking := none, valid := true, shots := s.shots ++ [s.shot] }

def event (s : SnapshotCard) (e : SnapshotEvent) : SnapshotCard :=
  match e with
  | .arm => { s with armed := true }
  | .start =>
    if s.armed ∧ s.taking = none then
      { s with armed := false, taking := some { toggled := false, counted := false } }
    else
      s
  | .change toggle count valid flags geometry pixels metadata =>
    match s.taking with
    | none => s
    | some t =>
      {
        s with
        taking := some { toggled := t.toggled || toggle, counted := t.counted || count }
        valid, flags, geometry, pixels, metadata
      }
  | .finish => if s.taking.isSome then s.finished else s
  | .clock status => { s with clockStatus := status }
  | .engine status =>
    if vcapPhaseDecode (vcapPhaseDomain s.cap) status = s.applied then
      { s with phaseStatus := status }
    else
      s

/-- What is shown while no snapshot is being taken is the one that was done last. -/
def Shows (s : SnapshotCard) (shot : Shot) : Prop :=
  s.status = shot.status ∧ s.geometry = shot.geometry ∧ s.pixels = shot.pixels
    ∧ s.metadata = shot.metadata

def Sound (s : SnapshotCard) : Prop :=
  ∀ shot, s.shots.getLast? = some shot → shot.phase = s.applied ∧ (s.taking = none → s.Shows shot)

/-- What may have become of a card. -/
structure After (s s' : SnapshotCard) : Prop where
  sound : s.Sound → s'.Sound
  cap : s'.cap = s.cap
  applied : s'.applied = s.applied
  armBase : s'.armBase = s.armBase
  numberBase : s'.numberBase = s.numberBase
  shots : s.shots <+: s'.shots
  begun : s.begun ≤ s'.begun
  counts : s.counts ≤ s'.counts
  still : s.taking = none → s'.begun = s.begun → s'.taking = none ∧ s'.status = s.status
    ∧ s'.geometry = s.geometry ∧ s'.pixels = s.pixels ∧ s'.metadata = s.metadata

/-- What may have become of a card to which nothing was written. -/
structure Passes (s s' : SnapshotCard) : Prop extends After s s' where
  address : s'.address = s.address
  metadataAddress : s'.metadataAddress = s.metadataAddress

section After

theorem after_refl (s : SnapshotCard) : After s s where
  sound := id
  cap := rfl
  applied := rfl
  armBase := rfl
  numberBase := rfl
  shots := List.prefix_refl _
  begun := Nat.le_refl _
  counts := Nat.le_refl _
  still := fun htaking _ => ⟨htaking, rfl, rfl, rfl, rfl⟩

theorem after_trans {s s' s'' : SnapshotCard} (h : After s s') (h' : After s' s'')
    : After s s'' := by
  have hbegun := h.begun
  have hbegun' := h'.begun
  constructor
  . exact fun hsound => h'.sound (h.sound hsound)
  . rw [h'.cap, h.cap]
  . rw [h'.applied, h.applied]
  . rw [h'.armBase, h.armBase]
  . rw [h'.numberBase, h.numberBase]
  . exact List.IsPrefix.trans h.shots h'.shots
  . exact Nat.le_trans h.begun h'.begun
  . exact Nat.le_trans h.counts h'.counts
  . intro htaking hsame
    have hfirst := h.still htaking (by omega)
    have hsecond := h'.still hfirst.1 (by omega)
    refine ⟨hsecond.1, ?_, ?_, ?_, ?_⟩
    . rw [hsecond.2.1, hfirst.2.1]
    . rw [hsecond.2.2.1, hfirst.2.2.1]
    . rw [hsecond.2.2.2.1, hfirst.2.2.2.1]
    . rw [hsecond.2.2.2.2, hfirst.2.2.2.2]

/-- What changes nothing that a snapshot is made of. -/
theorem after_of_same {s s' : SnapshotCard} (hcap : s'.cap = s.cap)
    (happlied : s'.applied = s.applied) (harm : s'.armBase = s.armBase)
    (hnumber : s'.numberBase = s.numberBase) (htaking : s'.taking = s.taking)
    (hvalid : s'.valid = s.valid) (hflags : s'.flags = s.flags)
    (hgeometry : s'.geometry = s.geometry) (hpixels : s'.pixels = s.pixels)
    (hmetadata : s'.metadata = s.metadata) (hshots : s'.shots = s.shots)
    : After s s' := by
  have hbegun : s'.begun = s.begun := by
    unfold begun
    rw [hshots, htaking]
  have hcounts : s'.counts = s.counts := by
    unfold counts
    rw [hshots, htaking]
  have hstatus : s'.status = s.status := by
    unfold status statusHigh statusLow number armBit toggles
    rw [hcounts, hnumber, hshots, htaking, hvalid, hflags, harm]
  constructor
  . intro hsound shot hlast
    rw [hshots] at hlast
    have hshown := hsound shot hlast
    unfold Shows
    rw [happlied, htaking, hstatus, hgeometry, hpixels, hmetadata]
    exact hshown
  . exact hcap
  . exact happlied
  . exact harm
  . exact hnumber
  . rw [hshots]
  . exact Nat.le_of_eq hbegun.symm
  . exact Nat.le_of_eq hcounts.symm
  . intro hnone _
    exact ⟨htaking.trans hnone, hstatus, hgeometry, hpixels, hmetadata⟩

theorem after_write (offset : UInt32) (value : UInt16) (s : SnapshotCard)
    : After s (s.write offset value) := by
  unfold write
  split
  . exact after_of_same rfl rfl rfl rfl rfl rfl rfl rfl rfl rfl rfl
  . split
    . exact after_of_same rfl rfl rfl rfl rfl rfl rfl rfl rfl rfl rfl
    . split
      . exact after_of_same rfl rfl rfl rfl rfl rfl rfl rfl rfl rfl rfl
      . exact after_refl s

theorem passes_start {s : SnapshotCard} (htaking : s.taking = none)
    : Passes s { s with armed := false, taking := some { toggled := false, counted := false } } := by
  have hbegun : s.begun = s.shots.length := by
    unfold begun
    rw [htaking]
    rfl
  have hcounts : s.counts = s.shots.length := by
    unfold counts
    rw [htaking]
    rfl
  refine ⟨?_, rfl, rfl⟩
  constructor
  . intro hsound shot hlast
    refine ⟨(hsound shot hlast).1, ?_⟩
    intro hnone
    contradiction
  . rfl
  . rfl
  . rfl
  . rfl
  . exact List.prefix_refl _
  . rw [hbegun]
    exact Nat.le_add_right _ _
  . rw [hcounts]
    exact Nat.le_add_right _ _
  . intro _ hsame
    rw [hbegun] at hsame
    exact absurd hsame (Nat.succ_ne_self _)

theorem passes_change {s : SnapshotCard} {t : Taking} (htaking : s.taking = some t)
    (toggle count valid : Bool) (flags : UInt16) (geometry : UInt32)
    (pixels metadata : Nat → UInt32)
    : Passes s {
        s with
        taking := some { toggled := t.toggled || toggle, counted := t.counted || count }
        valid, flags, geometry, pixels, metadata
      } := by
  refine ⟨?_, rfl, rfl⟩
  constructor
  . intro hsound shot hlast
    refine ⟨(hsound shot hlast).1, ?_⟩
    intro hnone
    contradiction
  . rfl
  . rfl
  . rfl
  . rfl
  . exact List.prefix_refl _
  . unfold begun
    rw [htaking]
    exact Nat.le_refl _
  . unfold counts
    rw [htaking]
    apply Nat.add_le_add_left
    show t.counted.toNat ≤ (t.counted || count).toNat
    cases t.counted with
    | false => exact Nat.zero_le _
    | true => exact Nat.le_refl _
  . intro hnone
    rw [htaking] at hnone
    contradiction

/-- The snapshot that is done is the one that is shown from then on. -/
theorem status_finished (s : SnapshotCard)
    : s.finished.status = s.shot.status := by
  have hcounts : s.finished.counts = s.shots.length + 1 := by
    unfold counts finished
    exact List.length_append
  have htoggles : s.finished.toggles = s.shots.length + 1 := by
    unfold toggles finished
    exact List.length_append
  unfold status statusHigh statusLow
  rw [hcounts, htoggles]
  rfl

theorem passes_finish {s : SnapshotCard} (htaking : s.taking.isSome)
    : Passes s s.finished := by
  have hlength : s.finished.shots.length = s.shots.length + 1 := by
    unfold finished
    exact List.length_append
  obtain ⟨t, ht⟩ := Option.isSome_iff_exists.mp htaking
  refine ⟨?_, rfl, rfl⟩
  constructor
  . intro _ shot hlast
    have hshots : s.finished.shots = s.shots ++ [s.shot] := rfl
    rw [hshots, List.getLast?_concat, Option.some.injEq] at hlast
    rw [← hlast]
    exact ⟨rfl, fun _ => ⟨status_finished s, rfl, rfl, rfl⟩⟩
  . rfl
  . rfl
  . rfl
  . rfl
  . exact List.prefix_append _ _
  . unfold begun
    rw [hlength, ht]
    exact Nat.le_refl _
  . unfold counts
    rw [hlength, ht]
    have hone : t.counted.toNat ≤ 1 := Bool.toNat_le _
    show s.shots.length + t.counted.toNat ≤ s.shots.length + 1 + 0
    omega
  . intro hnone
    rw [ht] at hnone
    contradiction

theorem passes_event (s : SnapshotCard) (e : SnapshotEvent) : Passes s (s.event e) := by
  cases e with
  | arm => exact ⟨after_of_same rfl rfl rfl rfl rfl rfl rfl rfl rfl rfl rfl, rfl, rfl⟩
  | start =>
    unfold event
    dsimp only
    split
    . next hstart => exact passes_start hstart.2
    . exact ⟨after_refl s, rfl, rfl⟩
  | change toggle count valid flags geometry pixels metadata =>
    unfold event
    dsimp only
    split
    . exact ⟨after_refl s, rfl, rfl⟩
    . next t htaking => exact passes_change htaking toggle count valid flags geometry pixels metadata
  | finish =>
    unfold event
    dsimp only
    split
    . next htaking => exact passes_finish htaking
    . exact ⟨after_refl s, rfl, rfl⟩
  | clock status => exact ⟨after_of_same rfl rfl rfl rfl rfl rfl rfl rfl rfl rfl rfl, rfl, rfl⟩
  | engine status =>
    unfold event
    dsimp only
    split
    . next hsame =>
      exact ⟨after_of_same rfl hsame rfl rfl rfl rfl rfl rfl rfl rfl rfl, rfl, rfl⟩
    . exact ⟨after_refl s, rfl, rfl⟩

theorem course_passes : Course event Passes where
  refl := fun s => ⟨after_refl s, rfl, rfl⟩
  trans := fun _ _ _ h h' =>
    ⟨after_trans h.toAfter h'.toAfter, h'.address.trans h.address,
      h'.metadataAddress.trans h.metadataAddress⟩
  event := passes_event

end After

end SnapshotCard

/-- What the environment answers before an access. -/
structure SnapshotAnswer where
  events : List SnapshotEvent
  running : Bool

abbrev Capturing := Coroutine SnapshotCard Empty Empty SnapshotAnswer

def elapse : Capturing SnapshotAnswer := happen SnapshotCard.event SnapshotAnswer.events

end ZZVcap
