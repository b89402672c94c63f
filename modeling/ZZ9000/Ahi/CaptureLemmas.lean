import ZZ9000.Ahi.Capture

/-!
This module contains the verification of capture: what the sampler hook gets over a run.
-/

namespace ZZAhi

open Streams

section Status

variable (n : Nat)

theorem toNat_cardStatus
    : (cardStatus n).toNat = 2 ^ 15 + 2 ^ 12 * ((n + 7) % 8) + n % 4096 := by
  have slot : (UInt16.ofNat ((n + 7) % 8) <<< axAudioRxStatusPeriodShift).toNat
      = 2 ^ 12 * ((n + 7) % 8) := by
    rw [UInt16.toNat_shiftLeft, UInt16.toNat_ofNat']
    have : axAudioRxStatusPeriodShift.toNat % 16 = 12 := rfl
    rw [this, Nat.shiftLeft_eq]
    omega
  have sequence : (UInt16.ofNat (n % 4096)).toNat = n % 4096 := by
    rw [UInt16.toNat_ofNat']
    omega
  have capable : axAudioRxStatusCapable.toNat = 2 ^ 15 * 1 := rfl
  unfold cardStatus
  rw [UInt16.toNat_or, UInt16.toNat_or, slot, sequence, capable]
  rw [← Nat.two_pow_add_eq_or_of_lt (by omega)]
  have whole : 2 ^ 15 * 1 + 2 ^ 12 * ((n + 7) % 8) = 2 ^ 12 * (8 + (n + 7) % 8) := by omega
  rw [whole, ← Nat.two_pow_add_eq_or_of_lt (by omega)]
  omega

theorem cardStatus_capable
    : cardStatus n &&& axAudioRxStatusCapable ≠ 0 := by
  intro zero
  have bits := congrArg (fun status => status.toNat >>> 15) zero
  have capable : axAudioRxStatusCapable.toNat >>> 15 = 2 ^ 1 - 1 := rfl
  have none : (0 : UInt16).toNat >>> 15 = 0 := rfl
  rw [UInt16.toNat_and, Nat.shiftRight_and_distrib, capable, none, Nat.and_two_pow_sub_one_eq_mod,
    Nat.shiftRight_eq_div_pow, toNat_cardStatus] at bits
  have high : (2 ^ 15 + 2 ^ 12 * ((n + 7) % 8) + n % 4096) / 2 ^ 15 = 1 := by omega
  rw [high] at bits
  omega

theorem toNat_sequence
    : (axAudioRxStatusSequence (cardStatus n)).toNat = n % 4096 := by
  have mask : axAudioRxStatusSequenceMask.toNat = 2 ^ 12 - 1 := rfl
  unfold axAudioRxStatusSequence
  rw [UInt16.toNat_and, toNat_cardStatus, mask, Nat.and_two_pow_sub_one_eq_mod]
  omega

theorem toNat_period
    : (axAudioRxStatusPeriod (cardStatus n)).toNat = (n + 7) % 8 := by
  have mask : axAudioRxStatusPeriodMask.toNat >>> 12 = 2 ^ 3 - 1 := rfl
  have shift : axAudioRxStatusPeriodShift.toNat % 16 = 12 := rfl
  unfold axAudioRxStatusPeriod
  rw [UInt16.toNat_toUInt8, UInt16.toNat_shiftRight, UInt16.toNat_and, toNat_cardStatus, shift]
  rw [Nat.shiftRight_and_distrib, mask, Nat.and_two_pow_sub_one_eq_mod, Nat.shiftRight_eq_div_pow]
  have high : (2 ^ 15 + 2 ^ 12 * ((n + 7) % 8) + n % 4096) / 2 ^ 12 = 8 + (n + 7) % 8 := by omega
  rw [high]
  omega

variable {n} {prev : Nat}

/-- The distance is right across the wrap of the sequence. -/
theorem toNat_distance {older : UInt16} (holder : older.toNat = prev % 4096) (low : prev ≤ n)
    (high : n < prev + 4096)
    : (axAudioRxSequenceDistance (axAudioRxStatusSequence (cardStatus n)) older).toNat
        = n - prev := by
  have mask : axAudioRxStatusSequenceMask.toNat = 2 ^ 12 - 1 := rfl
  unfold axAudioRxSequenceDistance
  rw [UInt16.toNat_and, mask, Nat.and_two_pow_sub_one_eq_mod, UInt16.toNat_sub, toNat_sequence,
    holder]
  omega

/-- The slot counted back from the newest one is that of the period. -/
theorem toNat_availableSlot {available index : UInt16} (hsome : available.toNat ≤ n)
    (hfew : available.toNat ≤ 7)
    : (availableSlot (axAudioRxStatusPeriod (cardStatus n)) available index).toNat
        = (n - available.toNat + index.toNat) % 8 := by
  have periods : axAudioPeriods.toNat = 8 := rfl
  have one : (1 : UInt32).toNat = 1 := rfl
  have newest := toNat_period n
  unfold availableSlot
  rw [UInt32.toNat_toUInt8, UInt32.toNat_mod, UInt32.toNat_add, UInt32.toNat_add,
    UInt32.toNat_sub, UInt32.toNat_add, UInt8.toNat_toUInt32, UInt16.toNat_toUInt32,
    UInt16.toNat_toUInt32, newest, periods, one]
  omega

end Status

/-- The last periods that the ring still has of those since `prev`. -/
def due (prev n : Nat) : List Nat := List.range' (n - min (n - prev) 7) (min (n - prev) 7)

/-- The part of a list up to the first element, counted from `i`, at which there is a stop. -/
def untilStop {α : Type} (stopped : Nat → Bool) (i : Nat) (xs : List α) : List α :=
  match xs with
  | [] => []
  | x :: xs => x :: if stopped i then [] else untilStop stopped (i + 1) xs

def stopsWithin (stopped : Nat → Bool) (i n : Nat) : Bool := (List.range' i n).any stopped

section Call

variable {ctrl : AudioCtrl} {contents : Nat → List UInt8} {n prev : Nat}

/-- The slots of the periods but the one that is being written. -/
def Holds (ctrl : AudioCtrl) (contents : Nat → List UInt8) (n : Nat) (rx : Nat → UInt8) : Prop :=
  ∀ p < n, n ≤ p + 7 →
    load rx (p % 8 * axBytesPerPeriod) (ctrl.buffSamples <<< 2).toNat = contents p

def periodMessage (ctrl : AudioCtrl) (contents : Nat → List UInt8) (p : Nat) : RecordMessage :=
  { buffer := contents p, length := ctrl.buffSamples }

/-- The loop, by induction on the periods left. -/
theorem deliverPeriods_eq (hook : ctrl.samplerFunc = true) {rx : Nat → UInt8}
    (holds : Holds ctrl contents n rx) (stopped : Nat → Bool) {available : UInt16}
    (hsome : available.toNat ≤ n) (hfew : available.toNat ≤ 7) (remaining : Nat) (index : UInt16)
    (hindex : index.toNat + remaining = available.toNat) (c : Capture)
    (running : c.recordStop = false)
    : deliverPeriods ctrl rx stopped (axAudioRxStatusPeriod (cardStatus n)) available remaining
          index c
        = ({ c with recordStop := stopsWithin stopped index.toNat remaining },
          (untilStop stopped index.toNat
            (List.range' (n - available.toNat + index.toNat) remaining)).map
            (periodMessage ctrl contents)) := by
  induction remaining generalizing index c with
  | zero =>
    cases c with | mk recordSequence recordStop =>
    dsimp only at running
    rw [running]
    rfl
  | succ remaining ih =>
    have slot := @toNat_availableSlot n available index hsome hfew
    have message : slotMessage ctrl rx
        (availableSlot (axAudioRxStatusPeriod (cardStatus n)) available index)
          = periodMessage ctrl contents (n - available.toNat + index.toNat) := by
      unfold slotMessage periodMessage
      rw [slot, holds _ (by omega) (by omega)]
    have next : (index + 1).toNat = index.toNat + 1 := by
      have one : (1 : UInt16).toNat = 1 := rfl
      rw [UInt16.toNat_add, one]
      omega
    unfold deliverPeriods stopsWithin
    dsimp only
    rw [message, if_pos hook, running, Bool.false_or, List.range'_succ, List.range'_succ]
    unfold untilStop
    split
    next stop =>
      rw [List.any_cons, stop]
      rfl
    next goes =>
      rw [Bool.not_eq_true] at goes
      rw [ih (index + 1) (by omega) _ goes, next, List.any_cons, goes]
      rfl

/-- One call of `process_recording`. -/
theorem processRecording_eq (hook : ctrl.samplerFunc = true)
    (fits : ctrl.buffSamples ≤ bounceMaxFrames) {rx : Nat → UInt8}
    (holds : Holds ctrl contents n rx) (stopped : Nat → Bool) (c : Capture)
    (running : c.recordStop = false) (since : c.recordSequence.toNat = prev % 4096)
    (low : prev ≤ n) (high : n < prev + 4096)
    : processRecording ctrl (cardStatus n) rx stopped c
        = ({ recordSequence := axAudioRxStatusSequence (cardStatus n)
             recordStop := stopsWithin stopped 0 (min (n - prev) 7) },
          (untilStop stopped 0 (due prev n)).map (periodMessage ctrl contents)) := by
  have distance := toNat_distance since low high
  unfold processRecording due
  rw [if_neg (cardStatus_capable n)]
  dsimp only
  split
  next none =>
    rw [none] at distance
    have zero : (0 : UInt16).toNat = 0 := rfl
    have same : n = prev := by omega
    have sequence : c.recordSequence = axAudioRxStatusSequence (cardStatus n) := by
      rw [← UInt16.toNat_inj, since, toNat_sequence, same]
    rw [← sequence, same, Nat.sub_self]
    cases c with | mk recordSequence recordStop =>
    dsimp only at running
    rw [running]
    rfl
  next some =>
    have resident : axAudioRxResidentPeriods.toNat = 7 := rfl
    have available : (if axAudioRxSequenceDistance (axAudioRxStatusSequence (cardStatus n))
          c.recordSequence > axAudioRxResidentPeriods
        then axAudioRxResidentPeriods
        else axAudioRxSequenceDistance (axAudioRxStatusSequence (cardStatus n))
          c.recordSequence).toNat = min (n - prev) 7 := by
      split
      next many =>
        rw [gt_iff_lt, UInt16.lt_iff_toNat_lt] at many
        omega
      next few =>
        rw [gt_iff_lt, UInt16.lt_iff_toNat_lt] at few
        omega
    generalize (if axAudioRxSequenceDistance (axAudioRxStatusSequence (cardStatus n))
          c.recordSequence > axAudioRxResidentPeriods
        then axAudioRxResidentPeriods
        else axAudioRxSequenceDistance (axAudioRxStatusSequence (cardStatus n))
          c.recordSequence) = k at available
    have delivered := deliverPeriods_eq hook holds stopped (by omega) (by omega) k.toNat 0
      (Nat.zero_add _) c running
    rw [if_neg (UInt32.not_lt.mpr fits), delivered, available]
    rfl

end Call

/-- The periods that each wake-up of a run delivers. -/
def owed (prev : Nat) (wakeups : List Wakeup) : List (List Nat) :=
  match wakeups with
  | [] => []
  | w :: wakeups =>
    untilStop w.stopped 0 (due prev w.completed)
      :: if stopsWithin w.stopped 0 (min (w.completed - prev) 7) then
        wakeups.map fun _ => []
      else
        owed w.completed wakeups

/-- The card has completed fewer periods between two wake-ups than the sequence can tell. -/
def Paced (prev : Nat) (wakeups : List Wakeup) : Prop :=
  match wakeups with
  | [] => True
  | w :: wakeups =>
    (prev ≤ w.completed ∧ w.completed < prev + 4096) ∧ Paced w.completed wakeups

/-- Period `p` was lost to a backlog: more than the ring keeps were completed since a wake-up. -/
def Overrun (prev : Nat) (wakeups : List Wakeup) (p : Nat) : Prop :=
  match wakeups with
  | [] => False
  | w :: wakeups => (prev ≤ p ∧ p + 7 < w.completed) ∨ Overrun w.completed wakeups p

def lastCompleted (prev : Nat) (wakeups : List Wakeup) : Nat :=
  match wakeups with
  | [] => prev
  | w :: wakeups => lastCompleted w.completed wakeups

section Runs

theorem untilStop_sublist {α : Type} (stopped : Nat → Bool) (i : Nat) (xs : List α)
    : (untilStop stopped i xs).Sublist xs := by
  induction xs generalizing i with
  | nil => exact List.Sublist.slnil
  | cons x xs ih =>
    unfold untilStop
    apply List.Sublist.cons_cons
    split
    . exact List.nil_sublist xs
    . exact ih (i + 1)

theorem untilStop_of_running {α : Type} {stopped : Nat → Bool} (h : ∀ i, stopped i = false)
    (i : Nat) (xs : List α)
    : untilStop stopped i xs = xs := by
  induction xs generalizing i with
  | nil => rfl
  | cons x xs ih =>
    unfold untilStop
    rw [h i, if_neg Bool.false_ne_true, ih (i + 1)]

theorem mem_due {prev n p : Nat}
    : p ∈ due prev n ↔ prev ≤ p ∧ p < n ∧ n ≤ p + 7 := by
  unfold due
  rw [List.mem_range'_1]
  omega

theorem lastCompleted_ge {prev : Nat} {wakeups : List Wakeup} (paced : Paced prev wakeups)
    : prev ≤ lastCompleted prev wakeups := by
  induction wakeups generalizing prev with
  | nil => exact Nat.le_refl prev
  | cons w wakeups ih =>
    have later := ih paced.2
    have := paced.1.1
    unfold lastCompleted
    omega

theorem flatten_map_nil {α β : Type} (xs : List α)
    : (xs.map fun _ => ([] : List β)).flatten = [] := by
  induction xs with
  | nil => rfl
  | cons x xs ih => exact ih

/-- A run delivers periods that are complete, and none from before it. -/
theorem owed_bounds {prev : Nat} {wakeups : List Wakeup} (paced : Paced prev wakeups)
    : ∀ p ∈ (owed prev wakeups).flatten, prev ≤ p ∧ p < lastCompleted prev wakeups := by
  induction wakeups generalizing prev with
  | nil =>
    intro p hp
    simp [owed] at hp
  | cons w wakeups ih =>
    have later := lastCompleted_ge paced.2
    intro p hp
    unfold owed at hp
    unfold lastCompleted
    rw [List.flatten_cons, List.mem_append] at hp
    cases hp with
    | inl now =>
      have bounds := mem_due.mp ((untilStop_sublist _ _ _).subset now)
      omega
    | inr later' =>
      split at later'
      . rw [flatten_map_nil] at later'
        simp at later'
      . have bounds := ih paced.2 p later'
        have := paced.1.1
        omega

/-- In increasing order, and so none twice. -/
theorem owed_increasing {prev : Nat} {wakeups : List Wakeup} (paced : Paced prev wakeups)
    : (owed prev wakeups).flatten.Pairwise (· < ·) := by
  induction wakeups generalizing prev with
  | nil => exact List.Pairwise.nil
  | cons w wakeups ih =>
    have now : (untilStop w.stopped 0 (due prev w.completed)).Pairwise (· < ·) :=
      List.Pairwise.sublist (untilStop_sublist _ _ _) List.pairwise_lt_range'
    unfold owed
    rw [List.flatten_cons, List.pairwise_append]
    refine ⟨now, ?_, ?_⟩
    . split
      . rw [flatten_map_nil]
        exact List.Pairwise.nil
      . exact ih paced.2
    . intro p hp q hq
      have bounds := mem_due.mp ((untilStop_sublist _ _ _).subset hp)
      split at hq
      . rw [flatten_map_nil] at hq
        simp at hq
      . have bounds' := owed_bounds paced.2 q hq
        omega

/-- A wake-up during which nobody stops the recording delivers all that the ring has. -/
theorem owed_of_running {prev : Nat} {w : Wakeup} {wakeups : List Wakeup}
    (goes : ∀ i, w.stopped i = false)
    : owed prev (w :: wakeups) = due prev w.completed :: owed w.completed wakeups := by
  have quiet : stopsWithin w.stopped 0 (min (w.completed - prev) 7) = false := by
    unfold stopsWithin
    rw [List.any_eq_false]
    intro i _
    rw [goes i]
    exact Bool.false_ne_true
  conv => lhs; unfold owed
  rw [untilStop_of_running goes, quiet, if_neg Bool.false_ne_true]

/-- While nobody stops the recording a period is skipped only in a backlog. -/
theorem mem_owed_or_overrun {prev : Nat} {wakeups : List Wakeup}
    (running : ∀ w ∈ wakeups, ∀ i, w.stopped i = false) (p : Nat) (low : prev ≤ p)
    (high : p < lastCompleted prev wakeups)
    : p ∈ (owed prev wakeups).flatten ∨ Overrun prev wakeups p := by
  induction wakeups generalizing prev with
  | nil =>
    unfold lastCompleted at high
    omega
  | cons w wakeups ih =>
    have goes := running w List.mem_cons_self
    have later := @ih w.completed fun w' hw' => running w' (List.mem_cons_of_mem w hw')
    unfold lastCompleted at high
    unfold Overrun
    rw [owed_of_running goes, List.flatten_cons, List.mem_append, mem_due]
    by_cases completed : p < w.completed
    . omega
    . cases later (by omega) high with
      | inl mem => exact .inl (.inr mem)
      | inr lost => exact .inr (.inr lost)

variable {ctrl : AudioCtrl} {contents : Nat → List UInt8}

theorem runCapture_stopped (wakeups : List Wakeup) (c : Capture) (h : c.recordStop = true)
    : (runCapture ctrl wakeups c).2 = wakeups.map fun _ => [] := by
  induction wakeups with
  | nil => rfl
  | cons w wakeups ih =>
    unfold runCapture
    rw [if_pos h]
    dsimp only
    rw [ih]
    rfl

theorem runCapture_eq (hook : ctrl.samplerFunc = true) (fits : ctrl.buffSamples ≤ bounceMaxFrames)
    (wakeups : List Wakeup) (holds : ∀ w ∈ wakeups, Holds ctrl contents w.completed w.rx)
    (c : Capture) (running : c.recordStop = false) (prev : Nat)
    (since : c.recordSequence.toNat = prev % 4096) (paced : Paced prev wakeups)
    : (runCapture ctrl wakeups c).2
        = (owed prev wakeups).map fun ps => ps.map (periodMessage ctrl contents) := by
  induction wakeups generalizing c prev with
  | nil => rfl
  | cons w wakeups ih =>
    have call := processRecording_eq hook fits (holds w List.mem_cons_self) w.stopped c running
      since paced.1.1 paced.1.2
    have rest := ih fun w' hw' => holds w' (List.mem_cons_of_mem w hw')
    unfold runCapture owed
    rw [running, if_neg Bool.false_ne_true, call, List.map_cons]
    dsimp only
    congr 1
    split
    next stop =>
      rw [runCapture_stopped _ _ stop, List.map_map]
      rfl
    next goes =>
      rw [Bool.not_eq_true] at goes
      exact rest _ goes w.completed (toNat_sequence w.completed) paced.2

/-- The periods of the wake-ups of a run that nobody stops. -/
def dueEach (prev : Nat) (wakeups : List Wakeup) : List (List Nat) :=
  match wakeups with
  | [] => []
  | w :: wakeups => due prev w.completed :: dueEach w.completed wakeups

theorem owed_eq_dueEach {wakeups : List Wakeup}
    (running : ∀ w ∈ wakeups, ∀ i, w.stopped i = false) (prev : Nat)
    : owed prev wakeups = dueEach prev wakeups := by
  induction wakeups generalizing prev with
  | nil => rfl
  | cons w wakeups ih =>
    unfold dueEach
    rw [owed_of_running (running w List.mem_cons_self)]
    rw [ih fun w' hw' => running w' (List.mem_cons_of_mem w hw')]

/-- What the sampler hook gets over a run. -/
theorem runCapture_delivers (hook : ctrl.samplerFunc = true)
    (fits : ctrl.buffSamples ≤ bounceMaxFrames) (wakeups : List Wakeup)
    (holds : ∀ w ∈ wakeups, Holds ctrl contents w.completed w.rx) (c : Capture)
    (running : c.recordStop = false) (prev : Nat) (since : c.recordSequence.toNat = prev % 4096)
    (paced : Paced prev wakeups)
    : (runCapture ctrl wakeups c).2
          = (owed prev wakeups).map (fun ps => ps.map (periodMessage ctrl contents))
        ∧ (owed prev wakeups).flatten.Pairwise (· < ·)
        ∧ (∀ p ∈ (owed prev wakeups).flatten, prev ≤ p ∧ p < lastCompleted prev wakeups)
        ∧ ((∀ w ∈ wakeups, ∀ i, w.stopped i = false) →
          owed prev wakeups = dueEach prev wakeups
            ∧ ∀ p, prev ≤ p → p < lastCompleted prev wakeups
              → p ∈ (owed prev wakeups).flatten ∨ Overrun prev wakeups p) := by
  refine ⟨?_, owed_increasing paced, owed_bounds paced, ?_⟩
  . exact runCapture_eq hook fits wakeups holds c running prev since paced
  . intro goes
    exact ⟨owed_eq_dueEach goes prev, mem_owed_or_overrun goes⟩

def monitorCtrl : AudioCtrl where
  buffSamples := 1
  samplerFunc := true

def silentWakeup (completed : Nat) (stopped : Nat → Bool) : Wakeup where
  completed := completed
  rx := fun _ => 0
  stopped := stopped

def freshCapture : Capture where
  recordSequence := 4095
  recordStop := false

/-- Two periods across the wrap of the sequence, and a backlog of ten. -/
theorem runCapture_delivers_backlog
    : (runCapture monitorCtrl
        [silentWakeup 4097 (fun _ => false), silentWakeup 4107 (fun _ => false)]
        freshCapture).2.map List.length = [2, 7] := by
  have delivered := @runCapture_delivers monitorCtrl (fun _ => [0, 0, 0, 0]) rfl (by decide)
    [silentWakeup 4097 (fun _ => false), silentWakeup 4107 (fun _ => false)]
    (by
      intro w hw p _ _
      simp only [List.mem_cons, List.not_mem_nil, or_false] at hw
      cases hw with
      | inl first => rw [first]; rfl
      | inr second => rw [second]; rfl)
    freshCapture rfl 4095 rfl ⟨⟨by decide, by decide⟩, ⟨by decide, by decide⟩, trivial⟩
  rw [delivered.1]
  decide

/-- A hook that stops the recording gets no further period. -/
theorem processRecording_stopped
    : Holds monitorCtrl (fun _ => [0, 0, 0, 0]) 4097 (fun _ => 0)
        ∧ (processRecording monitorCtrl (cardStatus 4097) (fun _ => 0) (fun i => i == 0)
            freshCapture).2
          ≠ (due 4095 4097).map (periodMessage monitorCtrl fun _ => [0, 0, 0, 0]) := by
  constructor
  . intro p _ _
    rfl
  . decide

end Runs

end ZZAhi
