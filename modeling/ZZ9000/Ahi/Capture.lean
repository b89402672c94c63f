import ZZ9000.Streams.Memory

/-!
This module contains the delivery of captured periods by `process_recording` of the AHI driver, and
the ring of periods that the card captures into.
-/

namespace ZZAhi

open Streams

def axBytesPerPeriod : Nat := 3840
def axAudioPeriods : UInt32 := 8
def axAudioRxResidentPeriods : UInt16 := 7
def bounceMaxFrames : UInt32 := 960
def axAudioRxStatusCapable : UInt16 := 0x8000
def axAudioRxStatusPeriodShift : UInt16 := 12
def axAudioRxStatusPeriodMask : UInt16 := 0x7000
def axAudioRxStatusSequenceMask : UInt16 := 0x0fff

def axAudioRxStatusPeriod (status : UInt16) : UInt8 :=
  ((status &&& axAudioRxStatusPeriodMask) >>> axAudioRxStatusPeriodShift).toUInt8

def axAudioRxStatusSequence (status : UInt16) : UInt16 := status &&& axAudioRxStatusSequenceMask

def axAudioRxSequenceDistance (newer older : UInt16) : UInt16 :=
  (newer - older) &&& axAudioRxStatusSequenceMask

/-- The fields of `struct AHIAudioCtrlDrv` that capture reads. -/
structure AudioCtrl where
  buffSamples : UInt32
  samplerFunc : Bool
  deriving DecidableEq, Repr

/-- The fields of `struct z9ax` that capture works with. -/
structure Capture where
  recordSequence : UInt16
  recordStop : Bool
  deriving DecidableEq, Repr

/-- What the sampler hook gets: the frames at `ahirm_Buffer`, and how many. -/
structure RecordMessage where
  buffer : List UInt8
  length : UInt32
  deriving DecidableEq, Repr

/-- The slot of the ring with period `index` of the available ones. -/
def availableSlot (newestPeriod : UInt8) (available index : UInt16) : UInt8 :=
  ((newestPeriod.toUInt32 + axAudioPeriods - available.toUInt32 + 1 + index.toUInt32)
    % axAudioPeriods).toUInt8

/-- The message of a slot of the ring. -/
def slotMessage (ctrl : AudioCtrl) (rx : Nat → UInt8) (slot : UInt8) : RecordMessage :=
  { buffer := load rx (slot.toNat * axBytesPerPeriod) (ctrl.buffSamples <<< 2).toNat
    length := ctrl.buffSamples }

/-- The `for` loop. `stopped` is where the hook, or another task, stops the recording. -/
def deliverPeriods (ctrl : AudioCtrl) (rx : Nat → UInt8) (stopped : Nat → Bool)
    (newestPeriod : UInt8) (available : UInt16) (remaining : Nat) (index : UInt16) (c : Capture)
    : Capture × List RecordMessage :=
  match remaining with
  | 0 => (c, [])
  | remaining + 1 =>
    let message := slotMessage ctrl rx (availableSlot newestPeriod available index)
    let sent := if ctrl.samplerFunc then [message] else []
    let c := { c with recordStop := c.recordStop || stopped index.toNat }
    if c.recordStop then
      (c, sent)
    else
      let rest :=
        deliverPeriods ctrl rx stopped newestPeriod available remaining (index + 1) c
      (rest.1, sent ++ rest.2)

def processRecording (ctrl : AudioCtrl) (status : UInt16) (rx : Nat → UInt8)
    (stopped : Nat → Bool) (c : Capture) : Capture × List RecordMessage :=
  if status &&& axAudioRxStatusCapable = 0 then
    (c, [])
  else
    let sequence := axAudioRxStatusSequence status
    let available := axAudioRxSequenceDistance sequence c.recordSequence
    if available = 0 then
      (c, [])
    else
      let available :=
        if available > axAudioRxResidentPeriods then axAudioRxResidentPeriods else available
      if ctrl.buffSamples > bounceMaxFrames then
        ({ c with recordSequence := sequence }, [])
      else
        let newestPeriod := axAudioRxStatusPeriod status
        let rest :=
          deliverPeriods ctrl rx stopped newestPeriod available available.toNat 0 c
        ({ rest.1 with recordSequence := sequence }, rest.2)

/-- One wake-up of the worker: how many periods the card has completed, its ring, and the stops. -/
structure Wakeup where
  completed : Nat
  rx : Nat → UInt8
  stopped : Nat → Bool

/-- The status after `completed` periods. -/
def cardStatus (completed : Nat) : UInt16 :=
  axAudioRxStatusCapable ||| (UInt16.ofNat ((completed + 7) % 8) <<< axAudioRxStatusPeriodShift)
    ||| UInt16.ofNat (completed % 4096)

/-- The worker calls `process_recording` at each wake-up while the recording is not stopped. -/
def runCapture (ctrl : AudioCtrl) (wakeups : List Wakeup) (c : Capture)
    : Capture × List (List RecordMessage) :=
  match wakeups with
  | [] => (c, [])
  | w :: wakeups =>
    let woken :=
      if c.recordStop then
        (c, [])
      else
        processRecording ctrl (cardStatus w.completed) w.rx w.stopped c
    let rest := runCapture ctrl wakeups woken.1
    (rest.1, woken.2 :: rest.2)

end ZZAhi
