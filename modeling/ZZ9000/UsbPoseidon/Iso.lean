import Mathlib.Data.UInt
import Mathlib.Logic.Function.Basic

/-!
This module contains the planning of realtime ISO packets and the lifecycle of a realtime ISO slot
from `zzusb_iso.c`.
-/

namespace ZZUsb

def isoHeaderSize : Nat := 32
def isoPacketSize : Nat := 16
def isoMaxPackets : Nat := 32
def isoDataMax : Nat := 15840
def isoPipelineDepth : Nat := 4

namespace RtFlag

def missed : UInt16 := 0x1000
def overrun : UInt16 := 0x2000
def underrun : UInt16 := 0x4000
def packetError : UInt16 := 0x8000

end RtFlag

namespace IsoPacket

def ok : UInt8 := 0
def short : UInt8 := 2
def missed : UInt8 := 3
def underrun : UInt8 := 4
def overrun : UInt8 := 5
def babble : UInt8 := 9

end IsoPacket

def isoTopologySupported (highSpeed split : Bool) : Bool := highSpeed || split

def isoPayloadSize (encodedMaxPacket : UInt16) : UInt16 :=
  let base := encodedMaxPacket &&& 0x07ff
  let multiplier := (1 : UInt16) + ((encodedMaxPacket >>> 11) &&& 3)
  if base = 0 ∨ base > 1024 ∨ multiplier > 3 ∨ encodedMaxPacket &&& 0xe000 ≠ 0 then
    0
  else
    base * multiplier

/-- How many packets of `payload` bytes, one every `step` microframes, go into a batch. -/
def isoRealtimeCount (payload step capacity : Nat) : Nat :=
  let timeLimit := if step > 32768 then 1 else 32768 / step
  let timeLimit := if timeLimit = 0 then 1 else timeLimit
  let count := if step < 32 then (32 + step - 1) / step else 1
  let count := min count (isoDataMax / payload)
  let count := min count isoMaxPackets
  let count := min count capacity
  min count timeLimit

/-- The lengths of the packets of a batch and the microframes it lasts. -/
def isoPlanRealtime (encodedMaxPacket interval : UInt16) (highSpeed : Bool) (capacity : Nat)
    : Option (List UInt16 × Nat) :=
  let payload := isoPayloadSize encodedMaxPacket
  if capacity = 0 ∨ payload = 0 ∨ interval = 0 ∨ payload.toNat > isoDataMax then
    none
  else if interval > 32768 ∨ interval &&& (interval - 1) ≠ 0 then
    none
  else
    let step := interval.toNat * (if highSpeed then 1 else 8)
    let count := isoRealtimeCount payload.toNat step capacity
    if count = 0 then none else some (List.replicate count payload, count * step)

/-- The loop of `zzusb_iso_limit_packet_count` over the packets after the first `count`. -/
def isoLimitFrom (wireCapacity count totalData : Nat) (lengths : List UInt16) : Nat :=
  match lengths with
  | [] => count
  | length :: lengths =>
    let totalData := totalData + length.toNat
    if isoHeaderSize + (count + 1) * isoPacketSize + totalData > wireCapacity then
      count
    else
      isoLimitFrom wireCapacity (count + 1) totalData lengths

def isoLimitPacketCount (lengths : List UInt16) (wireCapacity : Nat) : Nat :=
  if lengths.length > isoMaxPackets then 0 else isoLimitFrom wireCapacity 0 0 lengths

/-- The size of the wire image that `zzusb_iso_build_queue` writes from microframe 0 on. -/
def isoBuildQueueSize (capacity : Nat) (batchId : UInt32) (lengths : List UInt16) (directionIn : Bool)
    : Nat :=
  let totalData := (lengths.map UInt16.toNat).sum
  if batchId = 0 ∨ lengths = [] ∨ lengths.length > isoMaxPackets ∨ totalData > isoDataMax then
    0
  else
    let wireSize := isoHeaderSize + lengths.length * isoPacketSize + (if directionIn then 0 else totalData)
    if wireSize > capacity then 0 else wireSize

def isoStatusFlags (packetStatus : UInt8) : UInt16 :=
  if packetStatus = IsoPacket.ok ∨ packetStatus = IsoPacket.short then
    0
  else if packetStatus = IsoPacket.missed then
    RtFlag.missed ||| RtFlag.packetError
  else if packetStatus = IsoPacket.underrun then
    RtFlag.underrun ||| RtFlag.packetError
  else if packetStatus = IsoPacket.overrun ∨ packetStatus = IsoPacket.babble then
    RtFlag.overrun ||| RtFlag.packetError
  else
    RtFlag.packetError

inductive RtState where
  | free
  | added
  | running
  | stopping
  | stopped
  deriving DecidableEq, Repr

/-- `struct zzusb_rt_lifecycle` -/
structure RtLifecycle where
  queuedIds : Fin isoPipelineDepth → UInt32
  nextBatchId : UInt32
  state : RtState
  inFlight : Nat
  removePending : Bool
  stopAckPending : Bool

namespace RtLifecycle

def init : RtLifecycle where
  queuedIds := fun _ => 0
  nextBatchId := 0
  state := .free
  inFlight := 0
  removePending := false
  stopAckPending := false

def add (l : RtLifecycle) : Option RtLifecycle :=
  if l.state = .free then
    some { l with state := .added, nextBatchId := 1 }
  else
    none

def start (l : RtLifecycle) : Option RtLifecycle :=
  if l.stopAckPending = false ∧ (l.state = .added ∨ l.state = .stopped) then
    some { l with queuedIds := fun _ => 0, inFlight := 0, state := .running, stopAckPending := true }
  else
    none

def queue (l : RtLifecycle) : Option (UInt32 × RtLifecycle) :=
  if h : l.state = .running ∧ l.inFlight < isoPipelineDepth then
    let batchId := if l.nextBatchId = 0 then 1 else l.nextBatchId
    some (batchId,
      { l with
        nextBatchId := batchId + 1
        queuedIds := Function.update l.queuedIds ⟨l.inFlight, h.2⟩ batchId
        inFlight := l.inFlight + 1 })
  else
    none

/-- `queuedIds` without the entry at `index`, the later ones moved down. -/
def removedAt (l : RtLifecycle) (index : Fin isoPipelineDepth) : Fin isoPipelineDepth → UInt32 :=
  fun j =>
    if j.val + 1 = l.inFlight then
      0
    else if h : index ≤ j ∧ j.val + 1 < l.inFlight ∧ j.val + 1 < isoPipelineDepth then
      l.queuedIds ⟨j.val + 1, h.2.2⟩
    else
      l.queuedIds j

def complete (l : RtLifecycle) (batchId : UInt32) : Option RtLifecycle :=
  if batchId = 0 ∨ l.state ≠ .running then
    none
  else
    match (List.finRange isoPipelineDepth).find? fun i =>
        decide (i.val < l.inFlight) && l.queuedIds i = batchId with
    | none => none
    | some index => some { l with queuedIds := l.removedAt index, inFlight := l.inFlight - 1 }

def beginStop (l : RtLifecycle) : Option RtLifecycle :=
  if l.state = .running then
    some { l with state := .stopping }
  else
    none

def ackStop (l : RtLifecycle) : Option RtLifecycle :=
  if l.stopAckPending = false then
    none
  else if l.state = .running then
    some { l with state := .stopping, stopAckPending := false }
  else if l.state = .stopping ∨ l.state = .stopped then
    some { l with stopAckPending := false }
  else
    none

def finishStop (l : RtLifecycle) : Option RtLifecycle :=
  if l.state = .stopping then
    if l.removePending then
      some init
    else
      some { l with queuedIds := fun _ => 0, inFlight := 0, state := .stopped }
  else
    none

def remove (l : RtLifecycle) : Option RtLifecycle :=
  if l.state = .added ∨ l.state = .stopped then
    some init
  else
    none

def requestRemove (l : RtLifecycle) : Option RtLifecycle :=
  if l.state = .added ∨ l.state = .stopped then
    l.remove
  else if l.state = .running ∨ l.state = .stopping then
    some { l with state := .stopping, removePending := true }
  else
    none

end RtLifecycle

end ZZUsb
