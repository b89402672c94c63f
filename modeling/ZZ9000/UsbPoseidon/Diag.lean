import Mathlib.Data.List.FinRange
import Mathlib.Data.UInt
import Mathlib.Logic.Function.Basic
import ZZ9000.Concurrency.Gaps

/-!
This module contains the driver diagnostics of `zzusb_engine.c`: the mutations, store by store, and
the snapshot, load by load, with the stores of another task in the gaps between the loads.
-/

namespace ZZUsb

open Concurrency

def diagMagic : UInt32 := 0x5a554444
def diagVersion : UInt16 := 1
def diagEventCount : UInt32 := 64
def diagCounterCount : UInt32 := 16

/-- `ZZUSB_DRIVER_COUNT_QUEUE_HIGH_WATER` -/
def countQueueHighWater : Fin 16 := ⟨9, by decide⟩

/-- `struct zzusb_driver_diag_event` -/
structure DiagEvent where
  sequence : UInt32
  requestId : UInt32
  controllerEpoch : UInt32
  detail : UInt32
  timestamp : UInt32
  type : UInt16
  status : UInt16
  address : UInt16
  topology : UInt16
  endpoint : UInt8
  direction : UInt8
  schedule : UInt16
  deriving DecidableEq

def DiagEvent.zero : DiagEvent := ⟨0, 0, 0, 0, 0, 0, 0, 0, 0, 0, 0, 0⟩

/-- The fields of `engine_diag` that a mutation works on. -/
structure DiagContents where
  nextSequence : UInt32
  lostEvents : UInt32
  counters : Fin 16 → UInt32
  events : Fin 64 → DiagEvent

structure DiagState where
  contents : DiagContents
  generation : UInt32

abbrev DiagStore := DiagContents → DiagContents

namespace DiagContents

/-- `engine_diag` when the driver is loaded. -/
def zero : DiagContents := ⟨0, 0, fun _ => 0, fun _ => .zero⟩

def setCounter (i : Fin 16) (value : UInt32) : DiagStore := fun c =>
  { c with counters := Function.update c.counters i value }

def modifyEvent (i : Fin 64) (f : DiagEvent → DiagEvent) : DiagStore := fun c =>
  { c with events := Function.update c.events i (f (c.events i)) }

end DiagContents

/-- The arguments of `zzusb_engine_diag_record`. -/
structure DiagRecord where
  type : UInt16
  status : UInt16
  requestId : UInt32
  controllerEpoch : UInt32
  address : UInt16
  endpoint : UInt8
  direction : UInt8
  topology : UInt16
  schedule : UInt16
  detail : UInt32
  timestamp : UInt32

def diagRingIndex (sequence : UInt32) : Fin 64 := Fin.ofNat 64 (sequence - 1).toNat

/-- The stores to one event, but for its sequence number. -/
def DiagRecord.stores (r : DiagRecord) : List (DiagEvent → DiagEvent) := [
  fun e => { e with requestId := r.requestId },
  fun e => { e with controllerEpoch := r.controllerEpoch },
  fun e => { e with detail := r.detail },
  fun e => { e with timestamp := r.timestamp },
  fun e => { e with type := r.type },
  fun e => { e with status := r.status },
  fun e => { e with address := r.address },
  fun e => { e with topology := r.topology },
  fun e => { e with endpoint := r.endpoint },
  fun e => { e with direction := r.direction },
  fun e => { e with schedule := r.schedule }]

/-- What `memset` stores to one event. -/
def DiagEvent.zeroStores : List (DiagEvent → DiagEvent) :=
  (fun e => { e with sequence := 0 }) ::
    DiagRecord.stores ⟨0, 0, 0, 0, 0, 0, 0, 0, 0, 0, 0⟩

inductive DiagMutation where
  | reset
  | count (counter : UInt32)
  | highWater (depth : UInt32)
  | record (r : DiagRecord)

/-- The stores of a mutation in their order. `none` if there is no mutation at all. -/
def DiagMutation.stores (m : DiagMutation) (c : DiagContents) : Option (List DiagStore) :=
  match m with
  | .reset =>
    let sequences : List DiagStore :=
      [fun c => { c with nextSequence := 0 }, fun c => { c with lostEvents := 0 }]
    let counters := (List.finRange 16).map fun i => DiagContents.setCounter i 0
    let events := (List.finRange 64).flatMap fun i =>
      DiagEvent.zeroStores.map (DiagContents.modifyEvent i)
    some (sequences ++ counters ++ events)
  | .count counter =>
    if h : counter < diagCounterCount then
      let i : Fin 16 := ⟨counter.toNat, UInt32.lt_iff_toNat_lt.mp h⟩
      some [DiagContents.setCounter i (c.counters i + 1)]
    else
      none
  | .highWater depth =>
    if depth ≤ c.counters countQueueHighWater then
      some []
    else
      some [DiagContents.setCounter countQueueHighWater depth]
  | .record r =>
    let sequence := c.nextSequence + 1
    let i := diagRingIndex sequence
    let lost : List DiagStore :=
      if diagEventCount < sequence then
        [fun c => { c with lostEvents := c.lostEvents + 1 }]
      else
        []
    let event : List (DiagEvent → DiagEvent) :=
      [fun e => { e with sequence := 0 }] ++ r.stores ++ [fun e => { e with sequence := sequence }]
    some ((fun c => { c with nextSequence := sequence }) ::
      lost ++ event.map (DiagContents.modifyEvent i))

/-- A whole mutation without interruption. -/
def DiagState.apply (d : DiagState) (m : DiagMutation) : DiagState :=
  match m.stores d.contents with
  | none => d
  | some stores =>
    let generation := d.generation + 1
    ⟨stores.foldl (fun c store => store c) d.contents, generation + 1⟩

/-- A mutation under way, with `generation` as `diag_mutation_begin` returned it. -/
structure DiagRun where
  stores : List DiagStore
  generation : UInt32

/-- What the mutating task does next. -/
inductive DiagMove where
  | start (m : DiagMutation)
  | store

/--
The diagnostics with the task that mutates them. `hooks` says whether the critical section hooks are
installed. What the rest records is not part of the driver: how many mutations have ended, the
contents between any two of them, and for each time that a snapshot compares the generation whether
a mutation was under way.
-/
structure DiagWorld where
  state : DiagState
  hooks : Bool
  running : Option DiagRun
  gaps : List (List DiagMove)
  ended : Nat
  settled : List DiagContents
  compares : List Bool

namespace DiagWorld

def start (hooks : Bool) (state : DiagState) (gaps : List (List DiagMove)) : DiagWorld :=
  ⟨state, hooks, none, gaps, 0, [state.contents], []⟩

def publish (w : DiagWorld) (state : DiagState) : DiagWorld :=
  { w with
    state := state
    running := none
    ended := w.ended + 1
    settled := w.settled ++ [state.contents] }

def move (w : DiagWorld) (m : DiagMove) : DiagWorld :=
  match m, w.running with
  -- mutations are serialized
  | .start _, some _ => w
  | .start m, none =>
    match m.stores w.state.contents with
    | none => w
    | some stores =>
      -- no task runs between the hooks
      if w.hooks then
        w.publish (w.state.apply m)
      else
        { w with running := some ⟨stores, w.state.generation + 1⟩ }
  | .store, none => w
  | .store, some ⟨[], generation⟩ => w.publish ⟨w.state.contents, generation + 1⟩
  | .store, some ⟨store :: stores, generation⟩ =>
    { w with
      state := ⟨store w.state.contents, w.state.generation⟩
      running := some ⟨stores, generation⟩ }

instance : Interrupted DiagWorld DiagMove where
  gaps := gaps
  setGaps := fun w gaps => { w with gaps := gaps }
  event := move
  gaps_setGaps := fun _ _ => rfl
  gaps_event := by
    intro w m
    unfold move publish
    split
    . rfl
    . split
      . rfl
      . split <;> rfl
    . rfl
    . rfl
    . rfl

/-- How many mutations have begun. -/
def begun (w : DiagWorld) : Nat := w.ended + if w.running.isSome then 1 else 0

/-- The contents between any two mutations, with the one under way brought to its end. -/
def moments (w : DiagWorld) : List DiagContents :=
  match w.running with
  | none => w.settled
  | some run => w.settled ++ [run.stores.foldl (fun c store => store c) w.state.contents]

end DiagWorld

/-- `struct zzusb_driver_diag_snapshot`. The events are the first `event_count`. -/
structure DiagSnapshot where
  magic : UInt32
  generation : UInt32
  version : UInt16
  eventCount : UInt16
  nextSequence : UInt32
  lostEvents : UInt32
  capabilities : UInt32
  controllerEpoch : UInt32
  counters : List UInt32
  events : List DiagEvent

abbrev DiagReader := StateM DiagWorld

def diagLoad {β : Type} (f : DiagState → β) : DiagReader β := fun w =>
  let w := Interrupted.elapse w
  (f w.state, w)

/-- The load of the generation at the end of an attempt. -/
def diagCompare : DiagReader UInt32 := fun w =>
  let w := Interrupted.elapse w
  (w.state.generation, { w with compares := w.compares ++ [w.running.isSome] })

def diagLoadEvent (i : Fin 64) : DiagReader DiagEvent := do
  let sequence ← diagLoad fun d => (d.contents.events i).sequence
  let requestId ← diagLoad fun d => (d.contents.events i).requestId
  let controllerEpoch ← diagLoad fun d => (d.contents.events i).controllerEpoch
  let detail ← diagLoad fun d => (d.contents.events i).detail
  let timestamp ← diagLoad fun d => (d.contents.events i).timestamp
  let type ← diagLoad fun d => (d.contents.events i).type
  let status ← diagLoad fun d => (d.contents.events i).status
  let address ← diagLoad fun d => (d.contents.events i).address
  let topology ← diagLoad fun d => (d.contents.events i).topology
  let endpoint ← diagLoad fun d => (d.contents.events i).endpoint
  let direction ← diagLoad fun d => (d.contents.events i).direction
  let schedule ← diagLoad fun d => (d.contents.events i).schedule
  return ⟨sequence, requestId, controllerEpoch, detail, timestamp, type, status, address, topology,
    endpoint, direction, schedule⟩

/-- The loop over the events. -/
def diagLoadEvents (first : UInt32) (indices : List Nat) : DiagReader (List DiagEvent) :=
  match indices with
  | [] => return []
  | i :: indices => do
    let sequence := first + i.toUInt32
    let seen ← diagLoad fun d => (d.contents.events (diagRingIndex sequence)).sequence
    if seen ≠ sequence then
      diagLoadEvents first indices
    else
      let event ← diagLoadEvent (diagRingIndex sequence)
      let events ← diagLoadEvents first indices
      return event :: events

def diagLoadSnapshot (capabilities controllerEpoch : UInt32) : DiagReader DiagSnapshot := do
  let next ← diagLoad fun d => d.contents.nextSequence
  let count := if next < diagEventCount then next else diagEventCount
  let first := if count ≠ 0 then next - count + 1 else 0
  let lostEvents ← diagLoad fun d => d.contents.lostEvents
  let counters ← (List.finRange 16).mapM fun i => diagLoad fun d => d.contents.counters i
  let events ← diagLoadEvents first (List.range count.toNat)
  return {
    magic := diagMagic
    generation := 0
    version := diagVersion
    eventCount := events.length.toUInt16
    nextSequence := next
    lostEvents
    capabilities
    controllerEpoch
    counters
    events }

/-- `none` for a return value of 0. -/
def diagSnapshot (capabilities controllerEpoch : UInt32) (retries : Nat) (w : DiagWorld)
    : Option DiagSnapshot × DiagWorld :=
  match retries with
  | 0 => (none, w)
  | retries + 1 =>
    let before := diagLoad (fun d => d.generation) w
    if before.1 &&& 1 ≠ 0 then
      diagSnapshot capabilities controllerEpoch retries before.2
    else
      let snapshot := diagLoadSnapshot capabilities controllerEpoch before.2
      let after := diagCompare snapshot.2
      if before.1 = after.1 then
        (some { snapshot.1 with generation := before.1 }, after.2)
      else
        diagSnapshot capabilities controllerEpoch retries after.2

end ZZUsb
