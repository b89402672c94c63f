import Mathlib.Data.UInt
import Mathlib.Logic.Function.Basic

/-!
This module contains the player of `mhizz9000.c`: the list of queued buffers, the state of the
stream session, and what is done to them under `Forbid`.
-/

namespace ZZMhi

/-- The feeder process, and the tasks that call the library. -/
inductive MhiTask where
  | feeder
  | app (n : Nat)
  deriving DecidableEq, Repr

inductive MhiStatus where
  | playing
  | stopped
  | outOfData
  | paused
  deriving DecidableEq, Repr

/-- There is a stream to go on with. -/
def MhiStatus.active (status : MhiStatus) : Bool := status != .stopped

/-- `struct ListNode` at the address `ptr`, with the bytes at `Buffer`. -/
structure ListNode where
  ptr : Nat
  buffer : Nat
  data : List UInt8
  index : Nat
  streamEnd : UInt32
  streamEndValid : Bool
  played : Bool
  deriving DecidableEq, Repr

def ListNode.size (node : ListNode) : Nat := node.data.length

/-- The buffer as the application knows it. -/
def ListNode.entry (node : ListNode) : Nat × List UInt8 := (node.buffer, node.data)

/-- The fields of `ZZ9KAudioStreamResult` that the driver reads. -/
structure StreamResult where
  session : UInt32
  backpressure : Bool
  pcmReady : Bool
  needInput : Bool
  drained : Bool
  done : Bool
  sampleRate : UInt32
  bytesConsumed : UInt32
  deriving DecidableEq, Repr

/-- The key of the chunk that lies in the staging buffer. -/
structure StagedKey where
  gen : UInt32
  node : Nat
  index : Nat
  chunk : Nat
  deriving DecidableEq, Repr

/--
What the firmware got in the session that was begun last. `input` came before the list of buffers
was drained, `late` are the chunks that came after that, and `basis` are the buffers that had been
queued when it was drained. `counted` says that `submitted_bytes` counts the input.
-/
structure StreamLog where
  fresh : Bool
  counted : Bool
  input : List UInt8
  late : List (List UInt8)
  basis : List (List UInt8)
  deriving DecidableEq, Repr

/--
What the theorems talk about and the code does not keep. `stops` counts the stops, `closing` are the
tasks between the flip of the status in `MHIStop` and the end of the close, `opening` says after how
many stops the `MHIPlay` that is opening a session has read the transport generation, `halted` says
that an `MHIStop` has changed the status and no `MHIPlay` was called since, `queued` and `returned`
are the buffers since the list was drained last, `accepted` is a chunk that the firmware has and the
list does not know of, and `stagedStops` are the stops before the staging buffer was filled.
-/
structure MhiGhost where
  stops : Nat
  closing : MhiTask → Bool
  opening : Option Nat
  halted : Bool
  stagedStops : Nat
  queued : List (Nat × List UInt8)
  returned : List (Nat × List UInt8)
  accepted : List UInt8
  stream : StreamLog

/-- `struct MhiPlayer`. `staged` is `none` where `staged_valid` is FALSE. -/
structure MhiPlayer where
  status : MhiStatus
  session : UInt32
  bufferList : List ListNode
  listGen : UInt32
  haveUnfed : Bool
  staged : Option StagedKey
  staging : List UInt8
  stagingLength : Nat
  result : StreamResult
  backpressure : Bool
  eofAnnounced : Bool
  drainRequested : Bool
  starvationPolls : Nat
  submittedBytes : UInt32
  feedsAccepted : UInt32
  playPending : Bool
  pausePending : Bool
  transportGen : UInt32
  ringsAllocated : Bool
  streamGainCapped : Bool
  ioLock : Option MhiTask
  ghost : MhiGhost

def drainIdlePolls : Nat := 4

/-- The signed comparison of `mhi_complete_consumed`. -/
def cursorReached (bytesConsumed streamEnd : UInt32) : Bool :=
  (bytesConsumed - streamEnd).toNat < 2 ^ 31

/-- The loop of `mhi_complete_consumed`. -/
def markPlayed (drainAll : Bool) (bytesConsumed : UInt32) (nodes : List ListNode)
    : List ListNode :=
  match nodes with
  | [] => []
  | node :: nodes =>
    if node.played then
      node :: markPlayed drainAll bytesConsumed nodes
    else if node.index < node.size || !node.streamEndValid
        || (!drainAll && !cursorReached bytesConsumed node.streamEnd) then
      node :: nodes
    else
      { node with played := true } :: markPlayed drainAll bytesConsumed nodes

/-- The first buffer that has not been fed to its end. -/
def firstUnfed (nodes : List ListNode) : Option ListNode :=
  nodes.find? fun node => node.index < node.size

/-- The chunk was accepted: move on in the buffer. -/
def ListNode.advance (node : ListNode) (chunk : Nat) (submittedBytes : UInt32) : ListNode :=
  let node := { node with index := node.index + chunk }
  if node.size ≤ node.index then
    { node with streamEnd := submittedBytes, streamEndValid := true }
  else
    node

@[simp]
theorem ListNode.size_advance (node : ListNode) (chunk : Nat) (submittedBytes : UInt32)
    : (node.advance chunk submittedBytes).size = node.size := by
  dsimp only [ListNode.advance]
  split <;> rfl

@[simp]
theorem ListNode.index_advance (node : ListNode) (chunk : Nat) (submittedBytes : UInt32)
    : (node.advance chunk submittedBytes).index = node.index + chunk := by
  dsimp only [ListNode.advance]
  split <;> rfl

@[simp]
theorem ListNode.ptr_advance (node : ListNode) (chunk : Nat) (submittedBytes : UInt32)
    : (node.advance chunk submittedBytes).ptr = node.ptr := by
  dsimp only [ListNode.advance]
  split <;> rfl

@[simp]
theorem ListNode.data_advance (node : ListNode) (chunk : Nat) (submittedBytes : UInt32)
    : (node.advance chunk submittedBytes).data = node.data := by
  dsimp only [ListNode.advance]
  split <;> rfl

@[simp]
theorem ListNode.entry_advance (node : ListNode) (chunk : Nat) (submittedBytes : UInt32)
    : (node.advance chunk submittedBytes).entry = node.entry := by
  dsimp only [ListNode.advance]
  split <;> rfl

@[simp]
theorem ListNode.played_advance (node : ListNode) (chunk : Nat) (submittedBytes : UInt32)
    : (node.advance chunk submittedBytes).played = node.played := by
  dsimp only [ListNode.advance]
  split <;> rfl

namespace MhiPlayer

def completeConsumed (drainAll : Bool) (s : MhiPlayer) : MhiPlayer :=
  { s with bufferList := markPlayed drainAll s.result.bytesConsumed s.bufferList }

/-- The scan of `mhi_feed_pending`. -/
def scan (s : MhiPlayer) : MhiPlayer :=
  { s with haveUnfed := (firstUnfed s.bufferList).isSome }

/-- The bookkeeping of an accepted chunk. -/
def account (node : Nat) (chunk : Nat) (s : MhiPlayer) : MhiPlayer :=
  let submittedBytes := s.submittedBytes + chunk.toUInt32
  { s with
    drainRequested := false
    starvationPolls := 0
    submittedBytes := submittedBytes
    bufferList := s.bufferList.map fun n =>
      if n.ptr = node then n.advance chunk submittedBytes else n
    ghost.accepted := [] }

/-- The node that `MHIQueueBuffer` fills at the address `ptr`. -/
def newNode (ptr buffer : Nat) (data : List UInt8) : ListNode where
  ptr := ptr
  buffer := buffer
  data := data
  index := 0
  streamEnd := 0
  streamEndValid := false
  played := false

/-- The buffer is linked, and a stream that had run out of data goes on. -/
def addTail (ptr buffer : Nat) (data : List UInt8) (s : MhiPlayer) : MhiPlayer :=
  { s with
    bufferList := s.bufferList ++ [newNode ptr buffer data]
    haveUnfed := true
    drainRequested := false
    starvationPolls := 0
    status := if s.status = .outOfData then .playing else s.status
    ghost.queued := s.ghost.queued ++ [(buffer, data)] }

/-- `MHIGetEmpty` -/
def remHead (s : MhiPlayer) : MhiPlayer :=
  match s.bufferList with
  | [] => s
  | node :: nodes =>
    if node.played then
      { s with
        bufferList := nodes
        ghost.returned := s.ghost.returned ++ [node.entry] }
    else
      s

/-- `drain_buffer_list_locked` -/
def drainBufferList (s : MhiPlayer) : MhiPlayer :=
  { s with
    bufferList := []
    listGen := s.listGen + 1
    haveUnfed := false
    ghost.queued := []
    ghost.returned := []
    ghost.stream.basis :=
      if s.ghost.stream.fresh then s.ghost.queued.map Prod.snd else s.ghost.stream.basis
    ghost.stream.fresh := false }

/-- The first section of `MHIStop`, of the task `t`. -/
def flip (t : MhiTask) (s : MhiPlayer) : MhiPlayer :=
  let drained := { s with
    status := .stopped
    playPending := false
    pausePending := false
    transportGen := s.transportGen + 1 }.drainBufferList
  { drained with
    backpressure := false
    drainRequested := false
    starvationPolls := 0
    ghost.stops := s.ghost.stops + 1
    ghost.halted := true
    ghost.closing :=
      if s.status = .stopped then
        s.ghost.closing
      else
        Function.update s.ghost.closing t true }

/-- The end of `mhi_stream_service_drain` under `Forbid`: the stream has run dry. -/
def outOfData (s : MhiPlayer) : MhiPlayer :=
  if s.status = .playing ∧ s.haveUnfed = false then { s with status := .outOfData } else s

/-- `mhi_stream_service_drain` after an answer that will not get better. -/
def statusFailed (s : MhiPlayer) : MhiPlayer :=
  if s.status = .playing then { s with status := .stopped, playPending := false } else s

/-- `mhi_stream_eof` lets the feeder go on with the rest of the stream. -/
def reenter (s : MhiPlayer) : MhiPlayer :=
  if s.status = .outOfData then { s with status := .playing } else s

/-- The publication of a resumed stream. -/
def resumed (s : MhiPlayer) : MhiPlayer :=
  if s.status = .paused then { s with status := .playing } else s

/-- The part of `i_MHIPause` under `Forbid`. -/
def pause (s : MhiPlayer) : MhiPlayer :=
  match s.status with
  | .playing => { s with status := .paused }
  | .stopped => { s with pausePending := true }
  | _ => s

/-- The firmware has appended a chunk to the input of the session. -/
def append (bytes : List UInt8) (s : MhiPlayer) : MhiPlayer :=
  if s.ghost.stream.fresh then
    { s with
      ghost.stream.input := s.ghost.stream.input ++ bytes
      ghost.accepted := bytes }
  else
    { s with ghost.stream.late := s.ghost.stream.late ++ [bytes] }

/-- The firmware has begun a session. -/
def begun (s : MhiPlayer) : MhiPlayer :=
  { s with
    ghost.stream := ⟨true, false, [], [], []⟩
    ghost.accepted := [] }

end MhiPlayer

end ZZMhi
