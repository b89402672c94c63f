import ZZ9000.Concurrency.Pool
import ZZ9000.Mhi.Player

/-!
This module contains the calls of `mhizz9000.library` and the iteration of its feeder as coroutines.
A task can be preempted before each access to the player outside of `Forbid`; what is done under
`Forbid` is one access. Signals are left out: the feeder may begin an iteration at any time.
-/

namespace ZZMhi

open Concurrency
open Concurrency.Coroutine (read modify answer note pause)

/-- The status words of the mailbox that the driver tells apart. -/
inductive MhiRc where
  | ok
  | busy
  | timeout
  | badHandle
  | error
  deriving DecidableEq, Repr

/--
What the environment answers to a mailbox call, an allocation or a copy. `flag` is the answer of a
call that only succeeds or fails, and `bytes` are what a copy finds in a buffer that has been given
back to the application.
-/
structure MhiAnswer where
  rc : MhiRc
  result : StreamResult
  flag : Bool
  ptr : Nat
  bytes : List UInt8

/-- What a task knows where it can be interrupted. -/
inductive MhiPoint where
  | free
  /-- The task has `io_lock`. -/
  | locked
  /-- `MHIPlay` was called after so many stops. -/
  | called (entry : Nat)
  /-- The same, and it has `io_lock`. -/
  | reading (entry : Nat)
  /-- `MHIPlay` has read the transport generation after so many stops. -/
  | entered (stops : Nat)
  /-- The same, and there is no session. -/
  | opening (stops : Nat)
  /-- The same, and the result names a session that the firmware has begun. -/
  | begun (stops : Nat)
  /-- The same, and this is the session of the player. -/
  | counting (stops : Nat)
  /-- The same, and its bytes are counted from zero. -/
  | opened (stops : Nat)
  /-- `MHIPlay` has found that a stop came in between. -/
  | cancelling (stops : Nat)
  /-- The same, and it has closed the session. -/
  | cancelled (stops : Nat)
  /-- `MHIStop` is going to close the session. -/
  | stopping
  /-- `MHIStop` has `io_lock` for that. -/
  | closing
  /-- The same, and there is no session any more. -/
  | closed
  /-- The feeder has `io_lock`, and there is a session. -/
  | serving
  /-- The feeder works on the node that it found after so many stops. -/
  | feeding (stops : Nat) (node : ListNode)
  /-- The same, and the staging buffer does not hold the chunk. -/
  | copying (stops : Nat) (node : ListNode) (chunk : Nat)
  /-- The same, with the chunk in the staging buffer. -/
  | staged (stops : Nat) (node : ListNode) (chunk : Nat)
  /-- The firmware has accepted the chunk. -/
  | accepted (stops : Nat) (node : ListNode) (chunk : Nat)
  /-- The same, and the staging buffer is not said to hold it any more. -/
  | forgotten (stops : Nat) (node : ListNode) (chunk : Nat)
  /-- The firmware has drained the stream. -/
  | drained
  deriving DecidableEq, Repr

inductive MhiWait where
  | ready
  | ioLock
  | mailbox
  /-- A loop of the model has taken all the turns it was given. -/
  | exhausted
  deriving DecidableEq, Repr

structure MhiWindow where
  wait : MhiWait
  point : MhiPoint
  deriving DecidableEq, Repr

/-- Where the theorems look at a run. -/
inductive MhiMark where
  /-- `MHIPlay`, called after `entry` stops, reads the transport generation. -/
  | playReads (entry : Nat)
  /-- `MHIPlay` compares it with the one of so many stops before. -/
  | playChecks (stops : Nat) (gen : UInt32)
  /-- `MHIPlay` goes on with a deferred bind. -/
  | rearm
  /-- `MHIStop` changes the status. -/
  | flip
  /-- The firmware has begun a session. -/
  | begun (session : UInt32)
  /-- A zero-length request restores the status that it found. -/
  | restore
  /-- `MHIQueueBuffer` has linked a buffer, in this status. -/
  | linked (status : MhiStatus)
  /-- The feeder takes a chunk. -/
  | scanned
  /-- The feeder compares the generation of the list with the one of so many stops before. -/
  | feedChecks (stops : Nat) (gen : UInt32)
  /-- The staging buffer is said to hold a chunk. -/
  | memo (stops : Nat) (node : ListNode) (chunk : Nat)
  /-- Buffers are looked at for completion. -/
  | complete (drainAll : Bool)
  deriving DecidableEq, Repr

abbrev Mhi (α : Type) := Coroutine MhiPlayer MhiMark MhiWindow MhiAnswer α

/-- The task may be preempted here. -/
def ready (p : MhiPoint) : Mhi Unit := pause ⟨.ready, p⟩

def load (p : MhiPoint) (f : MhiPlayer → α) : Mhi α := do
  ready p
  return f (← read)

/-- A store, or a section under `Forbid`. -/
def store (p : MhiPoint) (f : MhiPlayer → MhiPlayer) : Mhi Unit := do
  ready p
  modify f

def obtain (t : MhiTask) (p q : MhiPoint) : Mhi Unit := do
  ready p
  pause ⟨.ioLock, q⟩
  modify fun s => { s with ioLock := some t }

def release (p : MhiPoint) : Mhi Unit :=
  store p fun s => { s with ioLock := none }

/-- A mailbox call that leaves the player alone. -/
def mailbox (p : MhiPoint) : Mhi MhiAnswer := do
  ready p
  pause ⟨.mailbox, p⟩
  answer

/-- A mailbox call that writes `mp->result`. -/
def mailboxResult (p : MhiPoint) : Mhi MhiRc := do
  let a ← mailbox p
  modify fun s => { s with result := a.result }
  return a.rc

/-- `mhi_complete_consumed` -/
def completeConsumed (p : MhiPoint) (drainAll : Bool) : Mhi Unit := do
  ready p
  note (.complete drainAll)
  modify (MhiPlayer.completeConsumed drainAll)

/-- `mhi_stream_apply_gain` -/
def streamApplyGain (p : MhiPoint) : Mhi Unit := do
  if (← load p (·.streamGainCapped)) && (← load p (·.session)) != 0 then
    let _ ← mailbox p

/-- The buffers of `mhi_stream_open`. -/
def allocateRings (p : MhiPoint) : Mhi Bool := do
  if ← load p (·.ringsAllocated) then
    return true
  let staging ← mailbox p
  if staging.rc ≠ .ok then
    return false
  let mp3 ← mailbox p
  if mp3.rc ≠ .ok then
    let _ ← mailbox p
    return false
  let pcm ← mailbox p
  if pcm.rc ≠ .ok then
    let _ ← mailbox p
    let _ ← mailbox p
    return false
  store p fun s => { s with ringsAllocated := true }
  return true

/-- The end of `mhi_stream_open`: the firmware has begun a session. -/
def adoptSession (stops : Nat) : Mhi Unit := do
  store (.begun stops) fun s => { s with session := s.result.session }
  let p := .counting stops
  streamApplyGain p
  store p fun s => { s with backpressure := false }
  store p fun s => { s with eofAnnounced := false }
  store p fun s => { s with drainRequested := false }
  store p fun s => { s with starvationPolls := 0 }
  store p fun s => { s with submittedBytes := 0, ghost.stream.counted := true }
  store (.opened stops) fun s => { s with feedsAccepted := 0 }

/-- `mhi_stream_open`, of an `MHIPlay` that read the generation after so many stops. -/
def streamOpen (stops : Nat) : Mhi Bool := do
  if (← load (.entered stops) (·.session)) != 0 then
    return true
  if !(← allocateRings (.opening stops)) then
    return false
  if !(← answer).flag then
    return false
  let a ← mailbox (.opening stops)
  modify fun s => { s with result := a.result }
  if a.rc ≠ .ok then
    return false
  note (.begun a.result.session)
  modify MhiPlayer.begun
  adoptSession stops
  return true

/-- The attempts of `mhi_stream_close` to close the session. -/
def closeTries (p : MhiPoint) (tries : Nat) : Mhi MhiRc :=
  match tries with
  | 0 => return .busy
  | tries + 1 => do
    let a ← mailbox p
    if a.rc ≠ .busy then
      return a.rc
    closeTries p tries

/-- `mhi_stream_close`, at `p` with the session and at `q` without one. -/
def streamClose (p q : MhiPoint) : Mhi Unit := do
  if (← load p (·.session)) = 0 then
    return
  let _ ← mailbox p
  let rc ← closeTries p 25
  store p fun s => { s with session := 0, ghost.stream.counted := false }
  store q fun s => { s with staged := none }
  store q fun s => { s with playPending := false }
  store q fun s => { s with eofAnnounced := false }
  store q fun s => { s with drainRequested := false }
  store q fun s => { s with starvationPolls := 0 }
  store q fun s => { s with submittedBytes := 0 }
  if rc ≠ .ok ∧ rc ≠ .badHandle then
    store q fun s => { s with ringsAllocated := false }

/-- `mhi_try_bind`. The result is what it did last; nobody looks at it. -/
def tryBind (p : MhiPoint) : Mhi Unit := do
  if !(← load p (·.playPending)) || (← load p (·.session)) = 0 then
    return
  if (← load p (·.status)) ≠ .playing then
    return
  if !(← load p (·.result.pcmReady)) || (← load p (·.result.sampleRate)) = 0 then
    if (← mailboxResult p) ≠ .ok then
      return
    if !(← load p (·.result.pcmReady)) || (← load p (·.result.sampleRate)) = 0 then
      return
  if (← mailboxResult p) ≠ .ok then
    return
  streamApplyGain p
  store p fun s => { s with playPending := false }

/-- A `FEED` that appends nothing: whether it was accepted. -/
def feedRequest (p : MhiPoint) : Mhi Bool := do
  if !(← answer).flag then
    return false
  if (← mailboxResult p) ≠ .ok then
    return false
  return !(← load p (·.result.backpressure))

/-- `mhi_stream_feed_eof_locked` -/
def streamFeedEofLocked : Mhi Bool := do
  let p := .locked
  if (← load p (·.session)) = 0 || (← load p (·.haveUnfed)) || (← load p (·.feedsAccepted)) = 0 then
    return false
  if (← load p (·.eofAnnounced)) then
    return true
  if !(← feedRequest p) then
    return false
  store p fun s => { s with eofAnnounced := true }
  store p fun s => { s with drainRequested := false }
  store p fun s => { s with starvationPolls := 0 }
  completeConsumed p false
  tryBind p
  return true

/-- The end of `mhi_stream_eof`: the request was refused. -/
def restoreOutOfData (transportGen : UInt32) : Mhi Unit := do
  ready .locked
  let now ← read
  if now.transportGen == transportGen && now.status == .playing then
    note .restore
    modify fun s => { s with status := .outOfData }

/-- The test of `mhi_stream_eof` under `Forbid`. -/
def MhiPlayer.canFeed (s : MhiPlayer) : Bool :=
  s.session != 0 && !s.haveUnfed && (s.status == .playing || s.status == .outOfData)

/-- `mhi_stream_eof` -/
def streamEof (t : MhiTask) : Mhi Unit := do
  obtain t .free .free
  ready .locked
  let s ← read
  if s.canFeed then
    modify MhiPlayer.reenter
    if !(← streamFeedEofLocked) && s.status == .outOfData then
      restoreOutOfData s.transportGen
  else if s.status = .outOfData then
    restoreOutOfData 0
  release .locked

/-- `mhi_stream_feed_drain_locked` -/
def streamFeedDrainLocked : Mhi Bool := do
  let p := .serving
  if (← load p (·.session)) = 0 || (← load p (·.haveUnfed)) || (← load p (·.feedsAccepted)) = 0 then
    return false
  if (← load p (·.drainRequested)) then
    return true
  if !(← feedRequest p) then
    return false
  ready p
  let accepted := !(← read).haveUnfed
  modify fun s => if accepted then { s with drainRequested := true, starvationPolls := 0 } else s
  completeConsumed p false
  tryBind p
  return accepted

/-- The part of `mhi_stream_service_drain` that asks for a drain. Whether one has been accepted. -/
def serviceRequest : Mhi Bool := do
  let p := .serving
  if (← load p (·.drainRequested)) then
    return true
  if !(← load p (·.result.needInput)) then
    store p fun s => { s with starvationPolls := 0 }
    return false
  let polls ← load p (·.starvationPolls)
  store p fun s =>
    if polls < drainIdlePolls then { s with starvationPolls := s.starvationPolls + 1 } else s
  if (← load p (·.starvationPolls)) < drainIdlePolls then
    return false
  streamFeedDrainLocked

/-- The part of `mhi_stream_service_drain` after a failed request. -/
def serviceFailed (rc : MhiRc) : Mhi Unit := do
  if rc = .busy ∨ rc = .timeout then
    return
  store .serving MhiPlayer.statusFailed

/-- `mhi_stream_service_drain`. Whether the feeder is to come back soon is not modelled. -/
def streamServiceDrain : Mhi Unit := do
  let p := .serving
  if (← load p (·.session)) = 0 || (← load p (·.status)) ≠ .playing || (← load p (·.haveUnfed))
      || (← load p (·.feedsAccepted)) = 0 then
    store p fun s => { s with starvationPolls := 0 }
    return
  let _ ← load p (·.playPending)
  let rc ← mailboxResult p
  if rc ≠ .ok then
    serviceFailed rc
  else
    completeConsumed p false
    if (← load p (·.eofAnnounced)) then
      if (← load p (·.result.done)) then
        store p MhiPlayer.outOfData
    else if (← serviceRequest) then
      if (← load p (·.result.drained)) then
        completeConsumed .drained true
        store p MhiPlayer.outOfData

/-- The copy of `mhi_feed_pending`: whether the chunk lies in the staging buffer. -/
def stageChunk (stops : Nat) (node : ListNode) (key : StagedKey) : Mhi Bool := do
  if (← load (.feeding stops node) (·.staged)) = some key then
    note (.memo stops node key.chunk)
    return true
  ready (.copying stops node key.chunk)
  let a ← answer
  if !a.flag then
    return false
  modify fun s => { s with
    staging :=
      if s.ghost.stops = stops then (node.data.drop node.index).take key.chunk else a.bytes }
  store (.staged stops node key.chunk) fun s => { s with
    staged := some key, ghost.stagedStops := stops }
  return true

/-- The `FEED` of `mhi_feed_pending`: whether the chunk was accepted. -/
def feedChunk (stops : Nat) (node : ListNode) (chunk : Nat) : Mhi Bool := do
  if !(← answer).flag then
    return false
  let a ← mailbox (.staged stops node chunk)
  modify fun s => { s with result := a.result }
  if a.rc ≠ .ok then
    return false
  if a.result.backpressure then
    completeConsumed .serving false
    store .serving fun s => { s with backpressure := true }
    return false
  modify fun s => s.append (s.staging.take chunk)
  return true

/-- The end of the loop of `mhi_feed_pending`: whether the list is still the same. -/
def accountChunk (stops : Nat) (node : ListNode) (key : StagedKey) : Mhi Bool := do
  let p := .accepted stops node key.chunk
  store p fun s => { s with backpressure := false }
  store p fun s => { s with staged := none }
  let p := .forgotten stops node key.chunk
  store p fun s => { s with feedsAccepted := s.feedsAccepted + 1 }
  ready p
  note (.feedChecks stops key.gen)
  modify fun s => if s.listGen = key.gen then s.account node.ptr key.chunk else s
  if (← load .serving (·.listGen)) ≠ key.gen then
    return false
  completeConsumed .serving false
  return true

/-- `mhi_feed_pending`, for so many turns of its loop. -/
def feedPending (turns : Nat) : Mhi Unit :=
  match turns with
  | 0 => pause ⟨.exhausted, .serving⟩
  | turns + 1 => do
    ready .serving
    let s ← read
    modify MhiPlayer.scan
    match firstUnfed s.bufferList with
    | none => return
    | some node =>
      note .scanned
      let stops := s.ghost.stops
      let stagingLength ← load (.feeding stops node) (·.stagingLength)
      let chunk := min (node.size - node.index) stagingLength
      let key : StagedKey := ⟨s.listGen, node.ptr, node.index, chunk⟩
      if ← stageChunk stops node key then
        if ← feedChunk stops node chunk then
          if ← accountChunk stops node key then
            feedPending turns

/-- One iteration of the loop of `mhi_feeder`. -/
def feederIteration (turns : Nat) : Mhi Unit := do
  obtain .feeder .free .free
  if (← load .locked (·.session)) != 0 then
    if (← load .serving (·.status)) = .playing then
      feedPending turns
      tryBind .serving
      streamServiceDrain
  release .locked

/-- `i_MHIQueueBuffer`. The new node is at an address that no node of the list has. -/
def mhiQueueBuffer (t : MhiTask) (buffer : Nat) (data : List UInt8) : Mhi Unit := do
  if data = [] then
    streamEof t
  else if buffer = 0 then
    return
  else
    let a ← answer
    if !a.flag then
      return
    ready .free
    let s ← read
    if a.ptr ∉ s.bufferList.map ListNode.ptr then
      modify (MhiPlayer.addTail a.ptr buffer data)
      note (.linked s.status)

/-- `i_MHIGetEmpty` -/
def mhiGetEmpty : Mhi Unit :=
  store .free MhiPlayer.remHead

/-- A stream that has been opened after so many stops is published, unless a stop came in between. -/
def publish (stops : Nat) (gen : UInt32) : Mhi Unit := do
  ready (.opened stops)
  note (.playChecks stops gen)
  let s ← read
  if s.transportGen ≠ gen then
    streamClose (.cancelling stops) (.cancelled stops)
    store (.cancelled stops) fun s => { s with ioLock := none, ghost.opening := none }
  else if s.pausePending then
    modify fun s => { s with
      pausePending := false, status := .paused, playPending := true, ghost.opening := none }
    release .locked
  else
    modify fun s => { s with status := .playing, playPending := true, ghost.opening := none }
    release .locked

/-- The case of `MHIPlay` for a stopped stream and for one that has run out of data. -/
def playOpen (t : MhiTask) (entry : Nat) : Mhi Unit := do
  obtain t (.called entry) (.called entry)
  ready (.reading entry)
  note (.playReads entry)
  let s ← read
  let stops := s.ghost.stops
  modify fun s => { s with pausePending := false, ghost.opening := some stops }
  if ← streamOpen stops then
    publish stops s.transportGen
  else
    store (.opening stops) fun s => { s with ioLock := none, ghost.opening := none }

/-- The rest of the case of `MHIPlay` for a paused stream: it goes on without a gap. -/
def resume : Mhi Unit := do
  if (← load .locked (·.status)) = .paused then
    if (← mailboxResult .locked) = .ok then
      streamApplyGain .locked
      store .locked MhiPlayer.resumed
  release .locked

/-- The case of `MHIPlay` for a paused stream. -/
def playPaused (t : MhiTask) : Mhi Unit := do
  if (← load .free (·.playPending)) then
    ready .free
    note .rearm
    modify fun s => { s with status := .playing }
  else
    obtain t .free .free
    resume

/-- `i_MHIPlay` -/
def mhiPlay (t : MhiTask) : Mhi Unit := do
  let entry := (← read).ghost.stops
  modify fun s => { s with ghost.halted := false }
  match ← load (.called entry) (·.status) with
  | .stopped => playOpen t entry
  | .outOfData => playOpen t entry
  | .paused => playPaused t
  | .playing => return

/-- The rest of `i_MHIStop`: the session is closed. -/
def stopClose (t : MhiTask) : Mhi Unit := do
  obtain t .stopping .stopping
  streamClose .closing .closed
  store .closed fun s =>
    { s with ioLock := none, ghost.closing := Function.update s.ghost.closing t false }

/-- `i_MHIStop` -/
def mhiStop (t : MhiTask) : Mhi Unit := do
  ready .free
  note .flip
  let s ← read
  modify (MhiPlayer.flip t)
  if s.status ≠ .stopped then
    stopClose t

/-- The rest of `i_MHIPause`: the session is not played any more. -/
def pauseStop (t : MhiTask) : Mhi Unit := do
  if (← load .free (·.session)) != 0 then
    obtain t .free .free
    if (← load .locked (·.session)) != 0 then
      let _ ← mailbox .locked
    release .locked

/-- `i_MHIPause` -/
def mhiPause (t : MhiTask) : Mhi Unit := do
  ready .free
  let s ← read
  modify MhiPlayer.pause
  if s.status = .playing then
    pauseStop t

inductive MhiCall where
  | iteration (turns : Nat)
  | queueBuffer (buffer : Nat) (data : List UInt8)
  | getEmpty
  | play
  | stop
  | pause
  deriving DecidableEq, Repr

def MhiCall.body (t : MhiTask) (call : MhiCall) : Mhi Unit :=
  match call with
  | .iteration turns => feederIteration turns
  | .queueBuffer buffer data => mhiQueueBuffer t buffer data
  | .getEmpty => mhiGetEmpty
  | .play => mhiPlay t
  | .stop => mhiStop t
  | .pause => mhiPause t

/-- The feeder iterates, the other tasks call the library. -/
def MhiCall.allowed (t : MhiTask) (call : MhiCall) : Bool :=
  match t, call with
  | .feeder, .iteration _ => true
  | .app _, .iteration _ => false
  | .feeder, _ => false
  | .app _, _ => true

/-- A task waits for `io_lock` until nobody has it. -/
def mhiCanResume (w : MhiWindow) (s : MhiPlayer) : Bool :=
  match w.wait with
  | .ready => true
  | .mailbox => true
  | .ioLock => s.ioLock.isNone
  | .exhausted => false

def mhiPool : Pool MhiTask MhiCall MhiPlayer MhiMark MhiWindow MhiAnswer where
  body := MhiCall.body
  canCall := fun t call _ => call.allowed t
  canResume := fun _ w s => mhiCanResume w s

/-- The answers of a firmware that has played all it got. -/
def drainedAnswer (rc : MhiRc) (ptr : Nat) : MhiAnswer where
  rc := rc
  result := ⟨1, false, true, true, true, false, 44100, 0⟩
  flag := true
  ptr := ptr
  bytes := []

/-- The task makes the call and goes on with it for so many sections, getting the same answer. -/
def MhiCall.sections (t : MhiTask) (call : MhiCall) (resumes : Nat) (a : MhiAnswer)
    : List (Pool.Action MhiTask MhiCall MhiAnswer) :=
  .call t call [a] :: List.replicate resumes (.resume t [a])

/-- A player as `MHIAllocDecoder` leaves it. -/
def MhiPlayer.init (stagingLength : Nat) (result : StreamResult) (streamGainCapped : Bool)
    : MhiPlayer where
  status := .stopped
  session := 0
  bufferList := []
  listGen := 0
  haveUnfed := false
  staged := none
  staging := []
  stagingLength := stagingLength
  result := result
  backpressure := false
  eofAnnounced := false
  drainRequested := false
  starvationPolls := 0
  submittedBytes := 0
  feedsAccepted := 0
  playPending := false
  pausePending := false
  transportGen := 0
  ringsAllocated := false
  streamGainCapped := streamGainCapped
  ioLock := none
  ghost := ⟨0, fun _ => false, none, false, 0, [], [], [], ⟨false, false, [], [], []⟩⟩

end ZZMhi
