import ZZ9000.UsbPoseidon.WorkQueue

/-!
This module contains the bulk transfers of `execute_io`: a transfer is split into chunks, and an IN
transfer that waits for data is resumed where the last attempt of the worker left it.
-/

namespace ZZUsb

inductive UsbDir where
  | input
  | output
  deriving DecidableEq, Repr

def bulkChunk : UInt32 := 16384

def idleBulkSliceMs : UInt16 := 5

/-- The fields of an `IOUsbHWReq` that a bulk transfer reads. -/
structure BulkRequest where
  -- An address, zero for `NULL`. A buffer lies within the address space.
  data : Nat
  length : UInt32
  dir : UsbDir
  maxPktSize : UInt16
  nakTimeoutFlag : Bool
  nakTimeout : UInt16
  lowSpeedFlag : Bool
  deriving DecidableEq, Repr

structure BulkCommand where
  dataLength : UInt32
  timeoutMs : UInt16
  bulkInPoll : Bool
  dataOut : Option Nat
  deriving DecidableEq, Repr

/-- The completion of a chunk, with the data area of the mailbox. -/
structure BulkAnswer where
  -- An abort arrives before the chunk is sent, and the rest of the answer is not used.
  abort : Bool
  status : UInt16
  actualLength : UInt32
  data : Nat → UInt8

structure BulkAttempt where
  workSequence : UInt32
  controllerEpoch : UInt32
  realtimeActive : Bool
  answers : List BulkAnswer
  -- An abort arrives after the last chunk.
  abort : Bool

/-- The variables of the loop over the chunks, and what it did to the memory and the mailbox. -/
structure BulkLoop where
  lifecycle : EngineRequest
  bulkActual : UInt32
  userBuf : Nat
  totalActual : UInt32
  remaining : UInt32
  status : UInt16
  written : List (Nat × UInt8)
  returned : List UInt8
  commands : List BulkCommand

def bulkResumeWindow (requested completed : UInt32) : Option (UInt32 × UInt32) :=
  if completed > requested then none else some (completed, requested - completed)

def clamp (value limit : UInt32) : UInt32 := if value > limit then limit else value

namespace BulkRequest

def keepsProgress (request : BulkRequest) : Bool := request.dir = .input && !request.nakTimeoutFlag

def limit (request : BulkRequest) (realtimeActive : Bool) : UInt32 :=
  let rtPacket := request.maxPktSize.toUInt32 &&& (0x07ff : UInt32)
  if realtimeActive then
    if rtPacket ≠ 0 then rtPacket else 64
  else
    bulkChunk

def command (request : BulkRequest) (userBuf : Nat) (chunk : UInt32) : BulkCommand where
  dataLength := chunk
  timeoutMs :=
    if request.nakTimeoutFlag then
      if request.nakTimeout ≠ 0 then request.nakTimeout else 500
    else
      if request.dir = .input then idleBulkSliceMs else 500
  bulkInPoll := request.keepsProgress
  dataOut := if request.dir = .output ∧ userBuf ≠ 0 then some userBuf else none

end BulkRequest

/-- The first `count` bytes that the firmware returned. -/
def BulkAnswer.bytes (answer : BulkAnswer) (count : UInt32) : List UInt8 :=
  (List.range count.toNat).map answer.data

/-- The writes of `safe_copy` -/
def copyTo (address : Nat) (bytes : List UInt8) : List (Nat × UInt8) :=
  bytes.mapIdx fun k byte => (address + k, byte)

namespace BulkLoop

def abortWork (s : BulkLoop) (abort : Bool) : BulkLoop :=
  if abort then { s with lifecycle := s.lifecycle.abort.request } else s

/-- A chunk of which the firmware transferred `actual` bytes. -/
def transferred (s : BulkLoop) (request : BulkRequest) (answer : BulkAnswer) (actual : UInt32)
    : BulkLoop :=
  let bytes := answer.bytes actual
  let totalActual := s.totalActual + actual
  { s with
    written :=
      if request.dir = .input ∧ s.userBuf ≠ 0 then s.written ++ copyTo s.userBuf bytes
      else s.written
    returned := s.returned ++ bytes
    totalActual := totalActual
    bulkActual := if request.keepsProgress then totalActual else s.bulkActual
    -- This makes a pointer of `NULL`.
    userBuf := s.userBuf + actual.toNat
    remaining := s.remaining - actual }

/-- A pass of the loop, and whether there is another one. -/
def pass (s : BulkLoop) (request : BulkRequest) (limit : UInt32) (answer : BulkAnswer)
    : BulkLoop × Bool :=
  let s := s.abortWork answer.abort
  if s.lifecycle.abortRequested then
    ({ s with status := EngineStatus.cancelled }, false)
  else
    let chunk := clamp s.remaining limit
    let s := { s with
      status := answer.status
      commands := s.commands ++ [request.command s.userBuf chunk] }
    if answer.status ≠ EngineStatus.ok then
      (s, false)
    else
      let actual := clamp answer.actualLength chunk
      -- A short chunk ends a transfer in either direction.
      (s.transferred request answer actual, actual ≥ chunk)

/-- The loop over the chunks. There is no result while the firmware owes an answer. -/
def run (s : BulkLoop) (request : BulkRequest) (limit : UInt32) (answers : List BulkAnswer)
    : Option BulkLoop :=
  if s.remaining = 0 then
    some s
  else
    match answers with
    | [] => none
    | answer :: answers =>
      match s.pass request limit answer with
      | (s, false) => some s
      | (s, true) => s.run request limit answers

end BulkLoop

/-- A bulk request on its way through the worker. -/
structure BulkRun where
  slot : WorkSlot Unit Unit
  ior : WorkIor
  done : Bool
  written : List (Nat × UInt8)
  returned : List UInt8
  commands : List BulkCommand

namespace BulkRun

def start (request : BulkRequest) (enqueueSeq : UInt32) : BulkRun where
  slot := WorkSlot.zero.enqueue () () false enqueueSeq
  ior := ⟨0, .noError, request.keepsProgress⟩
  done := false
  written := []
  returned := []
  commands := []

def fail (run : BulkRun) (error : IoError) : BulkRun :=
  { run with ior := { run.ior with actual := 0, error } }

def completed (request : BulkRequest) (run : BulkRun) : UInt32 :=
  if request.keepsProgress then run.slot.bulkActual else 0

def enter (run : BulkRun) (request : BulkRequest) (totalActual remaining : UInt32)
    : BulkLoop where
  lifecycle := run.slot.lifecycle
  bulkActual := run.slot.bulkActual
  userBuf := if request.data ≠ 0 then request.data + totalActual.toNat else 0
  totalActual := totalActual
  remaining := remaining
  status := EngineStatus.ok
  written := run.written
  returned := run.returned
  commands := run.commands

def leave (run : BulkRun) (s : BulkLoop) : BulkRun :=
  let ok := s.status = EngineStatus.ok
  { run with
    slot := { run.slot with
      lifecycle := s.lifecycle
      bulkActual := s.bulkActual
      completionStatus := if ok then run.slot.completionStatus else s.status }
    ior := { run.ior with
      actual := if ok then s.totalActual else 0
      error := if ok then .noError else mapProxyStatus s.status }
    written := s.written
    returned := s.returned
    commands := s.commands }

/-- `UHCMD_BULKXFER` in `execute_io` -/
def transfer (run : BulkRun) (request : BulkRequest) (realtimeActive : Bool)
    (answers : List BulkAnswer) : Option BulkRun :=
  if request.lowSpeedFlag then
    some (run.fail .badParams)
  else
    match bulkResumeWindow request.length (run.completed request) with
    | none => some (run.fail .badParams)
    | some (totalActual, remaining) =>
      let s := run.enter request totalActual remaining
      (s.run request (request.limit realtimeActive) answers).map run.leave

/-- `process_work_queue` with this request -/
def attempt (run : BulkRun) (request : BulkRequest) (a : BulkAttempt) : Option BulkRun :=
  let slot := run.slot.begin (nextSequence a.workSequence) a.controllerEpoch
  match { run with slot }.transfer request a.realtimeActive a.answers with
  | none => none
  | some run =>
    let lifecycle :=
      if a.abort then run.slot.lifecycle.abort.request else run.slot.lifecycle
    let done := { run.slot with lifecycle }.finish run.ior a.workSequence
    some { run with slot := done.slot, ior := done.ior, done := !done.retried }

def attempts (run : BulkRun) (request : BulkRequest) (as : List BulkAttempt) : Option BulkRun :=
  match as with
  | [] => some run
  | a :: as =>
    if run.done then
      some run
    else
      match run.attempt request a with
      | none => none
      | some run => run.attempts request as

end BulkRun

end ZZUsb
