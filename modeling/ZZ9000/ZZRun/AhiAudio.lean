import ZZ9000.Concurrency.Solo
import ZZ9000.Streams.Ring

/-!
This module contains the AHI route of `ZZRun.c`: the audio ring that it shares with the firmware and
the app, the requests it has sent to AHI, and `service_ahi_audio`. Before each access the firmware,
the app and AHI may do what they like.
-/

namespace ZZRun

open Concurrency Streams

/-- The audio ring as the SDK defines it. -/
structure AudioAbi where
  capacity : Capacity
  frames : 4 ∣ capacity.cells
  routeAhi : UInt32

abbrev AhiSlot := Fin 2

def ahiSlots : List AhiSlot := [0, 1]
def ahiBufferBytes : UInt32 := 8192

structure AudioHeader where
  route : UInt32
  epoch : UInt32
  rate : UInt32
  channels : UInt32
  head : UInt32
  tail : UInt32
  underruns : UInt32
  deriving DecidableEq, Repr

/-- What the app has appended since the firmware opened the stream, and what it found in the ring. -/
structure AudioStream where
  epoch : UInt32
  start : UInt32
  bytes : List UInt8
  deriving DecidableEq, Repr

/-- A request with what is in its buffer, and the epoch that was accepted when it was sent. -/
structure AhiRequest where
  slot : AhiSlot
  epoch : UInt32
  data : List UInt8
  deriving DecidableEq, Repr

/-- The variables of `ZZRun.c`. -/
structure AhiState where
  port : Bool := false
  request : AhiSlot → Bool := fun _ => false
  deviceOpen : Bool := false
  rate : UInt32 := 0
  channels : UInt32 := 0
  pendingBytes : AhiSlot → UInt32 := fun _ => 0
  buffer : AhiSlot → Option (Nat → UInt8) := fun _ => none
  pending : AhiSlot → Bool := fun _ => false
  underruns : UInt32 := 0
  streamEpoch : UInt32 := 0
  streamEpochValid : Bool := false
  openFailed : Bool := false

structure AudioWorld where
  /-- The flag that asks the launcher for the AHI route. -/
  launcherAhi : Bool
  header : AudioHeader
  ring : Nat → UInt8
  lifeUnderruns : UInt32 := 0
  stopAsked : Bool := false
  ahi : AhiState := {}
  /-- The requests that AHI has not completed. -/
  device : List AhiRequest := []
  /-- The completed ones at the reply port. -/
  replies : List AhiRequest := []
  /-- The epoch that the running call has read, or 0. -/
  seen : UInt32 := 0
  /-- The streams that the firmware has opened, the last one first. -/
  streams : List AudioStream := []
  /-- The header still has the counters of the last stream. -/
  intact : Bool := true
  submitted : List AhiRequest := []
  completed : List AhiRequest := []

/-- What the firmware, the app and AHI do. -/
inductive AudioEvent where
  | clearEpoch
  | writeRoute (route : UInt32)
  | writeRate (rate : UInt32)
  | writeChannels (channels : UInt32)
  | writeHead (head : UInt32)
  | writeTail (tail : UInt32)
  | writeEpoch (epoch : UInt32)
  | append (bytes : List UInt8)
  | complete
  deriving DecidableEq, Repr

/-- The writes after which the header is no longer the one of the stream that was open. -/
def AudioEvent.reopens (e : AudioEvent) : Bool :=
  match e with
  | .writeHead _ | .writeTail _ | .writeEpoch _ => true
  | _ => false

namespace AudioWorld

variable (audio : AudioAbi)

/-- The firmware writes the header while the epoch is 0. -/
def write (w : AudioWorld) (f : AudioHeader → AudioHeader) : AudioWorld :=
  if w.header.epoch = 0 then { w with header := f w.header } else w

/-- The stream is what is in the ring at the moment. -/
def openStream (w : AudioWorld) (epoch : UInt32) : AudioWorld :=
  if w.header.epoch = 0 ∧ epoch ≠ 0 ∧ ∀ s ∈ w.streams, s.epoch ≠ epoch then
    let bytes := window audio.capacity w.ring w.header.tail (w.header.head - w.header.tail).toNat
    {
      w with
      header := { w.header with epoch }
      streams := { epoch, start := w.header.tail, bytes } :: w.streams
      intact := true
    }
  else w

/-- The app appends whole frames within the capacity to the stream that is open. -/
def append (w : AudioWorld) (bytes : List UInt8) : AudioWorld :=
  match w.streams with
  | [] => w
  | s :: streams =>
    if w.header.epoch ≠ 0 ∧ 4 ∣ bytes.length
        ∧ (w.header.head - w.header.tail).toNat + bytes.length ≤ audio.capacity.cells then
      {
        w with
        ring := Streams.write audio.capacity w.ring w.header.head 0 bytes
        header := { w.header with head := counter w.header.head bytes.length }
        streams := { s with bytes := s.bytes ++ bytes } :: streams
      }
    else w

/-- AHI completes its requests in the order in which it got them. -/
def complete (w : AudioWorld) : AudioWorld :=
  match w.device with
  | [] => w
  | r :: device =>
    { w with device, replies := w.replies ++ [r], completed := w.completed ++ [r] }

def happen (w : AudioWorld) (e : AudioEvent) : AudioWorld :=
  match e with
  | .clearEpoch => { w with header := { w.header with epoch := 0 } }
  | .writeRoute route => w.write ({ · with route })
  | .writeRate rate => w.write ({ · with rate })
  | .writeChannels channels => w.write ({ · with channels })
  | .writeHead head =>
    if w.header.epoch = 0 then
      { w with header := { w.header with head }, intact := false }
    else w
  | .writeTail tail =>
    if w.header.epoch = 0 then
      { w with header := { w.header with tail }, intact := false }
    else w
  | .writeEpoch epoch => w.openStream audio epoch
  | .append bytes => w.append audio bytes
  | .complete => w.complete

def happens (w : AudioWorld) (es : List AudioEvent) : AudioWorld :=
  match es with
  | [] => w
  | e :: es => (w.happen audio e).happens es

end AudioWorld

inductive AhiMark where
  /-- The others do something before an access. -/
  | gap (events : List AudioEvent)
  | refill (slot : AhiSlot)
  /-- A loop over the reply port has not come to its end. -/
  | spins

/-- What the others do before an access, and whether the access succeeds if it may fail. -/
structure AhiAnswer where
  events : List AudioEvent := []
  ok : Bool := true

abbrev AhiService (α : Type) := Coroutine AudioWorld AhiMark Empty AhiAnswer α

section Service

variable (audio : AudioAbi)

def audioAccess : AhiService Bool := do
  let a ← Coroutine.answer
  Coroutine.note (.gap a.events)
  Coroutine.modify (·.happens audio a.events)
  return a.ok

/-- Read something that the others may write. -/
def audioGet (f : AudioWorld → α) : AhiService α := do
  let _ ← audioAccess audio
  return f (← Coroutine.read)

/-- Write something that the others may read. -/
def audioPut (f : AudioWorld → AudioWorld) : AhiService Unit := do
  let _ ← audioAccess audio
  Coroutine.modify f

def ahiGet (f : AhiState → α) : AhiService α := do
  return f (← Coroutine.read).ahi

def ahiPut (f : AhiState → AhiState) : AhiService Unit :=
  Coroutine.modify fun w => { w with ahi := f w.ahi }

def audioEpoch : AhiService UInt32 := do
  let _ ← audioAccess audio
  Coroutine.modify fun w => { w with seen := w.header.epoch }
  return (← Coroutine.read).header.epoch

def checkIo (slot : AhiSlot) : AhiService Bool :=
  audioGet audio fun w => !w.device.any (·.slot == slot)

def abortIo (slot : AhiSlot) : AhiService Unit :=
  audioPut audio fun w =>
    {
      w with
      device := w.device.filter (·.slot != slot)
      replies := w.replies ++ w.device.filter (·.slot == slot)
    }

/-- The request comes back sooner or later, and its message is taken from the port. -/
def waitIo (slot : AhiSlot) : AhiService Unit :=
  audioPut audio fun w =>
    {
      w with
      device := w.device.filter (·.slot != slot)
      replies := w.replies.filter (·.slot != slot)
    }

def getMsg : AhiService (Option AhiSlot) := do
  let r ← audioGet audio (·.replies.head?)
  Coroutine.modify fun w => { w with replies := w.replies.tail }
  return r.map (·.slot)

/-- Two requests can be at the port, so the third message is none. -/
def replyLimit : Nat := 3

def drainReplies (limit : Nat) : AhiService Unit := do
  match limit with
  | 0 => Coroutine.note .spins
  | limit + 1 =>
    match ← getMsg audio with
    | some _ => drainReplies limit
    | none => return ()

def ahiAbortSlot (slot : AhiSlot) : AhiService Unit := do
  if ← ahiGet fun ahi => ahi.request slot && ahi.pending slot then
    if !(← checkIo audio slot) then
      abortIo audio slot
    waitIo audio slot
  ahiPut fun ahi => { ahi with pending := Function.update ahi.pending slot false }
  ahiPut fun ahi => { ahi with pendingBytes := Function.update ahi.pendingBytes slot 0 }

def ahiAbortPending : AhiService Unit := do
  steps (ahiAbortSlot audio) ahiSlots
  if ← ahiGet (·.port) then
    drainReplies audio replyLimit

def ahiClose : AhiService Unit := do
  ahiAbortPending audio
  ahiPut fun ahi =>
    {
      ahi with
      deviceOpen := false
      request := fun _ => false
      buffer := fun _ => none
      port := false
      rate := 0
      channels := 0
      streamEpoch := 0
      streamEpochValid := false
    }

def ahiAllocBuffers (slots : List AhiSlot) : AhiService Bool := do
  match slots with
  | [] => return true
  | slot :: slots =>
    if ← audioAccess audio then
      ahiPut fun ahi => { ahi with buffer := Function.update ahi.buffer slot (some fun _ => 0) }
      ahiAllocBuffers slots
    else
      return false

/-- Everything up to the label `failed`. -/
def ahiOpenDevice : AhiService Bool := do
  if !(← audioAccess audio) then
    return false
  ahiPut fun ahi => { ahi with request := Function.update ahi.request 0 true }
  if !(← audioAccess audio) then
    return false
  ahiPut fun ahi => { ahi with deviceOpen := true }
  if !(← audioAccess audio) then
    return false
  ahiPut fun ahi => { ahi with request := Function.update ahi.request 1 true }
  ahiAllocBuffers audio ahiSlots

def ahiOpen (rate channels : UInt32) : AhiService Bool := do
  if channels ≠ 2 ∨ rate = 0 then
    return false
  if !(← audioAccess audio) then
    return false
  ahiPut fun ahi => { ahi with port := true }
  if ← ahiOpenDevice audio then
    ahiPut fun ahi => { ahi with rate, channels, underruns := 0 }
    return true
  else
    ahiClose audio
    return false

def AhiState.freeSlot (ahi : AhiState) : Option AhiSlot :=
  ahiSlots.find? fun slot => !ahi.pending slot

/-- The messages of the reply port advance the tail. -/
def ahiReap (limit : Nat) (tail : UInt32) (completed : Bool) : AhiService (UInt32 × Bool) := do
  match limit with
  | 0 =>
    Coroutine.note .spins
    return (tail, completed)
  | limit + 1 =>
    match ← getMsg audio with
    | none => return (tail, completed)
    | some slot =>
      if ← ahiGet fun ahi => ahi.request slot && ahi.pending slot then
        let bytes ← ahiGet (·.pendingBytes slot)
        ahiPut fun ahi => { ahi with pendingBytes := Function.update ahi.pendingBytes slot 0 }
        ahiPut fun ahi => { ahi with pending := Function.update ahi.pending slot false }
        ahiReap limit (tail + bytes) true
      else
        ahiReap limit tail completed

/-- The bytes that AHI plays. -/
def AhiState.data (ahi : AhiState) (slot : AhiSlot) (bytes : UInt32) : List UInt8 :=
  match ahi.buffer slot with
  | none => []
  | some buffer => (List.range bytes.toNat).map buffer

def ahiSubmit (slot : AhiSlot) (bytes : UInt32) : AhiService Unit := do
  ahiPut fun ahi => { ahi with pendingBytes := Function.update ahi.pendingBytes slot bytes }
  ahiPut fun ahi => { ahi with pending := Function.update ahi.pending slot true }
  audioPut audio fun w =>
    let r := { slot, epoch := w.ahi.streamEpoch, data := w.ahi.data slot bytes }
    { w with device := w.device ++ [r], submitted := w.submitted ++ [r] }

/-- Write a byte of a buffer. -/
def ahiBufferPut (slot : AhiSlot) (i : Nat) (byte : UInt8) : AhiService Unit := do
  Coroutine.note (.refill slot)
  ahiPut fun ahi =>
    {
      ahi with
      buffer := Function.update ahi.buffer slot
        ((ahi.buffer slot).map fun buffer => Function.update buffer i byte)
    }

/-- Copy samples from the ring. AHI has the bytes of a sample the other way round. -/
def ahiCopySamples (slot : AhiSlot) (address i n : Nat) : AhiService Unit := do
  match n with
  | 0 => return ()
  | n + 1 =>
    let high ← audioGet audio (·.ring (address + i + 1))
    ahiBufferPut slot i high
    let low ← audioGet audio (·.ring (address + i))
    ahiBufferPut slot (i + 1) low
    ahiCopySamples slot address (i + 2) n

def zzrunAudioEpochReplaced (haveEpoch : Bool) (accepted observed : UInt32) : Bool :=
  haveEpoch && observed != accepted

/-- Drop the requests of the stream that was replaced. -/
def ahiReplaceStream (epoch rate channels : UInt32) : AhiService Unit := do
  if ← ahiGet fun ahi => zzrunAudioEpochReplaced ahi.streamEpochValid ahi.streamEpoch epoch then
    if ← ahiGet fun ahi => ahi.request 0 && (rate != ahi.rate || channels != ahi.channels) then
      ahiClose audio
    else
      ahiAbortPending audio
    ahiPut fun ahi => { ahi with underruns := 0 }
    ahiPut fun ahi => { ahi with streamEpochValid := false }

/-- How many bytes the next request takes. -/
def AhiState.chunk (ahi : AhiState) (head staged : UInt32) : UInt32 :=
  let available := head - staged
  let contiguous := audio.capacity.word - staged % audio.capacity.word
  let bytes := if available < contiguous then available else contiguous
  let limit := ahi.rate / 50 * ahi.channels * 2
  let bytes := if bytes > limit then limit else bytes
  let bytes := if bytes > ahiBufferBytes then ahiBufferBytes else bytes
  bytes - bytes % (ahi.channels * 2)

/-- A buffer has just come back and AHI has nothing to play. -/
def ahiUnderrun : AhiService Unit := do
  ahiPut fun ahi => { ahi with underruns := ahi.underruns + 1 }
  let underruns ← ahiGet (·.underruns)
  audioPut audio fun w => { w with header := { w.header with underruns } }
  audioPut audio fun w => { w with lifeUnderruns := underruns }

/-- Fill the buffer of a free slot, and send it. -/
def ahiSend (staged bytes : UInt32) : AhiService Unit := do
  match ← ahiGet (·.freeSlot) with
  | none => return ()
  | some slot =>
    ahiCopySamples audio slot (staged % audio.capacity.word).toNat 0 ((bytes.toNat + 1) / 2)
    ahiSubmit audio slot bytes

/-- What `service_ahi_audio` does with the counters of the stream it has accepted. -/
def ahiTransfer : AhiService Unit := do
  let head ← audioGet audio (·.header.head)
  let tail ← audioGet audio (·.header.tail)
  if head - tail > audio.capacity.word then
    return ()
  let (tail, completed) ← ahiReap audio replyLimit tail false
  if completed then
    audioPut audio fun w => { w with header := { w.header with tail } }
  let staged ← ahiGet fun ahi => tail + ahi.pendingBytes 0 + ahi.pendingBytes 1
  if head - staged > audio.capacity.word then
    return ()
  if (← ahiGet (·.rate)) / 50 = 0 then
    return ()
  let bytes ← ahiGet (·.chunk audio head staged)
  if bytes = 0 then
    if completed ∧ staged = tail then
      ahiUnderrun audio
  else
    ahiSend audio staged bytes

def ahiOpenIfNeeded (rate channels : UInt32) : AhiService Bool := do
  if ← ahiGet (·.request 0) then
    return true
  else
    ahiOpen audio rate channels

/-- What `service_ahi_audio` does if AHI cannot be opened. -/
def ahiFail : AhiService Unit := do
  ahiPut fun ahi => { ahi with openFailed := true }
  Coroutine.modify fun w => { w with stopAsked := true }

def ahiServe (epoch : UInt32) : AhiService Unit := do
  let rate ← audioGet audio (·.header.rate)
  let channels ← audioGet audio (·.header.channels)
  ahiReplaceStream audio epoch rate channels
  if ← ahiGet (·.openFailed) then
    return ()
  if ← ahiOpenIfNeeded audio rate channels then
    ahiPut fun ahi => { ahi with streamEpoch := epoch, streamEpochValid := true }
    ahiTransfer audio
  else
    ahiFail

def audioRouted : AhiService Bool := do
  if ← audioGet audio (·.launcherAhi) then
    audioGet audio (·.header.route == audio.routeAhi)
  else
    return false

def serviceAhiAudio : AhiService Unit := do
  Coroutine.modify fun w => { w with seen := 0 }
  if ← audioRouted audio then
    let epoch ← audioEpoch audio
    if epoch = 0 then
      return ()
    ahiServe audio epoch
  else
    ahiClose audio

end Service

end ZZRun
