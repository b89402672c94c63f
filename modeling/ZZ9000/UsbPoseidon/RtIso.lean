import ZZ9000.Concurrency.Gaps
import ZZ9000.UsbPoseidon.Iso
import ZZ9000.UsbPoseidon.Status

/-!
This module contains a realtime ISO slot of `zzusbhw_device.c`: the batches in flight, the hooks of
the handler, and the steps of the tasks that hold `zz_Lock`. The start and stop commands of other
tasks do not take the lock and happen in the gaps.
-/

namespace ZZUsb

open Concurrency.Interrupted (elapse)

def maintDataMax : Nat := 3968

/-- `struct IOUsbHWRTIso`. A hook that is `false` is NULL. -/
structure RtHandler where
  address : UInt32
  outPrefetch : UInt32
  outReqHook : Bool
  outDoneHook : Bool
  inReqHook : Bool
  inDoneHook : Bool
  deriving DecidableEq

/-- The fields of `struct IOUsbHWBufferReq`. -/
structure RtBuffer where
  buffer : UInt32
  length : UInt32
  frame : UInt16
  flags : UInt16
  deriving DecidableEq

def RtBuffer.zero : RtBuffer := ⟨0, 0, 0, 0⟩

/-- A buffer request in a batch, with the number of the packet it was filled for. -/
structure RtRequest extends RtBuffer where
  packet : Nat
  deriving DecidableEq

/-- `struct ZZRTIsoBatchContext` -/
structure RtBatch where
  batchId : UInt32
  packetCount : Nat
  durationMicroframes : Nat
  prefetchedBytes : UInt32
  requests : List RtRequest
  deriving DecidableEq

def RtBatch.zero : RtBatch := ⟨0, 0, 0, 0, []⟩

structure RtSlot where
  handler : Option RtHandler
  maxPacket : UInt16
  directionIn : Bool
  packetCount : Nat
  packetLengths : List UInt16
  durationMicroframes : Nat
  startRequested : Bool
  stopRequested : Bool
  outRequest : RtBuffer
  batches : Fin isoPipelineDepth → RtBatch
  lifecycle : RtLifecycle

def RtSlot.zero : RtSlot where
  handler := none
  maxPacket := 0
  directionIn := false
  packetCount := 0
  packetLengths := []
  durationMicroframes := 0
  startRequested := false
  stopRequested := false
  outRequest := .zero
  batches := fun _ => .zero
  lifecycle := .init

/-- A call of a hook of `handler`. -/
inductive RtHookCall where
  | outReq (packet : Nat)
  | outDone (packet : Nat) (buffer : RtBuffer)
  | inReq (buffer : RtBuffer)
  | inDone (buffer : RtBuffer)
  deriving DecidableEq

/-- The `UHCMD_STARTRTISO` and `UHCMD_STOPRTISO` of other tasks. -/
inductive RtCommand where
  | start (handler : UInt32) (protocolReady : Bool)
  | stop (handler : UInt32)
  deriving DecidableEq

/-- The slot, beside the calls of all hooks and the prefetched bytes whenever their sum grew. -/
structure RtWorld where
  slot : RtSlot
  calls : List (RtHandler × RtHookCall)
  peaks : List (RtHandler × Nat)
  packets : Nat
  gaps : List (List RtCommand)

namespace RtWorld

def init : RtWorld where
  slot := .zero
  calls := []
  peaks := []
  packets := 0
  gaps := []

/-- `find_rt_iso_slot` -/
def finds (w : RtWorld) (handler : UInt32) : Bool :=
  decide (w.slot.handler.map RtHandler.address = some handler) && decide (w.slot.lifecycle.state ≠ .free)

def startRtIsoHandler (w : RtWorld) (handler : UInt32) (protocolReady : Bool) : RtWorld :=
  if w.finds handler && protocolReady then
    match w.slot.lifecycle.start with
    | none => w
    | some lifecycle =>
      if w.slot.startRequested then
        w
      else
        { w with
          slot :=
            { w.slot with
              lifecycle
              stopRequested := false
              startRequested := true
              outRequest := .zero } }
  else
    w

def stopRtIsoHandler (w : RtWorld) (handler : UInt32) : RtWorld :=
  if w.finds handler then
    match w.slot.lifecycle.ackStop with
    | none => w
    | some lifecycle =>
      { w with
        slot :=
          { w.slot with
            lifecycle
            startRequested := false
            stopRequested := decide (lifecycle.state = .stopping)
            outRequest := .zero } }
  else
    w

def command (w : RtWorld) (c : RtCommand) : RtWorld :=
  match c with
  | .start handler protocolReady => w.startRtIsoHandler handler protocolReady
  | .stop handler => w.stopRtIsoHandler handler

theorem gaps_command (w : RtWorld) (c : RtCommand)
    : (w.command c).gaps = w.gaps := by
  cases c with
  | start handler protocolReady =>
    unfold command startRtIsoHandler
    dsimp only
    split
    . split
      . rfl
      . split <;> rfl
    . rfl
  | stop handler =>
    unfold command stopRtIsoHandler
    dsimp only
    split
    . split <;> rfl
    . rfl

instance : Concurrency.Interrupted RtWorld RtCommand where
  gaps := RtWorld.gaps
  setGaps w gaps := { w with gaps }
  event := RtWorld.command
  gaps_setGaps _ _ := rfl
  gaps_event := gaps_command

def setLifecycle (w : RtWorld) (lifecycle : RtLifecycle) : RtWorld :=
  { w with slot := { w.slot with lifecycle } }

def setOutRequest (w : RtWorld) (outRequest : RtBuffer) : RtWorld :=
  { w with slot := { w.slot with outRequest } }

def setBatch (w : RtWorld) (i : Fin isoPipelineDepth) (batch : RtBatch) : RtWorld :=
  { w with slot := { w.slot with batches := Function.update w.slot.batches i batch } }

def setRequested (w : RtWorld) (startRequested stopRequested : Bool) : RtWorld :=
  { w with slot := { w.slot with startRequested, stopRequested } }

/-- `CallHookPkt` -/
def callHook (w : RtWorld) (handler : RtHandler) (call : RtHookCall) : RtWorld :=
  let w := elapse w
  { w with calls := w.calls ++ [(handler, call)] }

def findRtBatchContext (w : RtWorld) (batchId : UInt32) : Option (Fin isoPipelineDepth) :=
  (List.finRange isoPipelineDepth).find? fun i => decide ((w.slot.batches i).batchId = batchId)

def freeRtBatchContext (w : RtWorld) : Option (Fin isoPipelineDepth) :=
  (List.finRange isoPipelineDepth).find? fun i => decide ((w.slot.batches i).batchId = 0)

def rtPrefetchedBytes (w : RtWorld) : UInt32 :=
  (List.finRange isoPipelineDepth).foldl
    (fun total i =>
      if (w.slot.batches i).batchId ≠ 0 then total + (w.slot.batches i).prefetchedBytes else total)
    0

/-- `struct zzusb_iso_packet_result`, as far as a slot reads it. -/
structure PacketResult where
  requested : UInt16
  actual : UInt16
  frame : UInt16
  status : UInt8
  deriving DecidableEq

/-- The loop of `rt_finish_out_context` over the packets of a context. -/
def finishRequests (w : RtWorld) (handler : RtHandler) (requests : List RtRequest)
    (packets : Option (List PacketResult)) (forcedFlags : UInt16) : RtWorld :=
  match requests with
  | [] => w
  | request :: requests =>
    let buffer : RtBuffer :=
      match packets.bind List.head? with
      | none => { request.toRtBuffer with length := 0, flags := request.flags ||| forcedFlags }
      | some packet =>
        { request.toRtBuffer with
          length := packet.actual.toUInt32
          frame := packet.frame
          flags := request.flags ||| isoStatusFlags packet.status ||| forcedFlags }
    let w := w.callHook handler (.outDone request.packet buffer)
    w.finishRequests handler requests (packets.map List.tail) forcedFlags

def rtFinishOutContext (w : RtWorld) (context : RtBatch) (packets : Option (List PacketResult))
    (forcedFlags : UInt16) : RtWorld :=
  match w.slot.handler with
  | none => w
  | some handler =>
    if handler.outDoneHook then
      w.finishRequests handler context.requests packets forcedFlags
    else
      w

/-- The loop of `rt_cancel_contexts`. -/
def cancelFrom (w : RtWorld) (flags : UInt16) (is : List (Fin isoPipelineDepth)) : RtWorld :=
  match is with
  | [] => w
  | i :: is =>
    if (w.slot.batches i).batchId = 0 then
      w.cancelFrom flags is
    else
      let w :=
        if w.slot.directionIn then w else w.rtFinishOutContext (w.slot.batches i) none flags
      (w.setBatch i .zero).cancelFrom flags is

def rtCancelContexts (w : RtWorld) (flags : UInt16) : RtWorld :=
  w.cancelFrom flags (List.finRange isoPipelineDepth)

/-- What the outside answers while one batch is queued. -/
structure QueueInput where
  abortedBefore : Bool
  abortedAfter : Bool
  /-- What the request hook leaves in the buffer request of each packet. -/
  hook : Nat → RtBuffer
  status : UInt16

/-- A buffer request as it goes into a batch, after the request hook. -/
def clampRequest (request : RtBuffer) (requested : UInt16) : RtBuffer :=
  let request :=
    if request.buffer = 0 ∧ request.length ≠ 0 then
      { request with flags := request.flags ||| RtFlag.underrun ||| RtFlag.packetError }
    else
      request
  if request.length > requested.toUInt32 then
    { request with
      length := requested.toUInt32
      flags := request.flags ||| RtFlag.underrun ||| RtFlag.packetError }
  else
    request

/-- The cursor that the next packet starts from. -/
def advanceRequest (request : RtBuffer) : RtBuffer :=
  if request.buffer ≠ 0 then { request with buffer := request.buffer + request.length } else request

/-- The request hook is called for the next packet. -/
def requestPacket (w : RtWorld) (handler : RtHandler) : RtWorld :=
  let packet := w.packets
  let w := { w with packets := packet + 1 }
  if handler.outReqHook then w.callHook handler (.outReq packet) else w

/-- The round of the loop of `queue_rt_iso_batch` for one packet of an OUT batch. -/
def fillRequest (w : RtWorld) (handler : RtHandler) (requested : UInt16) (answer : RtBuffer)
    : RtWorld × RtRequest :=
  let w := elapse w
  let request : RtBuffer := { w.slot.outRequest with length := requested.toUInt32, frame := 0, flags := 0 }
  let request := clampRequest (if handler.outReqHook then answer else request) requested
  ((elapse (w.requestPacket handler)).setOutRequest (advanceRequest request), ⟨request, w.packets⟩)

/-- The loop of `queue_rt_iso_batch` over the packets of an OUT batch. -/
def fillRequests (w : RtWorld) (handler : RtHandler) (hook : Nat → RtBuffer) (index : Nat)
    (lengths : List UInt16) : RtWorld × List RtRequest :=
  match lengths with
  | [] => (w, [])
  | length :: lengths =>
    let (w, request) := w.fillRequest handler length (hook index)
    let (w, requests) := w.fillRequests handler hook (index + 1) lengths
    (w, request :: requests)

/-- The packets of an OUT batch that the prefetch window of the handler leaves room for. -/
def allowedPackets (w : RtWorld) (outPrefetch : UInt32) (packetCount : Nat) : Nat :=
  let outstanding := w.rtPrefetchedBytes
  let packetSize := isoPayloadSize w.slot.maxPacket
  if outstanding ≥ outPrefetch ∨ packetSize = 0 then
    0
  else
    min packetCount ((outPrefetch - outstanding) / packetSize.toUInt32).toNat

/-- A batch that was built, but did not reach the firmware. -/
def failBatch (w : RtWorld) (i : Fin isoPipelineDepth) (batchId : UInt32) : RtWorld :=
  let w := elapse w
  let w := w.setLifecycle ((w.slot.lifecycle.complete batchId).getD w.slot.lifecycle)
  let w :=
    if w.slot.directionIn then
      w
    else
      w.rtFinishOutContext (w.slot.batches i) none RtFlag.packetError
  w.setBatch i .zero

/-- A batch was added to those that are prefetched for `handler`. -/
def notePeak (w : RtWorld) (handler : RtHandler) : RtWorld :=
  if w.slot.directionIn then
    w
  else
    { w with peaks := w.peaks ++ [(handler, w.rtPrefetchedBytes.toNat)] }

/-- A batch that the lifecycle has accepted gets its packets. The lengths are those on the wire. -/
def fillBatch (w : RtWorld) (handler : RtHandler) (i : Fin isoPipelineDepth) (batchId : UInt32)
    (lengths : List UInt16) (hook : Nat → RtBuffer) : RtWorld × List UInt16 :=
  let duration := w.slot.durationMicroframes * lengths.length / w.slot.packetCount
  let context : RtBatch :=
    ⟨batchId, lengths.length, if duration = 0 then 1 else duration, 0, []⟩
  let w := w.setBatch i context
  if w.slot.directionIn then
    let totalData := (lengths.map UInt16.toUInt32).sum
    (w.setBatch i { context with prefetchedBytes := totalData }, lengths)
  else
    let (w, requests) := w.fillRequests handler hook 0 lengths
    let lengths := requests.map fun r => r.length.toUInt16
    let totalData := (lengths.map UInt16.toUInt32).sum
    (w.setBatch i { context with prefetchedBytes := totalData, requests }, lengths)

/-- The wire phase of `queue_rt_iso_batch`. -/
def sendBatch (w : RtWorld) (i : Fin isoPipelineDepth) (batchId : UInt32) (lengths : List UInt16)
    (status : UInt16) : UInt16 × RtWorld :=
  if isoBuildQueueSize maintDataMax batchId lengths w.slot.directionIn = 0 then
    (EngineStatus.badParam, w.failBatch i batchId)
  else
    let w := elapse w
    if status = EngineStatus.ok then (EngineStatus.ok, w) else (status, w.failBatch i batchId)

def queueRtIsoBatch (w : RtWorld) (input : QueueInput) : UInt16 × RtWorld :=
  let w := elapse w
  match w.slot.handler, w.freeRtBatchContext with
  | some handler, some i =>
    let packetCount := if w.slot.directionIn then w.slot.packetCount else 1
    let packetCount :=
      if !w.slot.directionIn && handler.outPrefetch != 0 then
        w.allowedPackets handler.outPrefetch packetCount
      else
        packetCount
    if packetCount = 0 then
      (EngineStatus.busy, w)
    else
      match w.slot.lifecycle.queue with
      | none => (EngineStatus.busy, w)
      | some (batchId, lifecycle) =>
        let lengths := w.slot.packetLengths.take packetCount
        let (w, lengths) := (w.setLifecycle lifecycle).fillBatch handler i batchId lengths input.hook
        (w.notePeak handler).sendBatch i batchId lengths input.status
  | _, _ => (EngineStatus.busy, w)

/-- The loop of `fill_rt_iso_pipeline`, as far as the inputs go. -/
def fillRtIsoPipeline (w : RtWorld) (honorAbort : Bool) (inputs : List QueueInput) : UInt16 × RtWorld :=
  match inputs with
  | [] => (EngineStatus.ok, w)
  | input :: inputs =>
    let w := elapse w
    if w.slot.lifecycle.state = .running ∧ w.slot.lifecycle.inFlight < isoPipelineDepth then
      if honorAbort && input.abortedBefore then
        (EngineStatus.cancelled, w)
      else
        let (status, w) := w.queueRtIsoBatch input
        if status ≠ EngineStatus.ok then
          (status, w)
        else if honorAbort && input.abortedAfter then
          (EngineStatus.cancelled, w)
        else
          w.fillRtIsoPipeline honorAbort inputs
    else
      (EngineStatus.ok, w)

/-- `UBFF_CONTBUFFER` -/
def contBuffer : UInt16 := 1

/-- The flags of a segment of an IN packet, and its length, after the request hook left `answer`. -/
def segmentOf (packet : PacketResult) (remaining : UInt32) (segments : Nat) (answer : RtBuffer)
    : RtBuffer :=
  let broken := RtFlag.overrun ||| RtFlag.packetError
  let request := { answer with flags := answer.flags ||| isoStatusFlags packet.status }
  let segment := min request.length remaining
  let request :=
    if request.length > remaining then { request with flags := request.flags ||| broken } else request
  let request :=
    if segment ≠ 0 ∧ request.buffer = 0 then { request with flags := request.flags ||| broken }
    else request
  let request := { request with length := segment }
  if remaining > segment
      ∧ (request.flags &&& contBuffer = 0 ∨ segments ≥ isoMaxPackets ∨ segment = 0) then
    { request with flags := request.flags ||| broken }
  else
    request

/-- The loop of `rt_deliver_in_packet` over the segments of a packet, at most `fuel` of them. -/
def deliverSegments (w : RtWorld) (handler : RtHandler) (packet : PacketResult) (hook : Nat → RtBuffer)
    (remaining : UInt32) (segments fuel : Nat) : RtWorld :=
  match fuel with
  | 0 => w
  | fuel + 1 =>
    let w :=
      w.callHook handler (.inReq ⟨0, remaining, packet.frame, isoStatusFlags packet.status⟩)
    let request := segmentOf packet remaining (segments + 1) (hook segments)
    let w := if handler.inDoneHook then w.callHook handler (.inDone request) else w
    let remaining := remaining - request.length
    if remaining ≠ 0 ∧ request.flags &&& contBuffer ≠ 0 ∧ request.length ≠ 0 then
      w.deliverSegments handler packet hook remaining (segments + 1) fuel
    else
      w

def rtDeliverInPacket (w : RtWorld) (source : UInt32) (packet : PacketResult) (hook : Nat → RtBuffer)
    : RtWorld :=
  match w.slot.handler with
  | none => w
  | some handler =>
    if handler.inReqHook then
      w.deliverSegments handler packet hook packet.actual.toUInt32 0 isoMaxPackets
    else if handler.inDoneHook then
      w.callHook handler
        (.inDone ⟨source, packet.actual.toUInt32, packet.frame, isoStatusFlags packet.status⟩)
    else
      w

/-- The answer of the firmware to a reap, with the result of `zzusb_iso_parse_reap`. -/
structure ReapInput where
  status : UInt16
  /-- The batch id and the packets, each with its address in the wire buffer. -/
  parsed : Option (UInt32 × List (UInt32 × PacketResult))
  hook : Nat → Nat → RtBuffer

def deliverPackets (w : RtWorld) (hook : Nat → Nat → RtBuffer) (index : Nat)
    (packets : List (UInt32 × PacketResult)) : RtWorld :=
  match packets with
  | [] => w
  | (source, packet) :: packets =>
    (w.rtDeliverInPacket source packet (hook index)).deliverPackets hook (index + 1) packets

/-- The lengths that the packets of a reaped batch must have been queued with. -/
def expectedLengths (w : RtWorld) (context : RtBatch) (packetCount : Nat) : List UInt16 :=
  if w.slot.directionIn then
    w.slot.packetLengths.take packetCount
  else
    context.requests.map fun r => r.length.toUInt16

def reapRtIsoBatch (w : RtWorld) (input : ReapInput) : UInt16 × RtWorld :=
  let w := elapse w
  if input.status ≠ EngineStatus.ok then
    (input.status, w)
  else
    match input.parsed with
    | none => (EngineStatus.hostError, w)
    | some (batchId, packets) =>
      match w.findRtBatchContext batchId with
      | none => (EngineStatus.hostError, w)
      | some i =>
        let context := w.slot.batches i
        if context.packetCount ≠ packets.length
            ∨ packets.map (fun p => p.2.requested) ≠ w.expectedLengths context packets.length then
          (EngineStatus.hostError, w)
        else
          match w.slot.lifecycle.complete batchId with
          | none => (EngineStatus.hostError, w)
          | some lifecycle =>
            let w := w.setLifecycle lifecycle
            let w :=
              if w.slot.directionIn then
                w.deliverPackets input.hook 0 packets
              else
                w.rtFinishOutContext context (some (packets.map Prod.snd)) 0
            (EngineStatus.ok, w.setBatch i .zero)

/-- `stop_rt_iso_slot` after the lifecycle has reached STOPPING. -/
def retire (w : RtWorld) (status : UInt16) : UInt16 × RtWorld :=
  let w := elapse w
  if stopStatusRetired status then
    let w := (w.rtCancelContexts RtFlag.packetError).setOutRequest .zero
    let w := elapse w
    let w := w.setLifecycle (w.slot.lifecycle.finishStop.getD w.slot.lifecycle)
    let w := elapse w
    (EngineStatus.ok, if w.slot.lifecycle.state = .free then { w with slot := .zero } else w)
  else
    (status, w)

def stopRtIsoSlot (w : RtWorld) (status : UInt16) : UInt16 × RtWorld :=
  let w := elapse w
  if w.slot.lifecycle.state = .running then
    let w := elapse w
    match w.slot.lifecycle.beginStop with
    | none => (EngineStatus.badParam, w)
    | some lifecycle => (w.setLifecycle lifecycle).retire status
  else if w.slot.lifecycle.state = .stopping then
    w.retire status
  else
    (EngineStatus.badParam, w)

def stopRtIsoForUnit (w : RtWorld) (status : UInt16) : RtWorld :=
  let w := (elapse w).setRequested false false
  let w := elapse w
  if w.slot.lifecycle.state = .running ∨ w.slot.lifecycle.state = .stopping then
    (w.stopRtIsoSlot status).2
  else
    w

def finishResetRtIsoForUnit (w : RtWorld) : RtWorld :=
  let w := (elapse w).setRequested false false
  let w := elapse w
  let w := w.setLifecycle (w.slot.lifecycle.beginStop.getD w.slot.lifecycle)
  let w := elapse w
  if w.slot.lifecycle.state = .stopping then
    let w := elapse (w.rtCancelContexts RtFlag.packetError)
    w.setLifecycle (w.slot.lifecycle.finishStop.getD w.slot.lifecycle)
  else
    w

/-- The fields of a `UHCMD_ADDISOHANDLER`, and what the driver derives from them and its unit. -/
structure AddRequest where
  handler : RtHandler
  rtIsoCapable : Bool
  lowSpeedFlag : Bool
  endpoint : UInt16
  interval : UInt16
  highSpeedFlag : Bool
  split : Bool
  encodedMaxPacket : UInt16
  highSpeed : Bool
  directionIn : Bool

def addRtIsoHandler (w : RtWorld) (request : AddRequest) : RtWorld :=
  if request.rtIsoCapable = false ∨ request.lowSpeedFlag = true ∨ request.endpoint = 0
      ∨ request.interval = 0 ∨ w.finds request.handler.address = true
      ∨ w.slot.lifecycle.state ≠ .free then
    w
  else if isoTopologySupported request.highSpeedFlag request.split = false then
    { w with slot := .zero }
  else
    match isoPlanRealtime request.encodedMaxPacket request.interval request.highSpeed isoMaxPackets with
    | none => { w with slot := .zero }
    | some (packetLengths, duration) =>
      let packetCount := isoLimitPacketCount packetLengths maintDataMax
      match RtLifecycle.init.add with
      | none => { w with slot := .zero }
      | some lifecycle =>
        if packetCount = 0 then
          { w with slot := .zero }
        else
          { w with
            slot :=
              { RtSlot.zero with
                handler := some request.handler
                maxPacket := request.encodedMaxPacket
                directionIn := request.directionIn
                packetCount
                packetLengths
                durationMicroframes := duration * packetCount / packetLengths.length
                lifecycle } }

/-- `remove_rt_iso_handler` after the handler is detached. -/
def finishRemove (w : RtWorld) (retireNow : Bool) (status : UInt16) : RtWorld :=
  let w := elapse (w.setRequested false false)
  match w.slot.lifecycle.requestRemove with
  | none => w
  | some lifecycle =>
    let w := w.setLifecycle lifecycle
    if w.slot.lifecycle.state = .free then
      { w with slot := .zero }
    else if retireNow then
      (w.stopRtIsoSlot status).2
    else
      w

def removeRtIsoHandler (w : RtWorld) (handler : UInt32) (retireNow : Bool) (status : UInt16) : RtWorld :=
  let w := elapse w
  if w.finds handler then
    let w := (elapse (w.rtCancelContexts RtFlag.packetError)).setOutRequest .zero
    finishRemove { w with slot := { w.slot with handler := none } } retireNow status
  else
    w

def rollbackAbortedIsoWork (w : RtWorld) (handler : UInt32) (add : Bool) : RtWorld :=
  let w := elapse w
  if w.finds handler then
    if add && decide (w.slot.lifecycle.state = .added) then
      let w := elapse w
      match w.slot.lifecycle.remove with
      | none => w
      | some _ => { w with slot := .zero }
    else if !add && decide (w.slot.lifecycle.state = .running) then
      let w := elapse w
      w.setLifecycle (w.slot.lifecycle.beginStop.getD w.slot.lifecycle)
    else
      w
  else
    w

/-- What the outside answers while the worker reaps a batch and refills the pipeline. -/
structure RoundInput where
  reap : ReapInput
  fill : List QueueInput
  stop : UInt16

def rtIsoRefillTerminal (status : UInt16) : Bool :=
  status != EngineStatus.ok && status != EngineStatus.nak && status != EngineStatus.busy

/-- The loop of `poll_rt_iso` over the batches of a running slot, as far as the inputs go. -/
def pollRounds (w : RtWorld) (inputs : List RoundInput) : RtWorld :=
  match inputs with
  | [] => w
  | input :: inputs =>
    let w := elapse w
    if w.slot.lifecycle.inFlight = 0 then
      w
    else if w.slot.stopRequested then
      ((w.setRequested w.slot.startRequested false).stopRtIsoSlot input.stop).2
    else
      let (status, w) := w.reapRtIsoBatch input.reap
      if status = EngineStatus.ok then
        let (status, w) := w.fillRtIsoPipeline false input.fill
        if rtIsoRefillTerminal status then
          (w.stopRtIsoSlot input.stop).2
        else if w.slot.directionIn then
          w.pollRounds inputs
        else
          w
      else if status ≠ EngineStatus.nak ∧ status ≠ EngineStatus.busy then
        (w.stopRtIsoSlot input.stop).2
      else
        w

structure PollInput where
  portPresent : Bool
  fill : List QueueInput
  stop : UInt16
  rounds : List RoundInput

/-- `poll_rt_iso` on a slot of the unit. -/
def pollRtIso (w : RtWorld) (input : PollInput) : RtWorld :=
  let w := elapse w
  if w.slot.stopRequested then
    let w := elapse (w.setRequested false false)
    if w.slot.lifecycle.state = .running ∨ w.slot.lifecycle.state = .stopping then
      (w.stopRtIsoSlot input.stop).2
    else
      w
  else
    let w := elapse (w.setRequested false w.slot.stopRequested)
    if w.slot.lifecycle.state = .stopping then
      (w.stopRtIsoSlot input.stop).2
    else if w.slot.lifecycle.state ≠ .running then
      w
    else if input.portPresent = false then
      (w.stopRtIsoSlot input.stop).2
    else if w.slot.lifecycle.inFlight = 0 then
      let (status, w) := w.fillRtIsoPipeline false input.fill
      if rtIsoRefillTerminal status then (w.stopRtIsoSlot input.stop).2 else w
    else
      w.pollRounds input.rounds

end RtWorld

/-- The steps on a slot. All but the first are taken by a task that holds `zz_Lock`. -/
inductive RtOp where
  | command (c : RtCommand)
  | add (request : RtWorld.AddRequest)
  | fill (honorAbort : Bool) (inputs : List RtWorld.QueueInput)
  | queue (input : RtWorld.QueueInput)
  | reap (input : RtWorld.ReapInput)
  | stopSlot (status : UInt16)
  | stopUnit (status : UInt16)
  | finishReset
  | remove (handler : UInt32) (retireNow : Bool) (status : UInt16)
  | rollback (handler : UInt32) (add : Bool)
  | poll (input : RtWorld.PollInput)

namespace RtWorld

def apply (w : RtWorld) (op : RtOp) : RtWorld :=
  match op with
  | .command c => w.command c
  | .add request => w.addRtIsoHandler request
  | .fill honorAbort inputs => (w.fillRtIsoPipeline honorAbort inputs).2
  | .queue input => (w.queueRtIsoBatch input).2
  | .reap input => (w.reapRtIsoBatch input).2
  | .stopSlot status => (w.stopRtIsoSlot status).2
  | .stopUnit status => w.stopRtIsoForUnit status
  | .finishReset => w.finishResetRtIsoForUnit
  | .remove handler retireNow status => w.removeRtIsoHandler handler retireNow status
  | .rollback handler add => w.rollbackAbortedIsoWork handler add
  | .poll input => w.pollRtIso input

/-- A step, with the commands of other tasks that happen in the gaps of it. -/
structure Step where
  gaps : List (List RtCommand)
  op : RtOp

def run (w : RtWorld) (steps : List Step) : RtWorld :=
  match steps with
  | [] => w
  | s :: steps => (apply { w with gaps := s.gaps } s.op).run steps

end RtWorld

end ZZUsb
