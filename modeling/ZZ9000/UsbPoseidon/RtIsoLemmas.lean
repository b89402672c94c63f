import Mathlib.Algebra.BigOperators.Fin
import ZZ9000.Concurrency.Slots
import ZZ9000.UsbPoseidon.RtIso

/-!
This module contains the proof that a realtime ISO slot finishes each OUT packet once, calls no hook of
a handler that was removed, and stays within the prefetch window.
-/

namespace ZZUsb

open Concurrency (total le_total total_eq_zero total_update)
open Concurrency.Interrupted

def RtHookCall.finishes (packet : Nat) (c : RtHookCall) : Bool :=
  match c with
  | .outDone packet' _ => packet' = packet
  | _ => false

def RtHookCall.requests (packet : Nat) (c : RtHookCall) : Bool :=
  match c with
  | .outReq packet' => packet' = packet
  | _ => false

/-- How often a batch holds `packet`. -/
def RtBatch.holds (packet : Nat) (batch : RtBatch) : Nat := (batch.requests.map RtRequest.packet).count packet

def RtBatch.prefetched (batch : RtBatch) : Nat := batch.prefetchedBytes.toNat

namespace RtWorld

def requestCount (w : RtWorld) (packet : Nat) : Nat := w.calls.countP fun c => c.2.requests packet

def doneCount (w : RtWorld) (packet : Nat) : Nat := w.calls.countP fun c => c.2.finishes packet

/-- The lifecycle lets batches be in flight. -/
def Active (w : RtWorld) : Prop :=
  w.slot.lifecycle.state = .running ∨ w.slot.lifecycle.state = .stopping

/-- What the hooks of other tasks and the loops of a step leave alone. -/
structure Frame (w w' : RtWorld) : Prop where
  handler : w'.slot.handler = w.slot.handler
  batches : w'.slot.batches = w.slot.batches
  directionIn : w'.slot.directionIn = w.slot.directionIn
  maxPacket : w'.slot.maxPacket = w.slot.maxPacket
  packetLengths : w'.slot.packetLengths = w.slot.packetLengths
  active : w.Active → w'.Active

theorem Frame.refl (w : RtWorld)
    : w.Frame w :=
  ⟨rfl, rfl, rfl, rfl, rfl, id⟩

theorem Frame.trans {w w' w'' : RtWorld} (h : w.Frame w') (h' : w'.Frame w'')
    : w.Frame w'' := by
  constructor
  . rw [h'.handler, h.handler]
  . rw [h'.batches, h.batches]
  . rw [h'.directionIn, h.directionIn]
  . rw [h'.maxPacket, h.maxPacket]
  . rw [h'.packetLengths, h.packetLengths]
  . intro hactive
    exact h'.active (h.active hactive)

/--
The books on a slot with the batches `batches` and the packets `pending` outside of them: every packet
that was requested is live or finished. After the calls `C`, only hooks of handlers with `Q` are called.
-/
structure Books (Q : RtHandler → Prop) (C : List (RtHandler × RtHookCall)) (batches : Fin isoPipelineDepth → RtBatch)
    (pending : List Nat) (w : RtWorld) : Prop where
  account : ∀ handler packet, (handler, .outReq packet) ∈ w.calls → handler.outDoneHook = true →
    w.doneCount packet + total (RtBatch.holds packet) batches + pending.count packet = 1
  owner : ∀ handler packet, (handler, .outReq packet) ∈ w.calls →
    0 < total (RtBatch.holds packet) batches + pending.count packet → w.slot.handler = some handler
  fresh : ∀ packet, w.packets ≤ packet →
    (∀ handler, (handler, .outReq packet) ∉ w.calls) ∧ w.doneCount packet = 0
      ∧ total (RtBatch.holds packet) batches = 0 ∧ pending.count packet = 0
  empty : ∀ i, (batches i).batchId = 0 → batches i = .zero
  idle : ∀ i, (batches i).batchId ≠ 0 → w.Active
  inputs : w.slot.directionIn = true → ∀ i, (batches i).requests = []
  lengths : ∀ length ∈ w.slot.packetLengths, length ≤ isoPayloadSize w.slot.maxPacket
  prefetch : ∀ handler, w.slot.handler = some handler → w.slot.directionIn = false →
    handler.outPrefetch ≠ 0 → total RtBatch.prefetched batches ≤ handler.outPrefetch.toNat
  peaks : ∀ handler bytes, (handler, bytes) ∈ w.peaks → handler.outPrefetch ≠ 0 →
    bytes ≤ handler.outPrefetch.toNat
  attached : w.slot.handler ≠ none → w.slot.lifecycle.state ≠ .free
  removing : w.slot.lifecycle.removePending = true → w.slot.handler = none
  allowed : ∀ handler, w.slot.handler = some handler → Q handler
  allowed_calls : ∃ calls, w.calls = C ++ calls ∧ ∀ c ∈ calls, Q c.1
  once : ∀ packet, w.requestCount packet ≤ 1

variable {Q : RtHandler → Prop} {C : List (RtHandler × RtHookCall)} {batches : Fin isoPipelineDepth → RtBatch} {pending : List Nat}
  {w w' : RtWorld}

theorem Books.setLifecycle (h : w.Books Q C batches pending) {lifecycle : RtLifecycle}
    (hactive : w.Active → lifecycle.state = .running ∨ lifecycle.state = .stopping)
    (hattached : w.slot.handler ≠ none → lifecycle.state ≠ .free)
    (hremoving : lifecycle.removePending = true → w.slot.handler = none)
    : (w.setLifecycle lifecycle).Books Q C batches pending where
  account := h.account
  owner := h.owner
  fresh := h.fresh
  empty := h.empty
  idle i hi := hactive (h.idle i hi)
  inputs := h.inputs
  lengths := h.lengths
  prefetch := h.prefetch
  peaks := h.peaks
  attached := hattached
  removing := hremoving
  allowed := h.allowed
  allowed_calls := h.allowed_calls
  once := h.once

theorem Frame.setLifecycle {lifecycle : RtLifecycle}
    (hactive : w.Active → lifecycle.state = .running ∨ lifecycle.state = .stopping)
    : w.Frame (w.setLifecycle lifecycle) :=
  ⟨rfl, rfl, rfl, rfl, rfl, hactive⟩

/-- A lifecycle operation that neither frees the slot nor ends its activity. -/
structure Keeps (l l' : RtLifecycle) : Prop where
  active : l.state = .running ∨ l.state = .stopping → l'.state = .running ∨ l'.state = .stopping
  free : l'.state = .free → l.state = .free
  removePending : l'.removePending = l.removePending

theorem Books.keeps (h : w.Books Q C batches pending) {lifecycle : RtLifecycle}
    (hkeeps : Keeps w.slot.lifecycle lifecycle)
    : (w.setLifecycle lifecycle).Books Q C batches pending := by
  apply h.setLifecycle hkeeps.active
  . intro hhandler hfree
    exact h.attached hhandler (hkeeps.free hfree)
  . rw [hkeeps.removePending]
    exact h.removing

theorem keeps_start {l l' : RtLifecycle} (h : l.start = some l')
    : Keeps l l' := by
  unfold RtLifecycle.start at h
  split at h
  . cases h
    constructor <;> simp
  . contradiction

theorem keeps_ackStop {l l' : RtLifecycle} (h : l.ackStop = some l')
    : Keeps l l' := by
  unfold RtLifecycle.ackStop at h
  split at h
  . contradiction
  . split at h
    . cases h
      constructor <;> simp
    . split at h
      . cases h
        constructor <;> simp
      . contradiction

theorem keeps_beginStop {l l' : RtLifecycle} (h : l.beginStop = some l')
    : Keeps l l' := by
  unfold RtLifecycle.beginStop at h
  split at h
  . cases h
    constructor <;> simp
  . contradiction

theorem keeps_complete {l l' : RtLifecycle} {batchId : UInt32} (h : l.complete batchId = some l')
    : Keeps l l' := by
  unfold RtLifecycle.complete at h
  split at h
  . contradiction
  . split at h
    . contradiction
    . cases h
      constructor <;> simp

theorem keeps_queue {l l' : RtLifecycle} {batchId : UInt32} (h : l.queue = some (batchId, l'))
    : Keeps l l' ∧ l.state = .running := by
  unfold RtLifecycle.queue at h
  split at h
  . next hrunning =>
    cases h
    refine ⟨?_, hrunning.1⟩
    constructor <;> simp
  . contradiction

/-- A step that changes no more of the slot than its lifecycle, and that within its activity. -/
def Stays (Q : RtHandler → Prop) (C : List (RtHandler × RtHookCall)) (w w' : RtWorld) : Prop :=
  w.Frame w'
    ∧ ∀ batches pending, w.Books Q C batches pending → w'.Books Q C batches pending

theorem Stays.refl (w : RtWorld)
    : w.Stays Q C w :=
  ⟨Frame.refl w, fun _ _ h => h⟩

theorem Stays.trans {w'' : RtWorld} (h : w.Stays Q C w') (h' : w'.Stays Q C w'')
    : w.Stays Q C w'' :=
  ⟨h.1.trans h'.1, fun batches pending hbooks => h'.2 batches pending (h.2 batches pending hbooks)⟩

theorem stays_setLifecycle {lifecycle : RtLifecycle} (hkeeps : Keeps w.slot.lifecycle lifecycle)
    : w.Stays Q C (w.setLifecycle lifecycle) :=
  ⟨Frame.setLifecycle hkeeps.active, fun _ _ h => h.keeps hkeeps⟩

theorem stays_setOutRequest (w : RtWorld) (outRequest : RtBuffer)
    : w.Stays Q C (w.setOutRequest outRequest) := by
  refine ⟨⟨rfl, rfl, rfl, rfl, rfl, id⟩, ?_⟩
  intro batches pending h
  exact ⟨h.1, h.2, h.3, h.4, h.5, h.6, h.7, h.8, h.9, h.10, h.11, h.12, h.13, h.14⟩

theorem stays_setRequested (w : RtWorld) (startRequested stopRequested : Bool)
    : w.Stays Q C (w.setRequested startRequested stopRequested) := by
  refine ⟨⟨rfl, rfl, rfl, rfl, rfl, id⟩, ?_⟩
  intro batches pending h
  exact ⟨h.1, h.2, h.3, h.4, h.5, h.6, h.7, h.8, h.9, h.10, h.11, h.12, h.13, h.14⟩

theorem stays_command (w : RtWorld) (c : RtCommand)
    : w.Stays Q C (w.command c) := by
  cases c with
  | start handler protocolReady =>
    unfold command startRtIsoHandler
    dsimp only
    split
    . split
      . apply Stays.refl
      . next lifecycle hstart =>
        split
        . apply Stays.refl
        . exact (stays_setLifecycle (keeps_start hstart)).trans
            ((stays_setRequested _ true false).trans (stays_setOutRequest _ .zero))
    . apply Stays.refl
  | stop handler =>
    unfold command stopRtIsoHandler
    dsimp only
    split
    . split
      . apply Stays.refl
      . next lifecycle hstop =>
        exact (stays_setLifecycle (keeps_ackStop hstop)).trans
          ((stays_setRequested _ false _).trans (stays_setOutRequest _ .zero))
    . apply Stays.refl

theorem stays_elapse (w : RtWorld)
    : w.Stays Q C (elapse w) := by
  apply elapse_induction (p := w.Stays Q C)
  . intro w' c h
    exact h.trans (stays_command w' c)
  . intro w' gaps h
    refine h.trans ⟨⟨rfl, rfl, rfl, rfl, rfl, id⟩, ?_⟩
    intro batches pending h
    exact ⟨h.1, h.2, h.3, h.4, h.5, h.6, h.7, h.8, h.9, h.10, h.11, h.12, h.13, h.14⟩
  . apply Stays.refl

theorem Frame.callHook (w : RtWorld) (handler : RtHandler) (call : RtHookCall)
    : w.Frame (w.callHook handler call) :=
  (stays_elapse (Q := fun _ => True) (C := []) w).1.trans ⟨rfl, rfl, rfl, rfl, rfl, id⟩

/-- Calls of the hooks of an allowed handler are allowed. -/
theorem Books.allowed_append (h : w.Books Q C batches pending) {handler : RtHandler} (hQ : Q handler)
    (call : RtHookCall)
    : ∃ calls, w.calls ++ [(handler, call)] = C ++ calls ∧ ∀ c ∈ calls, Q c.1 := by
  obtain ⟨calls, hcalls, hallowed⟩ := h.allowed_calls
  refine ⟨calls ++ [(handler, call)], ?_, ?_⟩
  . rw [hcalls, List.append_assoc]
  . intro c hc
    rw [List.mem_append, List.mem_singleton] at hc
    cases hc with
    | inl hc => exact hallowed c hc
    | inr hc =>
      rw [hc]
      exact hQ

theorem requestCount_append (w : RtWorld) (handler : RtHandler) (call : RtHookCall) (packet : Nat)
    : requestCount { w with calls := w.calls ++ [(handler, call)] } packet
        = w.requestCount packet + if call.requests packet then 1 else 0 := by
  unfold requestCount
  rw [List.countP_append, List.countP_singleton]

theorem doneCount_append (w : RtWorld) (handler : RtHandler) (call : RtHookCall) (packet : Nat)
    : doneCount { w with calls := w.calls ++ [(handler, call)] } packet
        = w.doneCount packet + if call.finishes packet then 1 else 0 := by
  unfold doneCount
  rw [List.countP_append, List.countP_singleton]

/-- The done hook finishes a pending packet. -/
theorem Books.callDone {handler : RtHandler} {packet : Nat} (h : w.Books Q C batches (packet :: pending))
    (hhandler : w.slot.handler = some handler) (buffer : RtBuffer)
    : (w.callHook handler (.outDone packet buffer)).Books Q C batches pending := by
  obtain ⟨hframe, hbooks⟩ := stays_elapse (Q := Q) (C := C) w
  have h := hbooks _ _ h
  rw [← hframe.handler] at hhandler
  unfold callHook
  generalize elapse w = w at h hhandler
  dsimp only
  have hmem (handler' : RtHandler) (packet' : Nat)
      : (handler', RtHookCall.outReq packet') ∈ w.calls ++ [(handler, .outDone packet buffer)]
          ↔ (handler', .outReq packet') ∈ w.calls := by
    simp
  have hcount (packet' : Nat)
      : doneCount { w with calls := w.calls ++ [(handler, .outDone packet buffer)] } packet'
          + pending.count packet' = w.doneCount packet' + (packet :: pending).count packet' := by
    rw [doneCount_append, List.count_cons]
    simp only [RtHookCall.finishes, decide_eq_true_eq, beq_iff_eq]
    omega
  refine ⟨?_, ?_, ?_, h.empty, h.idle, h.inputs, h.lengths, h.prefetch, h.peaks, h.attached, h.removing,
    h.allowed, h.allowed_append (h.allowed _ hhandler) _, ?_⟩
  . intro handler' packet' hcall hdone
    have := h.account handler' packet' ((hmem handler' packet').mp hcall) hdone
    have := hcount packet'
    omega
  . intro handler' packet' hcall hlive
    apply h.owner handler' packet' ((hmem handler' packet').mp hcall)
    rw [List.count_cons]
    omega
  . intro packet' hpacket
    obtain ⟨hcalls, hdone, hlive, hpending⟩ := h.fresh packet' hpacket
    have := hcount packet'
    refine ⟨?_, ?_, hlive, ?_⟩
    . intro handler' hcall
      exact hcalls handler' ((hmem handler' packet').mp hcall)
    . omega
    . omega
  . intro packet'
    rw [requestCount_append]
    exact h.once packet'

/-- A pending packet is dropped when nobody wants to know that it is finished. -/
theorem Books.drop {packet : Nat} (h : w.Books Q C batches (packet :: pending))
    (hhandler : ∀ handler, w.slot.handler = some handler → handler.outDoneHook = false)
    : w.Books Q C batches pending := by
  have hcons (packet' : Nat) : pending.count packet' ≤ (packet :: pending).count packet' := by
    rw [List.count_cons]
    omega
  refine ⟨?_, ?_, ?_, h.empty, h.idle, h.inputs, h.lengths, h.prefetch, h.peaks, h.attached, h.removing,
    h.allowed, h.allowed_calls, h.once⟩
  . intro handler packet' hcall hdone
    have haccount := h.account handler packet' hcall hdone
    have howner := h.owner handler packet' hcall
    rw [List.count_cons] at haccount howner
    by_cases hsame : packet = packet'
    . have hcurrent := howner (by simp [hsame])
      rw [hhandler handler hcurrent] at hdone
      contradiction
    . simp only [beq_iff_eq, hsame, if_false] at haccount
      exact haccount
  . intro handler packet' hcall hlive
    apply h.owner handler packet' hcall
    have := hcons packet'
    omega
  . intro packet' hpacket
    obtain ⟨hcalls, hdone, hlive, hpending⟩ := h.fresh packet' hpacket
    have := hcons packet'
    exact ⟨hcalls, hdone, hlive, by omega⟩

theorem Books.dropAll {packets : List Nat} (h : w.Books Q C batches (packets ++ pending))
    (hhandler : ∀ handler, w.slot.handler = some handler → handler.outDoneHook = false)
    : w.Books Q C batches pending := by
  induction packets with
  | nil => exact h
  | cons packet packets ih =>
    apply ih
    exact Books.drop h hhandler

theorem Frame.finishRequests (w : RtWorld) (handler : RtHandler) (requests : List RtRequest)
    (packets : Option (List PacketResult)) (flags : UInt16)
    : w.Frame (w.finishRequests handler requests packets flags) := by
  induction requests generalizing w packets with
  | nil => apply Frame.refl
  | cons request requests ih =>
    unfold RtWorld.finishRequests
    dsimp only
    exact (Frame.callHook _ _ _).trans (ih _ _)

theorem Books.finishRequests {handler : RtHandler} {requests : List RtRequest}
    (h : w.Books Q C batches (requests.map RtRequest.packet ++ pending))
    (hhandler : w.slot.handler = some handler) (packets : Option (List PacketResult)) (flags : UInt16)
    : (w.finishRequests handler requests packets flags).Books Q C batches pending := by
  induction requests generalizing w packets with
  | nil => exact h
  | cons request requests ih =>
    unfold RtWorld.finishRequests
    dsimp only
    apply ih
    . apply Books.callDone h hhandler
    . rw [(Frame.callHook _ _ _).handler]
      exact hhandler

theorem Frame.rtFinishOutContext (w : RtWorld) (context : RtBatch) (packets : Option (List PacketResult))
    (flags : UInt16)
    : w.Frame (w.rtFinishOutContext context packets flags) := by
  unfold RtWorld.rtFinishOutContext
  split
  . apply Frame.refl
  . split
    . apply Frame.finishRequests
    . apply Frame.refl

theorem Books.rtFinishOutContext {context : RtBatch}
    (h : w.Books Q C batches (context.requests.map RtRequest.packet ++ pending))
    (packets : Option (List PacketResult)) (flags : UInt16)
    : (w.rtFinishOutContext context packets flags).Books Q C batches pending := by
  unfold RtWorld.rtFinishOutContext
  split
  . next hnone =>
    apply h.dropAll
    simp [hnone]
  . next handler hsome =>
    split
    . apply h.finishRequests hsome
    . next hdone =>
      apply h.dropAll
      simpa [hsome] using hdone

/-- The packets of a batch that is about to be cleared are pending. -/
theorem Books.take (h : w.Books Q C batches pending) (i : Fin isoPipelineDepth)
    : w.Books Q C (Function.update batches i .zero)
        ((batches i).requests.map RtRequest.packet ++ pending) := by
  have hlive (packet : Nat)
      : total (RtBatch.holds packet) (Function.update batches i .zero)
          + ((batches i).requests.map RtRequest.packet ++ pending).count packet
            = total (RtBatch.holds packet) batches + pending.count packet := by
    have hupdate := total_update (RtBatch.holds packet) batches i .zero
    have hzero : RtBatch.zero.holds packet = 0 := rfl
    have hheld : (batches i).holds packet = ((batches i).requests.map RtRequest.packet).count packet := rfl
    rw [List.count_append]
    omega
  refine ⟨?_, ?_, ?_, ?_, ?_, ?_, h.lengths, ?_, h.peaks, h.attached, h.removing, h.allowed,
    h.allowed_calls, h.once⟩
  . intro handler packet hcall hdone
    have := h.account handler packet hcall hdone
    have := hlive packet
    omega
  . intro handler packet hcall hpos
    rw [hlive] at hpos
    exact h.owner handler packet hcall hpos
  . intro packet hpacket
    obtain ⟨hcalls, hdone, hzero, hpending⟩ := h.fresh packet hpacket
    have := hlive packet
    exact ⟨hcalls, hdone, by omega, by omega⟩
  . intro j hj
    by_cases hij : j = i
    . simp [hij]
    . rw [Function.update_of_ne hij] at hj ⊢
      exact h.empty j hj
  . intro j hj
    by_cases hij : j = i
    . simp [hij, RtBatch.zero] at hj
    . rw [Function.update_of_ne hij] at hj
      exact h.idle j hj
  . intro hin j
    by_cases hij : j = i
    . simp [hij, RtBatch.zero]
    . rw [Function.update_of_ne hij]
      exact h.inputs hin j
  . intro handler hhandler hout hprefetch
    have hupdate := total_update RtBatch.prefetched batches i .zero
    have hzero : RtBatch.zero.prefetched = 0 := rfl
    have := h.prefetch handler hhandler hout hprefetch
    omega

/-- Between the steps of a slot there is nothing pending. -/
def Closed (Q : RtHandler → Prop) (C : List (RtHandler × RtHookCall)) (w : RtWorld) : Prop := w.Books Q C w.slot.batches []

theorem Stays.closed (hstays : w.Stays Q C w') (h : w.Closed Q C)
    : w'.Closed Q C := by
  unfold Closed
  rw [hstays.1.batches]
  exact hstays.2 _ _ h

theorem Books.setBatch (h : w.Books Q C batches pending) (i : Fin isoPipelineDepth) (batch : RtBatch)
    : (w.setBatch i batch).Books Q C batches pending :=
  ⟨h.1, h.2, h.3, h.4, h.5, h.6, h.7, h.8, h.9, h.10, h.11, h.12, h.13, h.14⟩

theorem setBatch_batches (w : RtWorld) (i : Fin isoPipelineDepth) (batch : RtBatch)
    : (w.setBatch i batch).slot.batches = Function.update w.slot.batches i batch := by
  rfl

/-- What `rt_cancel_contexts` and the ends of a batch do with one context. -/
def closeBatch (w : RtWorld) (i : Fin isoPipelineDepth) (packets : Option (List PacketResult))
    (flags : UInt16) : RtWorld :=
  (if w.slot.directionIn then w else w.rtFinishOutContext (w.slot.batches i) packets flags).setBatch i
    .zero

theorem Closed.closeBatch (h : w.Closed Q C) (i : Fin isoPipelineDepth)
    (packets : Option (List PacketResult)) (flags : UInt16)
    : (w.closeBatch i packets flags).Closed Q C := by
  have htake := Books.take h i
  unfold RtWorld.closeBatch
  split
  . next hin =>
    rw [h.inputs hin i] at htake
    exact htake.setBatch i .zero
  . have hframe := Frame.rtFinishOutContext w (w.slot.batches i) packets flags
    have hfinish := (htake.rtFinishOutContext packets flags).setBatch i .zero
    have hbatches
        : ((w.rtFinishOutContext (w.slot.batches i) packets flags).setBatch i .zero).slot.batches
            = Function.update w.slot.batches i .zero := by
      rw [setBatch_batches, hframe.batches]
    unfold Closed
    rw [hbatches]
    exact hfinish

theorem closeBatch_batches (w : RtWorld) (i : Fin isoPipelineDepth) (packets : Option (List PacketResult))
    (flags : UInt16)
    : (w.closeBatch i packets flags).slot.batches = Function.update w.slot.batches i .zero := by
  unfold RtWorld.closeBatch
  split
  . rfl
  . rw [setBatch_batches, (Frame.rtFinishOutContext w (w.slot.batches i) packets flags).batches]

theorem cancelFrom_spec (h : w.Closed Q C) (flags : UInt16) (is : List (Fin isoPipelineDepth))
    : (w.cancelFrom flags is).Closed Q C
        ∧ (∀ i ∈ is, (w.cancelFrom flags is).slot.batches i = .zero)
        ∧ ∀ i, w.slot.batches i = .zero → (w.cancelFrom flags is).slot.batches i = .zero := by
  induction is generalizing w with
  | nil =>
    refine ⟨h, ?_, ?_⟩
    . simp
    . intro i hi
      exact hi
  | cons i is ih =>
    unfold RtWorld.cancelFrom
    split
    . next hfree =>
      obtain ⟨hclosed, hcancelled, hzero⟩ := ih h
      refine ⟨hclosed, ?_, hzero⟩
      intro j hj
      cases hj with
      | head => exact hzero i (h.empty i hfree)
      | tail _ hj => exact hcancelled j hj
    . obtain ⟨hclosed, hcancelled, hzero⟩ := ih (h.closeBatch i none flags)
      rw [closeBatch_batches] at hzero
      refine ⟨hclosed, ?_, ?_⟩
      . intro j hj
        cases hj with
        | head =>
          apply hzero
          simp
        | tail _ hj => exact hcancelled j hj
      . intro j hj
        apply hzero
        rw [Function.update_apply, hj]
        split <;> rfl

/-- No batch is in flight. -/
def Idle (w : RtWorld) : Prop := ∀ i, w.slot.batches i = .zero

theorem Closed.rtCancelContexts (h : w.Closed Q C) (flags : UInt16)
    : (w.rtCancelContexts flags).Closed Q C ∧ (w.rtCancelContexts flags).Idle := by
  obtain ⟨hclosed, hcancelled, -⟩ := cancelFrom_spec h flags (List.finRange isoPipelineDepth)
  refine ⟨hclosed, ?_⟩
  intro i
  exact hcancelled i (List.mem_finRange i)

theorem Stays.idle (hstays : w.Stays Q C w') (h : w.Idle)
    : w'.Idle := by
  unfold Idle
  rw [hstays.1.batches]
  exact h

theorem Idle.batchId (h : w.Idle) (i : Fin isoPipelineDepth)
    : (w.slot.batches i).batchId = 0 := by
  rw [h i]
  rfl

/-- An idle slot may stop. -/
theorem Closed.finishStop (h : w.Closed Q C) (hidle : w.Idle)
    : (w.setLifecycle (w.slot.lifecycle.finishStop.getD w.slot.lifecycle)).Closed Q C := by
  unfold RtLifecycle.finishStop
  have hbatch (i : Fin isoPipelineDepth) (hi : (w.slot.batches i).batchId ≠ 0) : False := hi (hidle.batchId i)
  split
  . next hstopping =>
    split
    . next hremoving =>
      have hnone := h.removing hremoving
      exact ⟨h.1, h.2, h.3, h.4, fun i hi => (hbatch i hi).elim, h.6, h.7, h.8, h.9,
        fun hsome => absurd hnone hsome, fun _ => hnone, h.12, h.13, h.14⟩
    . next hremoving =>
      exact ⟨h.1, h.2, h.3, h.4, fun i hi => (hbatch i hi).elim, h.6, h.7, h.8, h.9,
        fun _ => by simp [setLifecycle], fun hpending => absurd hpending hremoving, h.12, h.13, h.14⟩
  . exact h

/-- An idle slot may be cleared. -/
theorem Closed.zero (h : w.Closed Q C) (hidle : w.Idle)
    : Closed Q C { w with slot := .zero } ∧ Idle { w with slot := .zero } := by
  have htotal (packet : Nat) : total (RtBatch.holds packet) w.slot.batches
      = total (RtBatch.holds packet) RtSlot.zero.batches := by
    have hbatches : w.slot.batches = RtSlot.zero.batches := funext hidle
    rw [hbatches]
  refine ⟨⟨?_, ?_, ?_, ?_, ?_, ?_, ?_, ?_, h.peaks, ?_, ?_, ?_, h.allowed_calls, h.once⟩, fun _ => rfl⟩
  . intro handler packet hcall hdone
    rw [← htotal]
    exact h.account handler packet hcall hdone
  . intro handler packet hcall hpos
    rw [← htotal] at hpos
    have hzero : total (RtBatch.holds packet) w.slot.batches = 0 := by
      apply total_eq_zero
      intro i
      rw [hidle i]
      rfl
    simp [hzero] at hpos
  . intro packet hpacket
    rw [← htotal]
    exact h.fresh packet hpacket
  . intro i _
    rfl
  . intro i hi
    exact absurd rfl hi
  . intro _ i
    rfl
  . simp [RtSlot.zero]
  . simp [RtSlot.zero]
  . simp [RtSlot.zero]
  . simp [RtSlot.zero]
  . simp [RtSlot.zero]

theorem Closed.retire (h : w.Closed Q C) (status : UInt16)
    : (w.retire status).2.Closed Q C ∧ ((w.retire status).1 = EngineStatus.ok → (w.retire status).2.Idle) := by
  have h := (stays_elapse w).closed h
  unfold RtWorld.retire
  dsimp only
  split
  . obtain ⟨hclosed, hidle⟩ := h.rtCancelContexts RtFlag.packetError
    generalize (elapse w).rtCancelContexts RtFlag.packetError = w at hclosed hidle
    have hstays := (stays_setOutRequest (Q := Q) (C := C) w .zero).trans (stays_elapse _)
    have hclosed := hstays.closed hclosed
    have hidle := hstays.idle hidle
    generalize elapse (w.setOutRequest .zero) = w at hclosed hidle
    have hclosed := hclosed.finishStop hidle
    have hstays := stays_elapse (Q := Q) (C := C)
      (w.setLifecycle (w.slot.lifecycle.finishStop.getD w.slot.lifecycle))
    have hclosed := hstays.closed hclosed
    have hidle := hstays.idle hidle
    split
    . obtain ⟨hclosed, hidle⟩ := hclosed.zero hidle
      exact ⟨hclosed, fun _ => hidle⟩
    . exact ⟨hclosed, fun _ => hidle⟩
  . next hstatus =>
    refine ⟨h, ?_⟩
    intro hok
    simp only at hok
    rw [hok] at hstatus
    contradiction

theorem Closed.stopRtIsoSlot (h : w.Closed Q C) (status : UInt16)
    : (w.stopRtIsoSlot status).2.Closed Q C
        ∧ ((w.stopRtIsoSlot status).1 = EngineStatus.ok → (w.stopRtIsoSlot status).2.Idle) := by
  have h := (stays_elapse w).closed h
  unfold RtWorld.stopRtIsoSlot
  dsimp only
  split
  . have h := (stays_elapse (elapse w)).closed h
    split
    . refine ⟨h, ?_⟩
      intro hok
      exact absurd hok (show EngineStatus.badParam ≠ EngineStatus.ok by decide)
    . next lifecycle hstop =>
      apply Closed.retire
      exact (stays_setLifecycle (keeps_beginStop hstop)).closed h
  . split
    . apply h.retire
    . refine ⟨h, ?_⟩
      intro hok
      exact absurd hok (show EngineStatus.badParam ≠ EngineStatus.ok by decide)

theorem Closed.stopRtIsoForUnit (h : w.Closed Q C) (status : UInt16)
    : (w.stopRtIsoForUnit status).Closed Q C := by
  have h := (((stays_elapse w).trans (stays_setRequested _ false false)).trans (stays_elapse _)).closed h
  unfold RtWorld.stopRtIsoForUnit
  dsimp only
  split
  . exact (h.stopRtIsoSlot status).1
  . exact h

theorem keeps_getD {l : RtLifecycle} {l' : Option RtLifecycle} (h : ∀ l'', l' = some l'' → Keeps l l'')
    : Keeps l (l'.getD l) := by
  cases l' with
  | none => exact ⟨id, id, rfl⟩
  | some l' => exact h l' rfl

theorem Closed.idle_of_inactive (h : w.Closed Q C) (hinactive : ¬w.Active)
    : w.Idle := by
  intro i
  apply h.empty
  by_contra hi
  exact hinactive (h.idle i hi)

/-- Other tasks leave a slot that is stopping to the tasks that hold the lock. -/
theorem elapse_stopping (h : w.slot.lifecycle.state = .stopping)
    : (elapse w).slot.lifecycle.state = .stopping := by
  apply elapse_induction (p := fun w : RtWorld => w.slot.lifecycle.state = .stopping)
  . intro w c h
    show (w.command c).slot.lifecycle.state = .stopping
    cases c with
    | start handler protocolReady =>
      have hstart : w.slot.lifecycle.start = none := by simp [RtLifecycle.start, h]
      unfold command startRtIsoHandler
      dsimp only
      rw [hstart]
      split <;> exact h
    | stop handler =>
      unfold command stopRtIsoHandler
      dsimp only
      split
      . split
        . exact h
        . next lifecycle hstop =>
          simp [RtLifecycle.ackStop, h] at hstop
          rw [← hstop.2]
      . exact h
  . intro w gaps h
    exact h
  . exact h

theorem Closed.finishResetRtIsoForUnit (h : w.Closed Q C)
    : w.finishResetRtIsoForUnit.Closed Q C ∧ w.finishResetRtIsoForUnit.Idle := by
  have hstays := ((stays_elapse (Q := Q) (C := C) w).trans (stays_setRequested _ false false)).trans
    (stays_elapse _)
  have h := hstays.closed h
  unfold RtWorld.finishResetRtIsoForUnit
  dsimp only
  generalize elapse ((elapse w).setRequested false false) = w at h
  have hkeeps : Keeps w.slot.lifecycle (w.slot.lifecycle.beginStop.getD w.slot.lifecycle) := by
    apply keeps_getD
    intro l hl
    exact keeps_beginStop hl
  have hstays := (stays_setLifecycle (Q := Q) (C := C) hkeeps).trans (stays_elapse _)
  have hclosed := hstays.closed h
  split
  . obtain ⟨hclosed, hidle⟩ := hclosed.rtCancelContexts RtFlag.packetError
    generalize (elapse (w.setLifecycle (w.slot.lifecycle.beginStop.getD w.slot.lifecycle))).rtCancelContexts
      RtFlag.packetError = w at hclosed hidle
    have hstays := stays_elapse (Q := Q) (C := C) w
    exact ⟨(hstays.closed hclosed).finishStop (hstays.idle hidle), hstays.idle hidle⟩
  . next hstopping =>
    refine ⟨hclosed, ?_⟩
    apply hstays.idle
    apply h.idle_of_inactive
    intro hactive
    apply hstopping
    apply elapse_stopping
    unfold RtLifecycle.beginStop
    cases hactive with
    | inl hrunning => simp [hrunning, setLifecycle]
    | inr hstopping => simp [hstopping, setLifecycle]

theorem Closed.rollbackAbortedIsoWork (h : w.Closed Q C) (handler : UInt32) (add : Bool)
    : (w.rollbackAbortedIsoWork handler add).Closed Q C := by
  have h := (stays_elapse w).closed h
  unfold RtWorld.rollbackAbortedIsoWork
  dsimp only
  generalize elapse w = w at h
  split
  . have hstays := stays_elapse (Q := Q) (C := C) w
    have h' := hstays.closed h
    split
    . split
      . exact h'
      . next l hremove =>
        refine (h'.zero ?_).1
        intro i
        apply h'.empty
        by_contra hi
        have hactive := h'.idle i hi
        unfold RtLifecycle.remove at hremove
        unfold Active at hactive
        split at hremove
        . next hstate =>
          cases hactive with
          | inl hactive => simp [hactive] at hstate
          | inr hactive => simp [hactive] at hstate
        . contradiction
    . split
      . apply (stays_setLifecycle ?_).closed h'
        apply keeps_getD
        intro l hl
        exact keeps_beginStop hl
      . exact h
  . exact h

theorem elapse_calls (w : RtWorld)
    : (elapse w).calls = w.calls ∧ (elapse w).packets = w.packets := by
  apply elapse_induction (p := fun w' : RtWorld => w'.calls = w.calls ∧ w'.packets = w.packets)
  . intro w' c h
    have hcommand : (w'.command c).calls = w'.calls ∧ (w'.command c).packets = w'.packets := by
      cases c with
      | start handler protocolReady =>
        unfold command startRtIsoHandler
        dsimp only
        split
        . split
          . exact ⟨rfl, rfl⟩
          . split <;> exact ⟨rfl, rfl⟩
        . exact ⟨rfl, rfl⟩
      | stop handler =>
        unfold command stopRtIsoHandler
        dsimp only
        split
        . split <;> exact ⟨rfl, rfl⟩
        . exact ⟨rfl, rfl⟩
    exact ⟨hcommand.1.trans h.1, hcommand.2.trans h.2⟩
  . intro w' gaps h
    exact h
  . exact ⟨rfl, rfl⟩

/-- The next packet is pending from now on. -/
theorem Books.newPacket (h : w.Books Q C batches pending)
    : Books Q C batches (w.packets :: pending) { w with packets := w.packets + 1 } := by
  obtain ⟨hcalls, hdone, hlive, hpending⟩ := h.fresh w.packets (Nat.le_refl _)
  have hold {packet : Nat} (hne : packet ≠ w.packets)
      : (w.packets :: pending).count packet = pending.count packet := by
    rw [List.count_cons_of_ne hne.symm]
  refine ⟨?_, ?_, ?_, h.empty, h.idle, h.inputs, h.lengths, h.prefetch, h.peaks, h.attached, h.removing,
    h.allowed, h.allowed_calls, h.once⟩
  . intro handler packet hcall
    have hne : packet ≠ w.packets := by
      intro heq
      rw [heq] at hcall
      exact hcalls handler hcall
    rw [hold hne]
    exact h.account handler packet hcall
  . intro handler packet hcall
    have hne : packet ≠ w.packets := by
      intro heq
      rw [heq] at hcall
      exact hcalls handler hcall
    rw [hold hne]
    exact h.owner handler packet hcall
  . intro packet hpacket
    have hpacket : w.packets + 1 ≤ packet := hpacket
    rw [hold (by omega)]
    exact h.fresh packet (by omega)

/-- The request hook is called for a pending packet that it was not called for before. -/
theorem Books.callRequest {handler : RtHandler} {packet : Nat} (h : w.Books Q C batches pending)
    (hhandler : w.slot.handler = some handler) (hlt : packet < w.packets)
    (hfirst : w.requestCount packet = 0)
    (hnew : w.doneCount packet + total (RtBatch.holds packet) batches + pending.count packet = 1)
    : (w.callHook handler (.outReq packet)).Books Q C batches pending := by
  obtain ⟨hcalls, hpackets⟩ := elapse_calls w
  obtain ⟨hframe, hbooks⟩ := stays_elapse (Q := Q) (C := C) w
  have h := hbooks _ _ h
  rw [← hframe.handler] at hhandler
  rw [← hpackets] at hlt
  have hnew : (elapse w).doneCount packet + total (RtBatch.holds packet) batches + pending.count packet = 1 := by
    unfold doneCount
    rw [hcalls]
    exact hnew
  have hfirst : (elapse w).requestCount packet = 0 := by
    unfold requestCount
    rw [hcalls]
    exact hfirst
  unfold callHook
  generalize elapse w = w at h hhandler hlt hnew hfirst
  dsimp only
  have hdone (packet' : Nat)
      : doneCount { w with calls := w.calls ++ [(handler, .outReq packet)] } packet' = w.doneCount packet' := by
    rw [doneCount_append]
    rfl
  have hmem {handler' : RtHandler} {packet' : Nat}
      (hcall : (handler', RtHookCall.outReq packet') ∈ w.calls ++ [(handler, .outReq packet)])
      : (handler', .outReq packet') ∈ w.calls ∨ handler' = handler ∧ packet' = packet := by
    simpa using hcall
  refine ⟨?_, ?_, ?_, h.empty, h.idle, h.inputs, h.lengths, h.prefetch, h.peaks, h.attached, h.removing,
    h.allowed, h.allowed_append (h.allowed _ hhandler) _, ?_⟩
  . intro handler' packet' hcall hdoneHook
    rw [hdone]
    cases hmem hcall with
    | inl hcall => exact h.account handler' packet' hcall hdoneHook
    | inr hsame =>
      rw [hsame.2]
      exact hnew
  . intro handler' packet' hcall hpos
    cases hmem hcall with
    | inl hcall => exact h.owner handler' packet' hcall hpos
    | inr hsame =>
      rw [hsame.1]
      exact hhandler
  . intro packet' hpacket
    obtain ⟨hcalls, hdoneCount, hlive⟩ := h.fresh packet' hpacket
    refine ⟨?_, ?_, hlive⟩
    . intro handler' hcall
      cases hmem hcall with
      | inl hcall => exact hcalls handler' hcall
      | inr hsame =>
        have hpacket : w.packets ≤ packet' := hpacket
        omega
    . rw [hdone]
      exact hdoneCount
  . intro packet'
    rw [requestCount_append]
    split
    . next hsame =>
      simp only [RtHookCall.requests, decide_eq_true_eq] at hsame
      rw [← hsame, hfirst]
    . exact h.once packet'

theorem requestPacket_spec (h : w.Books Q C batches pending) {handler : RtHandler}
    (hhandler : w.slot.handler = some handler)
    : w.Frame (w.requestPacket handler)
        ∧ (w.requestPacket handler).Books Q C batches (w.packets :: pending) := by
  have hnew := h.newPacket
  have hframe : w.Frame { w with packets := w.packets + 1 } := ⟨rfl, rfl, rfl, rfl, rfl, id⟩
  obtain ⟨hcalls, hdone, hlive, hpending⟩ := h.fresh w.packets (Nat.le_refl _)
  have hfirst : requestCount { w with packets := w.packets + 1 } w.packets = 0 := by
    unfold requestCount
    rw [List.countP_eq_zero]
    intro c hc
    obtain ⟨handler', call⟩ := c
    cases call with
    | outReq packet =>
      simp only [RtHookCall.requests, decide_eq_true_eq]
      intro hsame
      rw [hsame] at hc
      exact hcalls handler' hc
    | outDone packet buffer => simp [RtHookCall.requests]
    | inReq buffer => simp [RtHookCall.requests]
    | inDone buffer => simp [RtHookCall.requests]
  have hone : doneCount { w with packets := w.packets + 1 } w.packets
      + total (RtBatch.holds w.packets) batches + (w.packets :: pending).count w.packets = 1 := by
    have hsame : doneCount { w with packets := w.packets + 1 } w.packets = w.doneCount w.packets := rfl
    rw [hsame, hdone, hlive, List.count_cons_self, hpending]
  unfold requestPacket
  dsimp only
  split
  . refine ⟨hframe.trans (Frame.callHook _ _ _), ?_⟩
    exact hnew.callRequest hhandler (Nat.lt_succ_self _) hfirst hone
  . exact ⟨hframe, hnew⟩

theorem clampRequest_length (request : RtBuffer) (requested : UInt16)
    : (clampRequest request requested).length ≤ requested.toUInt32 := by
  unfold clampRequest
  dsimp only
  generalize (if request.buffer = 0 ∧ request.length ≠ 0 then _ else request) = request
  split
  . apply UInt32.le_refl
  . next hle => exact UInt32.not_lt.mp hle

theorem fillRequest_spec (h : w.Books Q C batches pending) {handler : RtHandler}
    (hhandler : w.slot.handler = some handler) (requested : UInt16) (answer : RtBuffer)
    : let r := w.fillRequest handler requested answer
      w.Frame r.1 ∧ r.1.Books Q C batches (r.2.packet :: pending) ∧ r.2.length ≤ requested.toUInt32 := by
  obtain ⟨hframe, hbooks⟩ := stays_elapse (Q := Q) (C := C) w
  have h := hbooks _ _ h
  rw [← hframe.handler] at hhandler
  obtain ⟨hframe', hbooks'⟩ := requestPacket_spec h hhandler
  have hstays (request : RtBuffer) := (stays_elapse (Q := Q) (C := C) ((elapse w).requestPacket handler)).trans
    (stays_setOutRequest _ (advanceRequest request))
  unfold fillRequest
  dsimp only
  refine ⟨hframe.trans (hframe'.trans (hstays _).1), (hstays _).2 _ _ hbooks', ?_⟩
  apply clampRequest_length

theorem Books.congr (h : w.Books Q C batches pending) {pending' : List Nat}
    (hcount : ∀ packet, pending'.count packet = pending.count packet)
    : w.Books Q C batches pending' := by
  refine ⟨?_, ?_, ?_, h.empty, h.idle, h.inputs, h.lengths, h.prefetch, h.peaks, h.attached, h.removing,
    h.allowed, h.allowed_calls, h.once⟩
  . intro handler packet
    rw [hcount]
    exact h.account handler packet
  . intro handler packet
    rw [hcount]
    exact h.owner handler packet
  . intro packet
    rw [hcount]
    exact h.fresh packet

theorem fillRequests_spec (h : w.Books Q C batches pending) {handler : RtHandler}
    (hhandler : w.slot.handler = some handler) (hook : Nat → RtBuffer) (index : Nat) (lengths : List UInt16)
    : let r := w.fillRequests handler hook index lengths
      w.Frame r.1 ∧ r.1.Books Q C batches (r.2.map RtRequest.packet ++ pending)
        ∧ List.Forall₂ (fun (request : RtRequest) length => request.length ≤ length.toUInt32) r.2 lengths := by
  induction lengths generalizing w index pending with
  | nil => exact ⟨Frame.refl w, h, List.Forall₂.nil⟩
  | cons length lengths ih =>
    obtain ⟨hframe, hbooks, hlength⟩ := fillRequest_spec h hhandler length (hook index)
    have hhandler' : (w.fillRequest handler length (hook index)).1.slot.handler = some handler := by
      rw [hframe.handler, hhandler]
    obtain ⟨hframe', hbooks', hlengths⟩ := ih hbooks hhandler' (index + 1)
    unfold fillRequests
    refine ⟨hframe.trans hframe', ?_, List.Forall₂.cons hlength hlengths⟩
    apply hbooks'.congr
    intro packet
    simp only [List.map_cons, List.cons_append, List.count_cons, List.count_append]
    omega

theorem foldl_prefetchedBytes (batches : Fin isoPipelineDepth → RtBatch) (is : List (Fin isoPipelineDepth))
    (start : UInt32) (hbatches : ∀ i, (batches i).batchId = 0 → batches i = .zero)
    (hsmall : start.toNat + (is.map fun i => (batches i).prefetched).sum < 2 ^ 32)
    : (is.foldl
        (fun total i => if (batches i).batchId ≠ 0 then total + (batches i).prefetchedBytes else total)
        start).toNat = start.toNat + (is.map fun i => (batches i).prefetched).sum := by
  induction is generalizing start with
  | nil => simp
  | cons i is ih =>
    simp only [List.map_cons, List.sum_cons] at hsmall
    simp only [List.foldl_cons, List.map_cons, List.sum_cons]
    split
    . have hadd : (start + (batches i).prefetchedBytes).toNat = start.toNat + (batches i).prefetched := by
        rw [UInt32.toNat_add]
        unfold RtBatch.prefetched at hsmall ⊢
        omega
      rw [ih]
      . rw [hadd]
        omega
      . omega
    . next hfree =>
      have hzero : (batches i).prefetched = 0 := by
        rw [hbatches i (by simpa using hfree)]
        rfl
      rw [ih]
      . omega
      . omega

/-- The sum of the driver does not overflow where the window bounds it. -/
theorem rtPrefetchedBytes_toNat (hempty : ∀ i, (w.slot.batches i).batchId = 0 → w.slot.batches i = .zero)
    {limit : UInt32} (hlimit : total RtBatch.prefetched w.slot.batches ≤ limit.toNat)
    : w.rtPrefetchedBytes.toNat = total RtBatch.prefetched w.slot.batches := by
  have hlt := limit.toNat_lt
  have htotal : total RtBatch.prefetched w.slot.batches
      = ((List.finRange isoPipelineDepth).map fun i => (w.slot.batches i).prefetched).sum := by
    unfold total
    rw [← List.ofFn_eq_map, List.sum_ofFn]
  unfold rtPrefetchedBytes
  rw [foldl_prefetchedBytes w.slot.batches _ 0 hempty]
  . rw [htotal]
    simp
  . rw [← htotal]
    simp
    omega

theorem allowedPackets_le (w : RtWorld) (outPrefetch : UInt32) (packetCount : Nat)
    : w.allowedPackets outPrefetch packetCount ≤ packetCount := by
  unfold allowedPackets
  dsimp only
  split
  . omega
  . apply Nat.min_le_left

theorem allowedPackets_room {outPrefetch : UInt32} {packetCount : Nat}
    (h : w.allowedPackets outPrefetch packetCount ≠ 0)
    : w.rtPrefetchedBytes.toNat + (isoPayloadSize w.slot.maxPacket).toNat ≤ outPrefetch.toNat := by
  unfold allowedPackets at h
  dsimp only at h
  split at h
  . contradiction
  . next hroom =>
    simp only [not_or, ge_iff_le, UInt32.not_le] at hroom
    have hle : w.rtPrefetchedBytes ≤ outPrefetch := UInt32.le_of_lt hroom.1
    have hquotient : ((outPrefetch - w.rtPrefetchedBytes) / (isoPayloadSize w.slot.maxPacket).toUInt32).toNat
        ≠ 0 := by
      omega
    rw [UInt32.toNat_div, UInt32.toNat_sub_of_le _ _ hle, UInt16.toNat_toUInt32] at hquotient
    have hfits := Nat.pos_of_ne_zero hquotient
    rw [Nat.div_pos_iff] at hfits
    rw [UInt32.le_iff_toNat_le] at hle
    omega

/-- Pending packets go into a batch that holds none. -/
theorem Books.put (packets : List Nat) (h : w.Books Q C batches (packets ++ pending))
    {i : Fin isoPipelineDepth} {batch : RtBatch} (hrequests : (batches i).requests = [])
    (hprefetched : (batches i).prefetched = 0) (hpackets : batch.requests.map RtRequest.packet = packets)
    (hid : batch.batchId ≠ 0) (hactive : w.Active) (hin : w.slot.directionIn = true → batch.requests = [])
    (hroom : ∀ handler, w.slot.handler = some handler → w.slot.directionIn = false →
      handler.outPrefetch ≠ 0 →
      total RtBatch.prefetched batches + batch.prefetched ≤ handler.outPrefetch.toNat)
    : w.Books Q C (Function.update batches i batch) pending := by
  have hlive (packet : Nat)
      : total (RtBatch.holds packet) (Function.update batches i batch) + pending.count packet
          = total (RtBatch.holds packet) batches + (packets ++ pending).count packet := by
    have hupdate := total_update (RtBatch.holds packet) batches i batch
    have hempty : (batches i).holds packet = 0 := by
      unfold RtBatch.holds
      rw [hrequests]
      rfl
    have hheld : batch.holds packet = packets.count packet := by
      unfold RtBatch.holds
      rw [hpackets]
    rw [List.count_append]
    omega
  refine ⟨?_, ?_, ?_, ?_, ?_, ?_, h.lengths, ?_, h.peaks, h.attached, h.removing, h.allowed,
    h.allowed_calls, h.once⟩
  . intro handler packet hcall hdone
    have := h.account handler packet hcall hdone
    have := hlive packet
    omega
  . intro handler packet hcall hpos
    rw [hlive] at hpos
    exact h.owner handler packet hcall hpos
  . intro packet hpacket
    obtain ⟨hcalls, hdone, hzero, hpending⟩ := h.fresh packet hpacket
    have := hlive packet
    exact ⟨hcalls, hdone, by omega, by omega⟩
  . intro j hj
    by_cases hij : j = i
    . rw [hij, Function.update_self] at hj
      exact absurd hj hid
    . rw [Function.update_of_ne hij] at hj ⊢
      exact h.empty j hj
  . intro j _
    exact hactive
  . intro hdirection j
    by_cases hij : j = i
    . rw [hij, Function.update_self]
      exact hin hdirection
    . rw [Function.update_of_ne hij]
      exact h.inputs hdirection j
  . intro handler hhandler hout hprefetch
    have hupdate := total_update RtBatch.prefetched batches i batch
    have := hroom handler hhandler hout hprefetch
    omega

theorem Closed.failBatch (h : w.Closed Q C) (i : Fin isoPipelineDepth) (batchId : UInt32)
    : (w.failBatch i batchId).Closed Q C := by
  have hkeeps : Keeps (elapse w).slot.lifecycle
      (((elapse w).slot.lifecycle.complete batchId).getD (elapse w).slot.lifecycle) := by
    apply keeps_getD
    intro l hl
    exact keeps_complete hl
  have h := ((stays_elapse w).trans (stays_setLifecycle hkeeps)).closed h
  exact h.closeBatch i none RtFlag.packetError

theorem Closed.notePeak (h : w.Closed Q C) {handler : RtHandler} (hhandler : w.slot.handler = some handler)
    : (w.notePeak handler).Closed Q C := by
  unfold RtWorld.notePeak
  split
  . exact h
  . next hout =>
    rw [Bool.not_eq_true] at hout
    refine ⟨h.1, h.2, h.3, h.4, h.5, h.6, h.7, h.8, ?_, h.10, h.11, h.12, h.13, h.14⟩
    intro handler' bytes hpeak hprefetch
    simp only [List.mem_append, List.mem_singleton, Prod.mk.injEq] at hpeak
    cases hpeak with
    | inl hpeak => exact h.peaks handler' bytes hpeak hprefetch
    | inr hpeak =>
      rw [hpeak.1] at hprefetch ⊢
      have hlimit := h.prefetch handler hhandler hout hprefetch
      rw [hpeak.2, rtPrefetchedBytes_toNat h.empty hlimit]
      exact hlimit

theorem Closed.sendBatch (h : w.Closed Q C) (i : Fin isoPipelineDepth) (batchId : UInt32)
    (lengths : List UInt16) (status : UInt16)
    : (w.sendBatch i batchId lengths status).2.Closed Q C := by
  unfold RtWorld.sendBatch
  dsimp only
  split
  . apply h.failBatch
  . have h := (stays_elapse w).closed h
    split
    . exact h
    . apply h.failBatch

/-- What goes into a batch of one packet fits the payload that was planned for it. -/
theorem totalData_le {requests : List RtRequest} {lengths : List UInt16} {payload : UInt16}
    (hrequests : List.Forall₂ (fun (request : RtRequest) length => request.length ≤ length.toUInt32)
      requests lengths)
    (hone : lengths.length ≤ 1) (hpayload : ∀ length ∈ lengths, length ≤ payload)
    : ((requests.map fun r => r.length.toUInt16).map UInt16.toUInt32).sum.toNat ≤ payload.toNat := by
  cases hrequests with
  | nil => simp
  | cons hlength hrest =>
    cases hrest with
    | nil =>
      next request length =>
      have hle := hpayload length (by simp)
      rw [UInt16.le_iff_toNat_le] at hle
      rw [UInt32.le_iff_toNat_le, UInt16.toNat_toUInt32] at hlength
      simp
      omega
    | cons _ _ =>
      simp at hone

theorem Closed.fillBatch (h : w.Closed Q C) {handler : RtHandler} (hhandler : w.slot.handler = some handler)
    {i : Fin isoPipelineDepth} (hfree : (w.slot.batches i).batchId = 0) {batchId : UInt32} (hid : batchId ≠ 0)
    (hactive : w.Active) (lengths : List UInt16) (hook : Nat → RtBuffer)
    (hlengths : w.slot.directionIn = false →
      lengths.length ≤ 1 ∧ ∀ length ∈ lengths, length ≤ isoPayloadSize w.slot.maxPacket)
    (hroom : w.slot.directionIn = false → handler.outPrefetch ≠ 0 →
      total RtBatch.prefetched w.slot.batches + (isoPayloadSize w.slot.maxPacket).toNat
        ≤ handler.outPrefetch.toNat)
    : (w.fillBatch handler i batchId lengths hook).1.Closed Q C
        ∧ (w.fillBatch handler i batchId lengths hook).1.slot.handler = some handler := by
  have hzero := h.empty i hfree
  have hempty : (w.slot.batches i).requests = [] ∧ (w.slot.batches i).prefetched = 0 := by
    rw [hzero]
    exact ⟨rfl, rfl⟩
  unfold RtWorld.fillBatch
  dsimp only
  generalize (if w.slot.durationMicroframes * lengths.length / w.slot.packetCount = 0 then 1
    else w.slot.durationMicroframes * lengths.length / w.slot.packetCount) = duration
  -- the context is in use from here on, but holds nothing yet
  have hcontext : (w.setBatch i ⟨batchId, lengths.length, duration, 0, []⟩).Closed Q C := by
    refine (Books.put [] h hempty.1 hempty.2 rfl hid hactive ?_ ?_).setBatch i _
    . intro _
      rfl
    . intro handler' hhandler' hout hprefetch
      exact h.prefetch handler' hhandler' hout hprefetch
  have hupdate (batch : RtBatch) (bytes : UInt32)
      : total RtBatch.prefetched (Function.update w.slot.batches i { batch with prefetchedBytes := bytes })
          = total RtBatch.prefetched w.slot.batches + bytes.toNat := by
    have := total_update RtBatch.prefetched w.slot.batches i { batch with prefetchedBytes := bytes }
    rw [hempty.2] at this
    exact this
  split
  . next hin =>
    refine ⟨?_, hhandler⟩
    refine (Books.put [] (i := i) hcontext ?_ ?_ rfl hid hactive ?_ ?_).setBatch i _
    . rw [setBatch_batches, Function.update_self]
    . rw [setBatch_batches, Function.update_self]
      rfl
    . intro _
      rfl
    . intro handler' _ hout
      have hin : (w.setBatch i ⟨batchId, lengths.length, duration, 0, []⟩).slot.directionIn = true := hin
      rw [hin] at hout
      contradiction
  . next hout =>
    rw [Bool.not_eq_true] at hout
    obtain ⟨hone, hpayload⟩ := hlengths hout
    obtain ⟨hframe, hbooks, hrequests⟩ := fillRequests_spec hcontext
      (w := w.setBatch i ⟨batchId, lengths.length, duration, 0, []⟩) hhandler hook 0 lengths
    generalize (w.setBatch i ⟨batchId, lengths.length, duration, 0, []⟩).fillRequests handler hook 0 lengths
      = filled at hframe hbooks hrequests
    obtain ⟨w', requests⟩ := filled
    dsimp only at hframe hbooks hrequests ⊢
    have hhandler' : w'.slot.handler = some handler := by
      rw [hframe.handler]
      exact hhandler
    refine ⟨?_, hhandler'⟩
    rw [← hframe.batches] at hbooks
    refine (Books.put _ hbooks ?_ ?_ rfl hid (hframe.active hactive) ?_ ?_).setBatch i _
    . rw [hframe.batches, setBatch_batches, Function.update_self]
    . rw [hframe.batches, setBatch_batches, Function.update_self]
      rfl
    . intro hin
      have hout' : w'.slot.directionIn = false := by
        rw [hframe.directionIn]
        exact hout
      rw [hin] at hout'
      contradiction
    . intro handler' hsome _ hprefetch
      rw [hhandler', Option.some.injEq] at hsome
      rw [← hsome] at hprefetch ⊢
      have hroom := hroom hout hprefetch
      have hdata := totalData_le hrequests hone hpayload
      have htotal := hupdate ⟨batchId, lengths.length, duration, 0, []⟩ 0
      rw [hframe.batches, setBatch_batches]
      show total RtBatch.prefetched (Function.update w.slot.batches i ⟨batchId, lengths.length, duration, 0, []⟩)
        + _ ≤ _
      simp only [UInt32.toNat_zero, Nat.add_zero] at htotal
      rw [htotal]
      show total RtBatch.prefetched w.slot.batches
        + ((requests.map fun r => r.length.toUInt16).map UInt16.toUInt32).sum.toNat ≤ _
      omega

theorem queue_batchId {l l' : RtLifecycle} {batchId : UInt32} (h : l.queue = some (batchId, l'))
    : batchId ≠ 0 := by
  unfold RtLifecycle.queue at h
  split at h
  . simp only [Option.some.injEq, Prod.mk.injEq] at h
    rw [← h.1]
    split
    . decide
    . assumption
  . contradiction

theorem Closed.queueRtIsoBatch (h : w.Closed Q C) (input : QueueInput)
    : (w.queueRtIsoBatch input).2.Closed Q C := by
  have h := (stays_elapse w).closed h
  unfold RtWorld.queueRtIsoBatch
  dsimp only
  generalize elapse w = w at h
  split
  . next handler i hhandler hfree =>
    generalize hcount : (if !w.slot.directionIn && handler.outPrefetch != 0 then _ else _) = packetCount
    split
    . exact h
    . next hpacketCount =>
      split
      . exact h
      . next batchId lifecycle hqueue =>
        obtain ⟨hkeeps, hrunning⟩ := keeps_queue hqueue
        have hclosed := (stays_setLifecycle hkeeps).closed h
        have hfree : (w.slot.batches i).batchId = 0 := by
          have := List.find?_some hfree
          simpa using this
        have hle : w.slot.directionIn = false → packetCount ≤ 1 := by
          intro hout
          rw [← hcount, hout]
          split
          . apply allowedPackets_le
          . apply Nat.le_refl
        have hroom : w.slot.directionIn = false → handler.outPrefetch ≠ 0 →
            total RtBatch.prefetched w.slot.batches + (isoPayloadSize w.slot.maxPacket).toNat
              ≤ handler.outPrefetch.toNat := by
          intro hout hprefetch
          rw [hout, if_pos (by simp [hprefetch])] at hcount
          rw [← hcount] at hpacketCount
          have hroom := allowedPackets_room hpacketCount
          rw [rtPrefetchedBytes_toNat h.empty (h.prefetch handler hhandler hout hprefetch)] at hroom
          exact hroom
        obtain ⟨hclosed, hhandler⟩ := hclosed.fillBatch hhandler hfree (queue_batchId hqueue)
          (hkeeps.active (.inl hrunning)) (w.slot.packetLengths.take packetCount) input.hook
          (by
            intro hout
            have := hle hout
            refine ⟨?_, ?_⟩
            . rw [List.length_take]
              omega
            . intro length hlength
              exact h.lengths length (List.mem_of_mem_take hlength))
          hroom
        exact (hclosed.notePeak hhandler).sendBatch i batchId _ input.status
  . exact h

theorem Closed.fillRtIsoPipeline (h : w.Closed Q C) (honorAbort : Bool) (inputs : List QueueInput)
    : (w.fillRtIsoPipeline honorAbort inputs).2.Closed Q C := by
  induction inputs generalizing w with
  | nil => exact h
  | cons input inputs ih =>
    have h := (stays_elapse w).closed h
    unfold RtWorld.fillRtIsoPipeline
    dsimp only
    split
    . split
      . exact h
      . have h := h.queueRtIsoBatch input
        split
        . exact h
        . split
          . exact h
          . apply ih h
    . exact h

/-- The hooks of an IN packet do not touch the books. -/
theorem Books.callIn {handler : RtHandler} (h : w.Books Q C batches pending)
    (hhandler : w.slot.handler = some handler) {call : RtHookCall}
    (hcall : (∃ buffer, call = .inReq buffer) ∨ ∃ buffer, call = .inDone buffer)
    : (w.callHook handler call).Books Q C batches pending := by
  obtain ⟨hframe, hbooks⟩ := stays_elapse (Q := Q) (C := C) w
  have h := hbooks _ _ h
  rw [← hframe.handler] at hhandler
  unfold callHook
  generalize elapse w = w at h hhandler
  dsimp only
  have hdone (packet : Nat)
      : doneCount { w with calls := w.calls ++ [(handler, call)] } packet = w.doneCount packet := by
    rw [doneCount_append]
    cases hcall with
    | inl hcall =>
      obtain ⟨buffer, hcall⟩ := hcall
      rw [hcall]
      rfl
    | inr hcall =>
      obtain ⟨buffer, hcall⟩ := hcall
      rw [hcall]
      rfl
  have hmem (handler' : RtHandler) (packet : Nat)
      : (handler', RtHookCall.outReq packet) ∈ w.calls ++ [(handler, call)]
          ↔ (handler', .outReq packet) ∈ w.calls := by
    cases hcall with
    | inl hcall =>
      obtain ⟨buffer, hcall⟩ := hcall
      simp [hcall]
    | inr hcall =>
      obtain ⟨buffer, hcall⟩ := hcall
      simp [hcall]
  refine ⟨?_, ?_, ?_, h.empty, h.idle, h.inputs, h.lengths, h.prefetch, h.peaks, h.attached, h.removing,
    h.allowed, h.allowed_append (h.allowed _ hhandler) _, ?_⟩
  . intro handler' packet hreq
    rw [hdone]
    exact h.account handler' packet ((hmem handler' packet).mp hreq)
  . intro handler' packet hreq
    exact h.owner handler' packet ((hmem handler' packet).mp hreq)
  . intro packet hpacket
    obtain ⟨hcalls, hdoneCount, hlive⟩ := h.fresh packet hpacket
    refine ⟨?_, ?_, hlive⟩
    . intro handler' hreq
      exact hcalls handler' ((hmem handler' packet).mp hreq)
    . rw [hdone]
      exact hdoneCount
  . intro packet
    rw [requestCount_append]
    cases hcall with
    | inl hcall =>
      obtain ⟨buffer, hcall⟩ := hcall
      rw [hcall]
      exact h.once packet
    | inr hcall =>
      obtain ⟨buffer, hcall⟩ := hcall
      rw [hcall]
      exact h.once packet

theorem stays_callIn {handler : RtHandler} (hhandler : w.slot.handler = some handler) {call : RtHookCall}
    (hcall : (∃ buffer, call = .inReq buffer) ∨ ∃ buffer, call = .inDone buffer)
    : w.Stays Q C (w.callHook handler call) :=
  ⟨Frame.callHook w handler call, fun _ _ h => h.callIn hhandler hcall⟩

theorem stays_deliverSegments {handler : RtHandler} (hhandler : w.slot.handler = some handler)
    (packet : PacketResult) (hook : Nat → RtBuffer) (remaining : UInt32) (segments fuel : Nat)
    : w.Stays Q C (w.deliverSegments handler packet hook remaining segments fuel) := by
  induction fuel generalizing w remaining segments with
  | zero => apply Stays.refl
  | succ fuel ih =>
    unfold deliverSegments
    dsimp only
    have hreq : w.Stays Q C (w.callHook handler
        (.inReq ⟨0, remaining, packet.frame, isoStatusFlags packet.status⟩)) :=
      stays_callIn hhandler (.inl ⟨_, rfl⟩)
    generalize w.callHook handler (.inReq ⟨0, remaining, packet.frame, isoStatusFlags packet.status⟩) = w'
      at hreq
    have hhandler' : w'.slot.handler = some handler := by rw [hreq.1.handler, hhandler]
    have hdone (request : RtBuffer)
        : w.Stays Q C (if handler.inDoneHook then w'.callHook handler (.inDone request) else w') := by
      split
      . exact hreq.trans (stays_callIn hhandler' (.inr ⟨_, rfl⟩))
      . exact hreq
    have hdone := hdone (segmentOf packet remaining (segments + 1) (hook segments))
    split
    . refine hdone.trans (ih ?_ _ _)
      rw [hdone.1.handler, hhandler]
    . exact hdone

theorem stays_deliverPackets (w : RtWorld) (hook : Nat → Nat → RtBuffer) (index : Nat)
    (packets : List (UInt32 × PacketResult))
    : w.Stays Q C (w.deliverPackets hook index packets) := by
  induction packets generalizing w index with
  | nil => apply Stays.refl
  | cons packet packets ih =>
    obtain ⟨source, packet⟩ := packet
    unfold deliverPackets
    refine Stays.trans ?_ (ih _ _)
    unfold rtDeliverInPacket
    split
    . apply Stays.refl
    . next handler hhandler =>
      split
      . apply stays_deliverSegments hhandler
      . split
        . exact stays_callIn hhandler (.inr ⟨_, rfl⟩)
        . apply Stays.refl

theorem Closed.reapRtIsoBatch (h : w.Closed Q C) (input : ReapInput)
    : (w.reapRtIsoBatch input).2.Closed Q C := by
  have h := (stays_elapse w).closed h
  unfold RtWorld.reapRtIsoBatch
  dsimp only
  generalize elapse w = w at h
  split
  . exact h
  . split
    . exact h
    . next batchId packets hparsed =>
      split
      . exact h
      . next i hfind =>
        split
        . exact h
        . split
          . exact h
          . next lifecycle hcomplete =>
            have hstays := stays_setLifecycle (Q := Q) (C := C) (keeps_complete hcomplete)
            have h := hstays.closed h
            show Closed Q C ((if (w.setLifecycle lifecycle).slot.directionIn = true then _ else _ : RtWorld).setBatch
              i .zero)
            split
            . next hin =>
              have hdeliver := stays_deliverPackets (Q := Q) (C := C) (w.setLifecycle lifecycle) input.hook 0
                packets
              have hclosed := (hdeliver.closed h).closeBatch i none 0
              unfold RtWorld.closeBatch at hclosed
              rw [hdeliver.1.directionIn, if_pos hin] at hclosed
              exact hclosed
            . next hout =>
              have hclosed := h.closeBatch i (some (packets.map Prod.snd)) 0
              unfold RtWorld.closeBatch at hclosed
              rw [if_neg hout] at hclosed
              exact hclosed

theorem isoPlanRealtime_le {encodedMaxPacket interval : UInt16} {highSpeed : Bool} {capacity duration : Nat}
    {lengths : List UInt16}
    (h : isoPlanRealtime encodedMaxPacket interval highSpeed capacity = some (lengths, duration))
    : ∀ length ∈ lengths, length ≤ isoPayloadSize encodedMaxPacket := by
  unfold isoPlanRealtime at h
  dsimp only at h
  generalize interval.toNat * (if highSpeed then 1 else 8) = step at h
  split at h
  . contradiction
  . split at h
    . contradiction
    . split at h
      . contradiction
      . simp only [Option.some.injEq, Prod.mk.injEq] at h
        intro length hlength
        rw [← h.1] at hlength
        rw [List.eq_of_mem_replicate hlength]
        apply UInt16.le_refl

theorem Closed.addRtIsoHandler (h : w.Closed Q C) (request : AddRequest) (hQ : Q request.handler)
    : (w.addRtIsoHandler request).Closed Q C := by
  unfold RtWorld.addRtIsoHandler
  split
  . exact h
  . next hchecks =>
    have hfree : w.slot.lifecycle.state = .free := by
      simp only [not_or, not_not] at hchecks
      exact hchecks.2.2.2.2.2
    have hidle : w.Idle := by
      intro i
      apply h.empty
      by_contra hi
      have hactive := h.idle i hi
      unfold Active at hactive
      simp [hfree] at hactive
    obtain ⟨hzero, -⟩ := h.zero hidle
    split
    . exact hzero
    . split
      . exact hzero
      . next packetLengths duration hplan =>
        dsimp only
        split
        . exact hzero
        . next lifecycle hadd =>
          split
          . exact hzero
          . next hcount =>
            refine ⟨?_, ?_, ?_, ?_, ?_, ?_, ?_, ?_, h.peaks, ?_, ?_, ?_, h.allowed_calls, h.once⟩
            . exact hzero.account
            . intro handler packet hcall hpos
              have howner := hzero.owner handler packet hcall hpos
              simp [RtSlot.zero] at howner
            . exact hzero.fresh
            . intro i _
              rfl
            . intro i hi
              exact absurd rfl hi
            . intro _ i
              rfl
            . exact isoPlanRealtime_le hplan
            . intro handler _ _ _
              have hnone : total RtBatch.prefetched RtSlot.zero.batches = 0 := total_eq_zero (fun _ => rfl)
              show total RtBatch.prefetched RtSlot.zero.batches ≤ _
              omega
            . intro _
              cases hadd
              show RtState.added ≠ .free
              decide
            . intro hremoving
              cases hadd
              contradiction
            . intro handler hhandler
              cases hhandler
              exact hQ

theorem Closed.detach (h : w.Closed Q C) (hidle : w.Idle)
    : Closed Q C { w with slot := { w.slot with handler := none } } := by
  refine ⟨h.account, ?_, h.fresh, h.empty, h.idle, h.inputs, h.lengths, ?_, h.peaks, ?_, ?_, ?_,
    h.allowed_calls, h.once⟩
  . intro handler packet hcall hpos
    have hnone : total (RtBatch.holds packet) w.slot.batches = 0 := by
      apply total_eq_zero
      intro i
      rw [hidle i]
      rfl
    simp [hnone] at hpos
  . intro handler hhandler
    contradiction
  . intro hhandler
    contradiction
  . intro _
    rfl
  . intro handler hhandler
    contradiction

theorem Closed.requestRemove (h : w.Closed Q C) (hnone : w.slot.handler = none) {lifecycle : RtLifecycle}
    (hremove : w.slot.lifecycle.requestRemove = some lifecycle)
    : (w.setLifecycle lifecycle).Closed Q C := by
  apply Books.setLifecycle h
  . intro hactive
    unfold RtLifecycle.requestRemove at hremove
    unfold Active at hactive
    split at hremove
    . next hstate =>
      cases hactive with
      | inl hactive => simp [hactive] at hstate
      | inr hactive => simp [hactive] at hstate
    . cases hremove
      exact .inr rfl
  . intro hhandler
    contradiction
  . intro _
    exact hnone

theorem Closed.finishRemove (h : w.Closed Q C) (hidle : w.Idle) (hnone : w.slot.handler = none)
    (retireNow : Bool) (status : UInt16)
    : (w.finishRemove retireNow status).Closed Q C := by
  have hstays := (stays_setRequested (Q := Q) (C := C) w false false).trans (stays_elapse _)
  have h := hstays.closed h
  have hidle := hstays.idle hidle
  rw [← hstays.1.handler] at hnone
  unfold RtWorld.finishRemove
  dsimp only
  split
  . exact h
  . next lifecycle hremove =>
    have h := h.requestRemove hnone hremove
    split
    . exact (h.zero hidle).1
    . split
      . exact (h.stopRtIsoSlot status).1
      . exact h

/-- From now on only hooks of the handlers with `R` are called, if that holds of the current one. -/
theorem Closed.rebase (h : w.Closed Q C) {R : RtHandler → Prop}
    (hhandler : ∀ handler, w.slot.handler = some handler → R handler)
    : w.Closed R w.calls :=
  ⟨h.1, h.2, h.3, h.4, h.5, h.6, h.7, h.8, h.9, h.10, h.11, hhandler, ⟨[], by simp, by simp⟩, h.14⟩

theorem Closed.removeRtIsoHandler (h : w.Closed Q C) (handler : UInt32) (retireNow : Bool) (status : UInt16)
    : (w.removeRtIsoHandler handler retireNow status).Closed Q C
        ∧ ∃ calls, (w.removeRtIsoHandler handler retireNow status).Closed
            (fun handler' => handler'.address ≠ handler) calls := by
  have h := (stays_elapse w).closed h
  unfold RtWorld.removeRtIsoHandler
  dsimp only
  generalize elapse w = w at h
  split
  . obtain ⟨hclosed, hidle⟩ := h.rtCancelContexts RtFlag.packetError
    have hstays := (stays_elapse (Q := Q) (C := C) (w.rtCancelContexts RtFlag.packetError)).trans
      (stays_setOutRequest _ .zero)
    have hclosed := (hstays.closed hclosed).detach (hstays.idle hidle)
    have hidle := hstays.idle hidle
    have hrebased := hclosed.rebase (R := fun handler' => handler'.address ≠ handler) (by
      intro handler' hhandler'
      contradiction)
    exact ⟨hclosed.finishRemove hidle rfl retireNow status, _,
      hrebased.finishRemove hidle rfl retireNow status⟩
  . next hfinds =>
    refine ⟨h, _, h.rebase ?_⟩
    intro handler' hhandler' haddress
    have hattached := h.attached (by simp [hhandler'])
    simp [finds, hhandler', haddress, hattached] at hfinds

theorem Closed.pollRounds (h : w.Closed Q C) (inputs : List RoundInput)
    : (w.pollRounds inputs).Closed Q C := by
  induction inputs generalizing w with
  | nil => exact h
  | cons input inputs ih =>
    have h := (stays_elapse w).closed h
    unfold RtWorld.pollRounds
    dsimp only
    generalize elapse w = w at h
    split
    . exact h
    . split
      . have h := (stays_setRequested w w.slot.startRequested false).closed h
        exact (h.stopRtIsoSlot input.stop).1
      . have hreap := h.reapRtIsoBatch input.reap
        split
        . have hfill := hreap.fillRtIsoPipeline false input.fill
          split
          . exact (hfill.stopRtIsoSlot input.stop).1
          . split
            . apply ih hfill
            . exact hfill
        . split
          . exact (hreap.stopRtIsoSlot input.stop).1
          . exact hreap

theorem Closed.pollRtIso (h : w.Closed Q C) (input : PollInput)
    : (w.pollRtIso input).Closed Q C := by
  have h := (stays_elapse w).closed h
  unfold RtWorld.pollRtIso
  dsimp only
  generalize elapse w = w at h
  have hrequested (startRequested stopRequested : Bool)
      : Closed Q C (elapse (w.setRequested startRequested stopRequested)) :=
    ((stays_setRequested w startRequested stopRequested).trans (stays_elapse _)).closed h
  split
  . have h := hrequested false false
    split
    . exact (h.stopRtIsoSlot input.stop).1
    . exact h
  . have h := hrequested false w.slot.stopRequested
    split
    . exact (h.stopRtIsoSlot input.stop).1
    . split
      . exact h
      . split
        . exact (h.stopRtIsoSlot input.stop).1
        . split
          . have hfill := h.fillRtIsoPipeline false input.fill
            split
            . exact (hfill.stopRtIsoSlot input.stop).1
            . exact hfill
          . exact h.pollRounds input.rounds

/-- The handlers that a step adds have `Q`. -/
def Adds (Q : RtHandler → Prop) (op : RtOp) : Prop :=
  match op with
  | .add request => Q request.handler
  | _ => True

theorem Closed.apply (h : w.Closed Q C) {op : RtOp} (hadds : Adds Q op)
    : (w.apply op).Closed Q C := by
  cases op with
  | command c => exact (stays_command w c).closed h
  | add request => exact h.addRtIsoHandler request hadds
  | fill honorAbort inputs => exact h.fillRtIsoPipeline honorAbort inputs
  | queue input => exact h.queueRtIsoBatch input
  | reap input => exact h.reapRtIsoBatch input
  | stopSlot status => exact (h.stopRtIsoSlot status).1
  | stopUnit status => exact h.stopRtIsoForUnit status
  | finishReset => exact h.finishResetRtIsoForUnit.1
  | remove handler retireNow status => exact (h.removeRtIsoHandler handler retireNow status).1
  | rollback handler add => exact h.rollbackAbortedIsoWork handler add
  | poll input => exact h.pollRtIso input

theorem Closed.run (h : w.Closed Q C) {steps : List Step} (hadds : ∀ s ∈ steps, Adds Q s.op)
    : (w.run steps).Closed Q C := by
  induction steps generalizing w with
  | nil => exact h
  | cons s steps ih =>
    have hgaps : Closed Q C { w with gaps := s.gaps } :=
      ⟨h.1, h.2, h.3, h.4, h.5, h.6, h.7, h.8, h.9, h.10, h.11, h.12, h.13, h.14⟩
    apply ih
    . exact hgaps.apply (hadds s List.mem_cons_self)
    . intro s' hs'
      exact hadds s' (List.mem_cons_of_mem _ hs')

/-- The packets that were requested from handlers with `P` are finished. -/
def Settled (P : RtHandler → Prop) (w : RtWorld) : Prop :=
  ∀ handler packet, (handler, .outReq packet) ∈ w.calls → handler.outDoneHook = true → P handler →
    w.doneCount packet = 1

theorem Closed.settled (h : w.Closed Q C) (hidle : w.Idle)
    : w.Settled fun _ => True := by
  intro handler packet hcall hdone _
  have haccount := h.account handler packet hcall hdone
  have hnone : total (RtBatch.holds packet) w.slot.batches = 0 := by
    apply total_eq_zero
    intro i
    rw [hidle i]
    rfl
  rw [hnone] at haccount
  exact haccount

end RtWorld

end ZZUsb
