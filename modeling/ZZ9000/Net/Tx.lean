import Mathlib.Data.UInt

/-!
This module contains the TX slot accounting of `tx.c` and the asynchronous send of `device.c` on top
of it. The reads of `ETH_TX_STATUS` are a function on a context, as in the source.
-/

namespace ZZNet

def txAsync : UInt16 := 0x8000
def txOffset2 : UInt16 := 0x4000
def txSlotShift : UInt16 := 11
def txLenMask : UInt16 := 0x07ff
def txSlots : UInt8 := 4
def txStatusPresent : UInt16 := 0x8000
def txStatusCount : UInt16 := 0x7fff
def txWaitReads : Nat := 100000

def hwEthHdrSize : UInt16 := 14
def hwEthMaxRaw : UInt32 := 1518

/-- `struct zznet_tx_state` -/
structure TxState where
  done : UInt16
  next : UInt8
  inuse : UInt8
  deriving DecidableEq, Repr

def txReset (status : UInt16) : Bool × TxState :=
  (status &&& txStatusPresent ≠ 0, { done := status &&& txStatusCount, next := 0, inuse := 0 })

def txReclaim (state : TxState) (status : UInt16) : UInt16 × TxState :=
  let now := status &&& txStatusCount
  let n := (now - state.done) &&& txStatusCount
  -- The baseline follows the count even with nothing outstanding.
  if state.inuse = 0 then
    (0, { state with done := now })
  else
    let n := if n > state.inuse.toUInt16 then state.inuse.toUInt16 else n
    (n, { state with done := now, inuse := (state.inuse.toUInt16 - n).toUInt8 })

/-- The slot of the next submission, `none` for the -1 of the source. -/
def txSlot (state : TxState) : Option UInt8 :=
  if state.inuse ≥ txSlots then none else some (state.next &&& (txSlots - 1))

def txWord (slot : UInt8) (len : UInt16) : UInt16 :=
  txAsync ||| (slot.toUInt16 <<< txSlotShift) ||| (len &&& txLenMask)

def txSubmitted (state : TxState) : TxState :=
  { state with next := state.next + 1, inuse := state.inuse + 1 }

def txDrain {σ : Type} (readStatus : σ → UInt16 × σ) (maxReads : Nat) (state : TxState) (ctx : σ)
    : Bool × TxState × σ :=
  match maxReads with
  | 0 => (state.inuse = 0, state, ctx)
  | maxReads + 1 =>
    if state.inuse ≠ 0 then
      let (status, ctx) := readStatus ctx
      txDrain readStatus maxReads (txReclaim state status).2 ctx
    else
      (true, state, ctx)

/-- What `write_frame` reads of an `IOSana2Req`. `copies` is what its CopyFromBuffer returns. -/
structure TxRequest where
  raw : Bool
  dataLength : UInt32
  copies : Bool

def TxRequest.size (req : TxRequest) : UInt16 :=
  if req.raw then req.dataLength.toUInt16 else req.dataLength.toUInt16 + hwEthHdrSize

/-- `write_frame` with a slot: its result, the word it writes to `ETH_TX`, and the state. -/
def writeFrame (state : TxState) (shift : Bool) (req : TxRequest) (slot : UInt8)
    : UInt32 × Option UInt16 × TxState :=
  if req.size = 0 then
    (0, none, state)
  else if req.copies = false then
    (1, none, state)
  else
    let word := txWord slot req.size
    let word := if shift then word ||| txOffset2 else word
    (0, some word, txSubmitted state)

/-- The loop of `write_frame_async` that waits for a slot. -/
def txWaitSlot {σ : Type} (readStatus : σ → UInt16 × σ) (reads : Nat) (state : TxState) (ctx : σ)
    : TxState × σ :=
  match reads with
  | 0 => (state, ctx)
  | reads + 1 =>
    match txSlot state with
    | some _ => (state, ctx)
    | none =>
      let (status, ctx) := readStatus ctx
      txWaitSlot readStatus reads (txReclaim state status).2 ctx

def writeFrameAsync {σ : Type} (readStatus : σ → UInt16 × σ) (state : TxState) (shift : Bool)
    (req : TxRequest) (ctx : σ)
    : UInt32 × Option UInt16 × TxState × σ :=
  if req.dataLength > hwEthMaxRaw then
    (1, none, state, ctx)
  else
    let (state, ctx) := txWaitSlot readStatus txWaitReads state ctx
    match txSlot state with
    | some slot =>
      let (rc, word, state) := writeFrame state shift req slot
      (rc, word, state, ctx)
    | none => (1, none, state, ctx)

end ZZNet
