/-!
This module contains the RX slot classification of `rx.c` and the part of `frame_proc` that acts on
its decisions. The register reads are functions on a context, as in the source.
-/

namespace ZZNet

def ethRxStatusReady : UInt16 := 0x00ff
def rxStatusMinFw : UInt16 := 0x0201
def rxSerialSkipMinFw : UInt16 := 0x0208
def rxLenOffset2 : UInt16 := 0x8000
def rxMinFrame : UInt16 := 14
def rxMaxFrame : UInt16 := 1518

inductive RxAction where
  | wait
  | drop
  | deliver
  deriving DecidableEq, Repr

/-- `struct zznet_rx_io` -/
structure RxIo (σ : Type) where
  readHeader : σ → UInt32 × σ
  rxStatus : σ → UInt16 × σ

/-- `struct zznet_rx_state` -/
structure RxState where
  oldSerial : UInt16
  haveBaseline : Bool
  readyValid : Bool
  deriving DecidableEq, Repr

/-- `struct zznet_rx_decision` -/
structure RxDecision where
  action : RxAction
  empty : Bool
  badData : Bool
  overruns : UInt16
  size : UInt16
  serial : UInt16
  offset2 : Bool
  deriving DecidableEq, Repr

def rxReset (fwVersion : UInt16) : RxState where
  oldSerial := 0
  haveBaseline := false
  readyValid := decide (rxStatusMinFw ≤ fwVersion)

/-- The header longword with `size` in its upper and `serial` in its lower half. -/
def rxHeader (size serial : UInt16) : UInt32 := (size.toUInt32 <<< 16) ||| serial.toUInt32

def rxHeaderSplit {σ : Type} (read16 : Nat → σ → UInt16 × σ) (ctx : σ) : UInt32 × σ :=
  let (serial, ctx) := read16 2 ctx
  if serial = 0 then
    (0, ctx)
  else
    let (size, ctx) := read16 0 ctx
    (rxHeader size serial, ctx)

def rxSerialFirst (fwVersion : UInt16) : Bool := decide (rxSerialSkipMinFw ≤ fwVersion)

def RxDecision.ofHeader (header : UInt32) : RxDecision where
  action := .wait
  empty := false
  badData := false
  overruns := 0
  size := (header >>> 16).toUInt16 &&& ~~~rxLenOffset2
  serial := header.toUInt16
  offset2 := (header >>> 16).toUInt16 &&& rxLenOffset2 != 0

/-- The condition under which a header is no new frame. -/
def rxRepeated {σ : Type} (state : RxState) (io : RxIo σ) (header : UInt32) (serial : UInt16) (ctx : σ)
    : Bool × σ :=
  if serial ≠ state.oldSerial then
    (false, ctx)
  else if serial = 0 ∨ state.readyValid = false then
    (true, ctx)
  else
    let (status, ctx) := io.rxStatus ctx
    if status &&& ethRxStatusReady = 0 then
      (true, ctx)
    else
      let (reread, ctx) := io.readHeader ctx
      (reread != header, ctx)

/-- The `overruns` and the `badData` of a frame after the serial acked last. -/
def rxGap (state : RxState) (serial : UInt16) : UInt16 × Bool :=
  if state.haveBaseline then
    let delta := serial - state.oldSerial
    let delta := if serial < state.oldSerial then delta - 2 else delta
    if delta > 1 ∧ delta ≤ 128 then
      (delta - 1, false)
    else
      (0, decide (delta > 128))
  else
    (0, false)

/-- The decision about a header that is not the one acked last. -/
def rxFrame (state : RxState) (d : RxDecision) : RxDecision × RxState :=
  let state' := { state with haveBaseline := true, oldSerial := d.serial }
  if d.size < rxMinFrame ∨ d.size > rxMaxFrame then
    ({ d with action := .drop, badData := true }, state')
  else
    let (overruns, badData) := rxGap state d.serial
    ({ d with action := .deliver, overruns, badData }, state')

def rxNext {σ : Type} (state : RxState) (io : RxIo σ) (ctx : σ) : RxDecision × RxState × σ :=
  let (header, ctx) := io.readHeader ctx
  let d := RxDecision.ofHeader header
  if d.size = 0 ∧ d.serial = 0 then
    ({ d with empty := true }, state, ctx)
  else
    let (repeated, ctx) := rxRepeated state io header d.serial ctx
    if repeated then
      (d, state, ctx)
    else
      let (d, state) := rxFrame state d
      (d, state, ctx)

/-- The RX window of the card as a bus master sees it. -/
structure RxWindow (σ : Type) where
  read16 : Nat → σ → UInt16 × σ
  read32 : σ → UInt32 × σ
  status : σ → UInt16 × σ
  accept : UInt16 → σ → σ

/-- `zznet_rx_hw`: Zorro II reads the header serial first where the firmware allows it. -/
def RxWindow.hw {σ : Type} (window : RxWindow σ) (z2 : Bool) (fwVersion : UInt16) : RxIo σ where
  readHeader ctx :=
    if z2 && rxSerialFirst fwVersion then rxHeaderSplit window.read16 ctx else window.read32 ctx
  rxStatus := window.status

/-- One round of the loop of `frame_proc`. `deliver` is what happens to a frame before its ack. -/
def frameProc {σ : Type} (state : RxState) (io : RxIo σ) (deliver : RxDecision → σ → σ)
    (rxAccept : UInt16 → σ → σ) (ctx : σ) : RxDecision × RxState × σ :=
  let (d, state, ctx) := rxNext state io ctx
  match d.action with
  | .wait => (d, state, ctx)
  | .drop => (d, state, rxAccept d.serial ctx)
  | .deliver => (d, state, rxAccept d.serial (deliver d ctx))

end ZZNet
