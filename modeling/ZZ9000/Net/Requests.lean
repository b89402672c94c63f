import ZZ9000.Concurrency.Triple
import ZZ9000.Net.Rx
import ZZ9000.Net.RxCopy
import ZZ9000.Net.TxBounds

/-!
This module contains the life of the IORequests of the network device: `DevBeginIO`, `DevAbortIO`
and `frame_proc` over the list of readers. Tasks may interrupt each other wherever a semaphore is not
held.
-/

namespace ZZNet

open Concurrency
open Concurrency.Coroutine

inductive Sana2Command where
  | read
  | write
  | multicast
  | broadcast
  | addMulticastAddress
  | delMulticastAddress
  | readOrphan
  | configInterface
  | online
  | offline
  | getStationAddress
  | deviceQuery
  | getGlobalStats
  | getSpecialStats
  | other
deriving DecidableEq, Repr

namespace IoErr

def noError : Int := 0
def noResources : Int := 1
def badArgument : Int := 3
def badAddress : Int := 5
def notSupported : Int := 8
def software : Int := 9
def aborted : Int := -2

end IoErr

namespace WireErr

def genericError : UInt32 := 0
def buffError : UInt32 := 6
def badMulticast : UInt32 := 10
def multicastFull : UInt32 := 11

end WireErr

/-- `struct IOSana2Req`. `data` is what the callback of the opener was given for the request. -/
structure IOSana2Req where
  command : Sana2Command
  quick : Bool
  raw : Bool
  cast : Option RxFlag
  bufferManagement : Bool
  packetType : UInt32
  dataLength : UInt32
  srcAddr : McastAddr
  dstAddr : McastAddr
  error : Int
  wireError : UInt32
  data : List UInt8

/-- `global_stats` and `rxv_empty_slot` -/
structure NetStats where
  packetsReceived : UInt32
  packetsSent : UInt32
  badData : UInt32
  overruns : UInt32
  unknownTypesReceived : UInt32
  emptySlot : UInt32

inductive NetTask where
  | client (n : Nat)
  | framer
deriving DecidableEq

/-- The registers and the RX window of the card. -/
structure NetCard (ε : Type) where
  rxIo : RxIo ε
  accept : UInt16 → ε → ε
  memory : ε → Nat → UInt8
  mcastIo : McastIo ε

/--
The state of the device. `hand` says which task works on a request, and the last fields count what
has happened to it.
-/
structure NetDevice (ι ε : Type) where
  request : ι → IOSana2Req
  readList : List ι
  mcast : Mcast
  rx : RxState
  tx : TxState
  stats : NetStats
  isOnline : Bool
  card : ε
  hand : ι → Option NetTask
  begun : ι → Nat
  replied : ι → Nat
  returned : ι → Nat
  orphaned : ι → Nat

/-- What the callbacks of the opener and the TX registers answer. -/
structure NetAnswer where
  copies : Bool
  txStatus : UInt16
  txReads : Nat → UInt16

inductive NetMark (ι : Type) where
  | reply (i : ι)
  | returns (i : ι)
  | aborts (i : ι)
  | refuses (i : ι)

/-- Where a task can be interrupted: at the start of a request, with a reader that it has detached
or without a request. -/
inductive NetWindow (ι : Type) where
  | begins (i : ι) (command : Sana2Command)
  | holds (i : ι)
  | free

abbrev NetM (ι ε : Type) := Coroutine (NetDevice ι ε) (NetMark ι) (NetWindow ι) NetAnswer

variable {ι ε : Type} [DecidableEq ι]

namespace NetDevice

def setRequest (s : NetDevice ι ε) (i : ι) (req : IOSana2Req) : NetDevice ι ε :=
  { s with request := Function.update s.request i req }

def setHand (s : NetDevice ι ε) (i : ι) (t : Option NetTask) : NetDevice ι ε :=
  { s with hand := Function.update s.hand i t }

/-- Nobody but the client has the request. -/
def isClients (s : NetDevice ι ε) (i : ι) : Bool := s.begun i = s.replied i + s.returned i

def begin (s : NetDevice ι ε) (t : NetTask) (i : ι) (req : IOSana2Req) : NetDevice ι ε :=
  let req := { req with error := IoErr.noError, wireError := WireErr.genericError }
  let s := (s.setRequest i req).setHand i (some t)
  { s with begun := Function.update s.begun i (s.begun i + 1) }

/-- `AddHead` of a read. -/
def addHead (s : NetDevice ι ε) (i : ι) : NetDevice ι ε :=
  let s := (s.setRequest i { s.request i with quick := false }).setHand i none
  { s with readList := i :: s.readList }

def orphan (s : NetDevice ι ε) (i : ι) : NetDevice ι ε :=
  let s := (s.setRequest i { s.request i with quick := false }).setHand i none
  { s with orphaned := Function.update s.orphaned i (s.orphaned i + 1) }

def remove (s : NetDevice ι ε) (t : NetTask) (i : ι) : NetDevice ι ε :=
  { s.setHand i (some t) with readList := s.readList.erase i }

def replyMsg (s : NetDevice ι ε) (i : ι) : NetDevice ι ε :=
  { s.setHand i none with replied := Function.update s.replied i (s.replied i + 1) }

def returnQuick (s : NetDevice ι ε) (i : ι) : NetDevice ι ε :=
  { s.setHand i none with returned := Function.update s.returned i (s.returned i + 1) }

def fail (s : NetDevice ι ε) (i : ι) (error : Int) (wireError : UInt32) : NetDevice ι ε :=
  s.setRequest i { s.request i with error, wireError }

end NetDevice

section Begin

variable (card : NetCard ε) (flags : TxFlags)

/-- `ReplyMsg` -/
def replyMsg (i : ι) : NetM ι ε Unit := do
  note (.reply i)
  modify (·.replyMsg i)

def devTermIo (i : ι) : NetM ι ε Unit := do
  if ((← read).request i).quick then
    note (.returns i)
    modify (·.returnQuick i)
  else
    replyMsg i

def txCommand (command : Sana2Command) : TxCommand :=
  match command with
  | .multicast => .multicast
  | .broadcast => .broadcast
  | _ => .write

def readTxStatus (reads : Nat → UInt16) : UInt16 × (Nat → UInt16) :=
  (reads 0, fun n => reads (n + 1))

/-- The cases of `DevBeginIO` that send. -/
def NetDevice.send (s : NetDevice ι ε) (i : ι) (answer : NetAnswer) : NetDevice ι ε :=
  let req := s.request i
  let command := txCommand req.command
  let dstAddr := if command = .broadcast then fun _ => 0xff else req.dstAddr
  let s := s.setRequest i { req with dstAddr }
  let tx := { raw := req.raw, dataLength := req.dataLength, copies := answer.copies }
  match (devBeginWrite readTxStatus flags s.tx command req.dstAddr tx answer.txStatus
    answer.txReads).1 with
  | none => s.fail i IoErr.badAddress WireErr.badMulticast
  | some effect =>
    let s := { s with tx := effect.state }
    if effect.rc ≠ 0 then
      s.fail i IoErr.noResources WireErr.genericError
    else
      let stats := { s.stats with packetsSent := s.stats.packetsSent + 1 }
      { s.fail i IoErr.noError WireErr.genericError with stats }

/-- The cases of `DevBeginIO` that join and leave a multicast group. -/
def NetDevice.changeMulticast (s : NetDevice ι ε) (i : ι) (add : Bool) : NetDevice ι ε :=
  let req := s.request i
  if !mcastSendOk req.srcAddr then
    s.fail i IoErr.badAddress WireErr.badMulticast
  else
    let outcome := s.mcast.update card.mcastIo s.card req.srcAddr add
    let s := { s with mcast := outcome.mcast, card := outcome.window }
    match outcome.ret with
    | none => s.setRequest i { req with wireError := 0 }
    | some err =>
      let wireError :=
        match err with
        | .noResources => WireErr.multicastFull
        | .badState => WireErr.badMulticast
        | _ => WireErr.genericError
      s.fail i err.code wireError

/-- The address that a `S2_GETSTATIONADDRESS` is answered with. -/
def NetDevice.stationAddress (s : NetDevice ι ε) (i : ι) (mac : McastAddr) : NetDevice ι ε :=
  s.setRequest i { s.request i with srcAddr := mac, dstAddr := mac }

def devBeginIo (mac : McastAddr) (t : NetTask) (i : ι) (req : IOSana2Req) : NetM ι ε Unit := do
  modify (·.begin t i req)
  pause (.begins i req.command)
  match req.command with
  | .read =>
    if !req.bufferManagement then
      modify (·.fail i IoErr.badArgument WireErr.buffError)
      devTermIo i
    else
      modify (·.addHead i)
  | .readOrphan =>
    if !req.bufferManagement then
      modify (·.fail i IoErr.badArgument WireErr.buffError)
      devTermIo i
    else
      -- no list takes the request
      modify (·.orphan i)
  | .write | .multicast | .broadcast =>
    let answer ← answer
    modify (·.send flags i answer)
    devTermIo i
  | .addMulticastAddress =>
    modify (·.changeMulticast card i true)
    devTermIo i
  | .delMulticastAddress =>
    modify (·.changeMulticast card i false)
    devTermIo i
  | .configInterface | .online =>
    modify ({ · with isOnline := true })
    devTermIo i
  | .offline =>
    modify ({ · with isOnline := false })
    devTermIo i
  | .getStationAddress =>
    modify (·.stationAddress i mac)
    devTermIo i
  | .deviceQuery | .getGlobalStats | .getSpecialStats => devTermIo i
  | .other =>
    modify (·.fail i IoErr.notSupported WireErr.genericError)
    devTermIo i

end Begin

def devAbortIo (t : NetTask) (i : ι) : NetM ι ε Unit := do
  if (← read).readList.contains i then
    note (.aborts i)
    modify (·.remove t i)
    pause (.holds i)
    modify (·.fail i IoErr.aborted 0)
    replyMsg i
  else
    note (.refuses i)

section Framer

variable (card : NetCard ε)

def bytesAt (memory : Nat → UInt8) (a n : Nat) : List UInt8 :=
  (List.range n).map fun k => memory (a + k)

def addrAt (memory : Nat → UInt8) (a : Nat) : McastAddr := fun k => memory (a + k)

def typeAt (memory : Nat → UInt8) (a : Nat) : UInt16 :=
  ((memory a).toUInt16 <<< 8) ||| (memory (a + 1)).toUInt16

/-- `read_frame`, with the frame at the address `frame` of the RX window. -/
def readFrameInto (memory : Nat → UInt8) (req : IOSana2Req) (frame : Nat) (sz tp : UInt16)
    (copies : Bool)
    : Bool × IOSana2Req :=
  match readFrame req.raw frame sz with
  | none => (false, { req with error := IoErr.software, wireError := WireErr.buffError })
  | some (source, size) =>
    let req := { req with quick := false, dataLength := size }
    let req :=
      if !copies then
        { req with error := IoErr.software, wireError := WireErr.buffError }
      else
        let data := bytesAt memory source size.toNat
        { req with error := IoErr.noError, wireError := 0, data }
    let dstAddr := addrAt memory (frame + 4)
    (copies, { req with
      dstAddr
      srcAddr := addrAt memory (frame + 10)
      cast := mcastRxFlags dstAddr
      packetType := tp.toUInt32 })

namespace NetDevice

def countUnknown (s : NetDevice ι ε) : NetDevice ι ε :=
  let stats := { s.stats with unknownTypesReceived := s.stats.unknownTypesReceived + 1 }
  { s with stats }

def countReceived (s : NetDevice ι ε) : NetDevice ι ε :=
  let stats := { s.stats with packetsReceived := s.stats.packetsReceived + 1 }
  { s with stats }

/-- `zznet_rx_next`, and what `frame_proc` counts of its decision. -/
def next (s : NetDevice ι ε) : RxDecision × NetDevice ι ε :=
  let (d, rx, state) := rxNext s.rx card.rxIo s.card
  let stats := { s.stats with
    emptySlot := s.stats.emptySlot + if d.empty then 1 else 0
    badData := s.stats.badData + if d.badData then 1 else 0
    overruns := s.stats.overruns + d.overruns.toUInt32 }
  (d, { s with rx, stats, card := state })

/-- The reader that a frame of the type is for. -/
def matching (s : NetDevice ι ε) (tp : UInt16) : Option ι :=
  s.readList.find? fun i => (s.request i).packetType == tp.toUInt32

def deliver (s : NetDevice ι ε) (i : ι) (frame : Nat) (sz tp : UInt16) (copies : Bool)
    : NetDevice ι ε :=
  let (ok, req) := readFrameInto (card.memory s.card) (s.request i) frame sz tp copies
  let s := s.setRequest i req
  if ok then s.countReceived else s.countUnknown

def rxAccept (s : NetDevice ι ε) (serial : UInt16) : NetDevice ι ε :=
  { s with card := card.accept serial s.card }

end NetDevice

def nextDecision : NetM ι ε RxDecision := do
  let (d, s) := (← read).next card
  modify fun _ => s
  return d

/-- Detach the reader of a frame from the list. -/
def detach (tp : UInt16) : NetM ι ε (Option ι) := do
  match (← read).matching tp with
  | none => return none
  | some i =>
    modify (·.remove .framer i)
    return some i

/-- A frame that is for this card. -/
def deliverFrame (frame : Nat) (sz tp : UInt16) : NetM ι ε Unit := do
  match ← detach tp with
  | none => modify (·.countUnknown)
  | some i =>
    pause (.holds i)
    let answer ← answer
    modify (·.deliver card i frame sz tp answer.copies)
    replyMsg i

/-- What becomes of a frame with the RX plan of its destination. -/
def takeFrame (plan : RxPlan) (frame : Nat) (sz tp : UInt16) : NetM ι ε Unit :=
  if plan.selectReader then
    deliverFrame card frame sz tp
  else if plan.countUnknown then
    modify (·.countUnknown)
  else
    pure ()

/-- One round of the loop of `frame_proc`. -/
def framerRound : NetM ι ε Unit := do
  let d ← nextDecision card
  match d.action with
  | .wait => return
  | .drop => modify (·.rxAccept card d.serial)
  | .deliver =>
    let frame := if d.offset2 then 2 else 0
    let s ← read
    let memory := card.memory s.card
    let tp := typeAt memory (frame + 16)
    let plan := Mcast.rxPlan s.mcast (addrAt memory (frame + 4))
    pause .free
    takeFrame card plan frame d.size tp
    modify (·.rxAccept card d.serial)

end Framer

inductive NetCall (ι ε : Type) where
  | beginIo (i : ι) (req : IOSana2Req)
  | abortIo (i : ι)
  | round
  | cardEvent (f : ε → ε)

def NetCall.body (card : NetCard ε) (flags : TxFlags) (mac : McastAddr) (t : NetTask)
    (c : NetCall ι ε)
    : NetM ι ε Unit :=
  match c with
  | .beginIo i req => devBeginIo card flags mac t i req
  | .abortIo i => devAbortIo t i
  | .round => framerRound card
  | .cardEvent f => modify fun s => { s with card := f s.card }

/-- A client uses a request again only when it has it back. -/
def NetCall.allowed (t : NetTask) (c : NetCall ι ε) (s : NetDevice ι ε) : Bool :=
  match t, c with
  | .client _, .beginIo i _ => s.isClients i
  | .client _, .abortIo _ => true
  | .client _, .cardEvent _ => true
  | .framer, .round => true
  | _, _ => false

def netPool (ι : Type) [DecidableEq ι] (card : NetCard ε) (flags : TxFlags) (mac : McastAddr)
    : Pool NetTask (NetCall ι ε) (NetDevice ι ε) (NetMark ι) (NetWindow ι) NetAnswer where
  body := NetCall.body card flags mac
  canCall := NetCall.allowed
  canResume := fun _ _ _ => true

/-- The device after its first open. -/
def NetDevice.opened (request : ι → IOSana2Req) (fwVersion : UInt16) (tx : TxState) (state : ε)
    : NetDevice ι ε where
  request
  readList := []
  mcast := .zero
  rx := rxReset fwVersion
  tx
  stats := ⟨0, 0, 0, 0, 0, 0⟩
  isOnline := false
  card := state
  hand := fun _ => none
  begun := fun _ => 0
  replied := fun _ => 0
  returned := fun _ => 0
  orphaned := fun _ => 0

end ZZNet
