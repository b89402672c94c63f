import Mathlib.Data.Finset.Insert
import Mathlib.Data.Fintype.Pi
import Mathlib.Logic.Function.Basic

/-!
This module contains the multicast membership table of `mcast.c` and the hash register of the
firmware that it programs.
-/

namespace ZZNet

abbrev McastAddr := Fin 6 → UInt8

def mcastMax : Nat := 32

namespace EthConfig

def hashSet : UInt16 := 0x8000
def hashClear : UInt16 := 0x4000
def hashReset : UInt16 := 0x2000

end EthConfig

inductive S2Err where
  | noResources
  | badState
  | badAddress
  | notSupported
  deriving DecidableEq, Repr

def S2Err.code : S2Err → Nat
  | .noResources => 1
  | .badState => 4
  | .badAddress => 5
  | .notSupported => 8

inductive RxFlag where
  | mcast
  | bcast
  deriving DecidableEq, Repr

/-- The eight pieces of six bits that the hash is made of. -/
def mcastHashPieces (a : McastAddr) : List UInt16 :=
  let a (i : Fin 6) : UInt16 := (a i).toUInt16
  [a 0 &&& (0x3f : UInt16),
   (a 0 >>> 6) ||| ((a 1 &&& (0x0f : UInt16)) <<< 2),
   (a 1 >>> 4) ||| ((a 2 &&& (0x03 : UInt16)) <<< 4),
   a 2 >>> 2,
   a 3 &&& (0x3f : UInt16),
   (a 3 >>> 6) ||| ((a 4 &&& (0x0f : UInt16)) <<< 2),
   (a 4 >>> 4) ||| ((a 5 &&& (0x03 : UInt16)) <<< 4),
   a 5 >>> 2]

def mcastHash (a : McastAddr) : UInt16 := (mcastHashPieces a).foldl (fun hash piece => hash ^^^ piece) 0

def mcastSendOk (dst : McastAddr) : Bool := (dst 0 &&& 1) != 0

def mcastIsBroadcast (dst : McastAddr) : Bool := decide (∀ i, dst i = 0xff)

def mcastRxFlags (dst : McastAddr) : Option RxFlag :=
  if mcastIsBroadcast dst then
    some .bcast
  else if (dst 0 &&& 1) != 0 then
    some .mcast
  else
    none

def mcastMembershipRequired (dst : McastAddr) : Bool :=
  if (dst 0 &&& 1) == 0 then
    false
  else
    !mcastIsBroadcast dst

structure McastEntry where
  addr : McastAddr
  refs : UInt16

def McastEntry.zero : McastEntry := ⟨fun _ => 0, 0⟩

/-- `struct zznet_mcast` -/
structure Mcast where
  entry : Fin mcastMax → McastEntry
  count : UInt16

/-- `struct zznet_mcast_io`, with the state of the register window that the two functions act on. -/
structure McastIo (ε : Type) where
  capable : ε → Bool
  command : UInt16 → ε → ε

structure RxPlan where
  selectReader : Bool
  countUnknown : Bool
  deriving DecidableEq, Repr

structure McastOutcome (ε : Type) where
  ret : Option S2Err
  mcast : Mcast
  window : ε

namespace Mcast

def isMember (m : Mcast) (dst : McastAddr) : Bool :=
  (List.finRange mcastMax).any fun i => (m.entry i).refs != 0 && (m.entry i).addr = dst

def rxPlan (m : Option Mcast) (dst : McastAddr) : RxPlan :=
  if !mcastMembershipRequired dst then
    ⟨true, false⟩
  else
    match m with
    | none => ⟨false, false⟩
    | some m => ⟨m.isMember dst, false⟩

def bucketUsed (m : Mcast) (bucket : UInt16) : Bool :=
  (List.finRange mcastMax).any fun i =>
    (m.entry i).refs != 0 && mcastHash (m.entry i).addr = bucket

/-- The loop that looks for the first free entry and for the entry of `addr`. -/
def scan (m : Mcast) (addr : McastAddr) (indices : List (Fin mcastMax))
    (freeEntry : Option (Fin mcastMax)) : Option (Fin mcastMax) × Option (Fin mcastMax) :=
  match indices with
  | [] => (freeEntry, none)
  | i :: indices =>
    if (m.entry i).refs == 0 then
      m.scan addr indices (freeEntry <|> some i)
    else if (m.entry i).addr = addr then
      (freeEntry, some i)
    else
      m.scan addr indices freeEntry

def setEntry (m : Mcast) (i : Fin mcastMax) (entry : McastEntry) : Mcast :=
  { m with entry := Function.update m.entry i entry }

variable {ε : Type}

def join (m : Mcast) (io : McastIo ε) (window : ε) (addr : McastAddr)
    (freeEntry slot : Option (Fin mcastMax)) : McastOutcome ε :=
  match slot with
  | some i =>
    if (m.entry i).refs == 0xffff then
      ⟨some .noResources, m, window⟩
    else
      ⟨none, m.setEntry i { m.entry i with refs := (m.entry i).refs + 1 }, window⟩
  | none =>
    match freeEntry with
    | none => ⟨some .noResources, m, window⟩
    | some i =>
      if m.count == 0 && !io.capable window then
        ⟨some .notSupported, m, window⟩
      else
        let bucket := mcastHash addr
        let bucketUsed := m.bucketUsed bucket
        let m := m.setEntry i ⟨addr, 1⟩
        let m := { m with count := m.count + 1 }
        if bucketUsed then
          ⟨none, m, window⟩
        else
          ⟨none, m, io.command (EthConfig.hashSet ||| bucket) window⟩

def leave (m : Mcast) (io : McastIo ε) (window : ε) (slot : Option (Fin mcastMax))
    : McastOutcome ε :=
  match slot with
  | none => ⟨some .badState, m, window⟩
  | some i =>
    let refs := (m.entry i).refs - 1
    if refs == 0 then
      let bucket := mcastHash (m.entry i).addr
      let m := m.setEntry i McastEntry.zero
      let m := { m with count := m.count - 1 }
      if m.bucketUsed bucket then
        ⟨none, m, window⟩
      else
        ⟨none, m, io.command (EthConfig.hashClear ||| bucket) window⟩
    else
      ⟨none, m.setEntry i { m.entry i with refs }, window⟩

def update (m : Mcast) (io : McastIo ε) (window : ε) (addr : McastAddr) (add : Bool)
    : McastOutcome ε :=
  let (freeEntry, slot) := m.scan addr (List.finRange mcastMax) none
  if add then
    m.join io window addr freeEntry slot
  else
    m.leave io window slot

def zero : Mcast := ⟨fun _ => McastEntry.zero, 0⟩

def reset (io : McastIo ε) (window : ε) : McastOutcome ε :=
  if io.capable window then
    ⟨none, zero, io.command EthConfig.hashReset window⟩
  else
    ⟨none, zero, window⟩

end Mcast

/-- The hash bits of a firmware that has the capability and applies every command. -/
def hashRegister : McastIo (Finset UInt16) where
  capable := fun _ => true
  command := fun c bits =>
    if c &&& EthConfig.hashSet != 0 then
      insert (c &&& 0x3f) bits
    else if c &&& EthConfig.hashClear != 0 then
      bits.erase (c &&& 0x3f)
    else if c &&& EthConfig.hashReset != 0 then
      ∅
    else
      bits

inductive McastOp where
  | join (addr : McastAddr)
  | leave (addr : McastAddr)
  | reset
  deriving DecidableEq

structure McastState (ε : Type) where
  mcast : Mcast
  window : ε

def McastOp.apply {ε : Type} (io : McastIo ε) (op : McastOp) (s : McastState ε) : McastOutcome ε :=
  match op with
  | .join addr => s.mcast.update io s.window addr true
  | .leave addr => s.mcast.update io s.window addr false
  | .reset => Mcast.reset io s.window

/-- The successful joins of an address minus its successful leaves, since the last reset. -/
def McastOp.balance (op : McastOp) (ret : Option S2Err) (addr : McastAddr) (refs : Int) : Int :=
  match op, ret with
  | .reset, _ => 0
  | .join addr', none => if addr' = addr then refs + 1 else refs
  | .leave addr', none => if addr' = addr then refs - 1 else refs
  | _, some _ => refs

/-- A table and its register, with the balance of each address. -/
structure McastRun (ε : Type) where
  state : McastState ε
  balance : McastAddr → Int

namespace McastRun

variable {ε : Type}

def step (io : McastIo ε) (r : McastRun ε) (op : McastOp) : McastRun ε :=
  let outcome := op.apply io r.state
  ⟨⟨outcome.mcast, outcome.window⟩, fun addr => op.balance outcome.ret addr (r.balance addr)⟩

def run (io : McastIo ε) (r : McastRun ε) (ops : List McastOp) : McastRun ε := ops.foldl (step io) r

end McastRun

end ZZNet
