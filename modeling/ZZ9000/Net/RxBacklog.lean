import ZZ9000.Concurrency.Gaps
import ZZ9000.Net.Rx

/-!
This module contains the backlog of the firmware that `rx.c` reads from, and the interleavings of
the rounds of `frame_proc` with arriving frames and restarts of the firmware.
-/

namespace ZZNet

open Concurrency.Interrupted (elapse)

abbrev RxFrameSize := { size : UInt16 // rxMinFrame ≤ size ∧ size ≤ rxMaxFrame }

/-- A frame in the backlog. `id` numbers the frames in the order of their arrival. -/
structure RxFrame where
  id : Nat
  size : RxFrameSize
  offset2 : Bool
  serial : UInt16
  deriving DecidableEq

def RxFrame.lengthWord (f : RxFrame) : UInt16 :=
  if f.offset2 then f.size.val ||| rxLenOffset2 else f.size.val

/-- Serials 0 and 1 are skipped. -/
def rxSerialAfter (serial : UInt16) : UInt16 := if serial + 1 < 2 then 2 else serial + 1

inductive RxEvent where
  | arrive (size : RxFrameSize) (offset2 : Bool)
  | restart
  deriving DecidableEq

/-- A frame that an ack took off the backlog. -/
structure RxTaken where
  frame : RxFrame
  presented : Option RxFrame
  restarted : Bool
  deriving DecidableEq

/--
The firmware, with a record of what happened to its frames. `presented` is the head of the backlog at
the last read of a header serial, `restarted` tells if a restart happened since, `gaps` holds the
events that happen before each of the next bus accesses.
-/
structure RxWorld where
  backlog : List RxFrame
  frameSerial : UInt16
  arrived : Nat
  flushed : List RxFrame
  presented : Option RxFrame
  restarted : Bool
  delivered : List (Option RxFrame)
  taken : List RxTaken
  gaps : List (List RxEvent)
  deriving DecidableEq

namespace RxWorld

def init : RxWorld where
  backlog := []
  frameSerial := 0
  arrived := 0
  flushed := []
  presented := none
  restarted := false
  delivered := []
  taken := []
  gaps := []

def event (w : RxWorld) (e : RxEvent) : RxWorld :=
  match e with
  | .arrive size offset2 =>
    { w with
      backlog := w.backlog ++ [⟨w.arrived, size, offset2, rxSerialAfter w.frameSerial⟩]
      frameSerial := rxSerialAfter w.frameSerial
      arrived := w.arrived + 1 }
  | .restart =>
    { w with
      backlog := []
      frameSerial := 0
      flushed := w.flushed ++ w.backlog
      restarted := true }

instance : Concurrency.Interrupted RxWorld RxEvent where
  gaps := RxWorld.gaps
  setGaps w gaps := { w with gaps }
  event := RxWorld.event
  gaps_setGaps _ _ := rfl
  gaps_event _ e := by cases e <;> rfl

def sizeWord (w : RxWorld) : UInt16 :=
  match w.backlog with
  | [] => 0
  | f :: _ => f.lengthWord

def serialWord (w : RxWorld) : UInt16 :=
  match w.backlog with
  | [] => 0
  | f :: _ => f.serial

def present (w : RxWorld) : RxWorld := { w with presented := w.backlog.head?, restarted := false }

def ready (w : RxWorld) : UInt16 :=
  if w.backlog.length > 0xff then 0xff else w.backlog.length.toUInt16

def accept (w : RxWorld) (serial : UInt16) : RxWorld :=
  match w.backlog with
  | [] => w
  | f :: backlog =>
    if serial = f.serial then
      { w with backlog, taken := w.taken ++ [⟨f, w.presented, w.restarted⟩] }
    else
      w

def window : RxWindow RxWorld where
  read16 off w :=
    if off = 0 then ((elapse w).sizeWord, elapse w) else ((elapse w).serialWord, (elapse w).present)
  read32 w := (rxHeader (elapse w).sizeWord (elapse w).serialWord, (elapse w).present)
  status w := ((elapse w).ready, elapse w)
  accept serial w := (elapse w).accept serial

def deliver (_ : RxDecision) (w : RxWorld) : RxWorld :=
  { w with delivered := w.delivered ++ [w.presented] }

end RxWorld

/-- `frame_proc` on a card, beside the firmware. -/
structure RxRun where
  state : RxState
  world : RxWorld
  deriving DecidableEq

inductive RxStep where
  | event (e : RxEvent)
  | framer (gaps : List (List RxEvent))
  deriving DecidableEq

namespace RxRun

variable (z2 : Bool) (fwVersion : UInt16)

def init : RxRun where
  state := rxReset fwVersion
  world := RxWorld.init

def framer (r : RxRun) (gaps : List (List RxEvent)) : RxDecision × RxRun :=
  let (d, state, world) :=
    frameProc r.state (RxWorld.window.hw z2 fwVersion) RxWorld.deliver RxWorld.window.accept
      { r.world with gaps }
  (d, ⟨state, world⟩)

def step (r : RxRun) (s : RxStep) : RxRun :=
  match s with
  | .event e => { r with world := r.world.event e }
  | .framer gaps => (r.framer z2 fwVersion gaps).2

def run (r : RxRun) (steps : List RxStep) : RxRun :=
  match steps with
  | [] => r
  | s :: steps => (r.step z2 fwVersion s).run steps

end RxRun

end ZZNet
