import ZZ9000.Vcap.Client

/-!
This module contains the framing editor of `align.c` and the live crop registers that it works on.
Before each access to a register the hardware may finish its request and other writers may stage
and commit theirs; the screen, the window and the texts on them are left out.
-/

namespace ZZTop

open Concurrency ZZVcap
open Concurrency.Coroutine (read modify answer note)

/-- A committed request. `own` says that the editor has made it. -/
structure LiveRequest where
  own : Bool
  raw : UInt32
  deriving DecidableEq, Repr

/--
The live crop hardware. `commits` counts the requests that were taken, `completed` is what it was
when the last one ended, and the sequences in the status are these modulo 256. `replaces` says what
becomes of a request that is committed while another one is on its way: it takes its place, or it is
refused.
-/
structure LiveCard where
  commits : Nat
  completed : Nat
  request : Option LiveRequest
  appliedRaw : UInt32
  effectiveCrop : UInt32
  stagedHi : UInt16
  stagedLo : UInt16
  standardValid : Bool
  ntsc : Bool
  rejected : Bool
  appliedValid : Bool
  replaces : Bool
  deriving DecidableEq, Repr

/-- What the hardware and the other writers do on their own. -/
inductive LiveEvent where
  | apply (effectiveCrop : UInt32)
  | reject
  | stageHi (value : UInt16)
  | stageLo (value : UInt16)
  | commit
  | signal (standardValid ntsc appliedValid replaces : Bool)
  deriving DecidableEq, Repr

namespace LiveCard

def statusHi (card : LiveCard) : UInt16 :=
  ((UInt8.ofNat card.commits).toUInt16 <<< 8) ||| (UInt8.ofNat card.completed).toUInt16

def statusLo (card : LiveCard) : UInt16 :=
  (if card.standardValid then 0x8000 else 0) ||| (if card.ntsc then 0x4000 else 0)
    ||| (if card.rejected then 0x2000 else 0) ||| (if card.appliedValid then 2 else 0)
    ||| (if card.request.isSome then 1 else 0)

def register (card : LiveCard) (offset : UInt32) : UInt16 :=
  if offset = vcapLiveStatus then card.statusHi
  else if offset = vcapLiveStatus + 2 then card.statusLo
  else if offset = vcapLiveAppliedRaw then (card.appliedRaw >>> 16).toUInt16
  else if offset = vcapLiveAppliedRaw + 2 then card.appliedRaw.toUInt16
  else if offset = vcapLiveEffectiveCrop then (card.effectiveCrop >>> 16).toUInt16
  else if offset = vcapLiveEffectiveCrop + 2 then card.effectiveCrop.toUInt16
  else 0

/-- A request is committed with what is staged. -/
def commit (own : Bool) (card : LiveCard) : LiveCard :=
  if card.request.isSome && !card.replaces then
    { card with rejected := true }
  else
    { card with
      commits := card.commits + 1
      request := some { own, raw := vcapWord card.stagedHi card.stagedLo } }

/-- The request on its way ends. -/
def complete (raw : UInt32 → UInt32) (card : LiveCard) : LiveCard :=
  match card.request with
  | none => card
  | some request =>
    { card with
      completed := card.commits
      request := none
      appliedRaw := raw request.raw }

def event (card : LiveCard) (e : LiveEvent) : LiveCard :=
  match e with
  | .apply effectiveCrop => { card.complete id with effectiveCrop }
  | .reject => { card.complete (fun _ => card.appliedRaw) with rejected := true }
  | .stageHi value => { card with stagedHi := value }
  | .stageLo value => { card with stagedLo := value }
  | .commit => card.commit false
  | .signal standardValid ntsc appliedValid replaces =>
    { card with standardValid, ntsc, appliedValid, replaces }

def write (card : LiveCard) (offset : UInt32) (value : UInt16) : LiveCard :=
  if offset = vcapLiveStagedRawHi then { card with stagedHi := value }
  else if offset = vcapLiveStagedRawLo then { card with stagedLo := value }
  else if offset = vcapLiveCommit ∧ value = vcapLiveCommitToken then card.commit true
  else card

end LiveCard

inductive AlignAction where
  | none
  | adjust
  | accept
  | restore
  deriving DecidableEq, Repr

/-- `struct align_state` -/
structure AlignState where
  entry : VcapSnapshot
  current : VcapSnapshot
  working : VcapWorking
  pendingWorking : VcapWorking
  pendingRaw : UInt32
  pendingSequence : UInt8
  pendingAction : AlignAction
  cancelRequested : Bool
  accepted : Bool
  done : Bool
  unknown : Bool
  deriving DecidableEq, Repr

/--
The editor and the hardware. `sinceEnter` are the controls that the hardware has applied since the
Enter that was taken last before the editor accepted, and `sinceEscape` those since the first
Escape.
-/
structure AlignWorld where
  card : LiveCard
  state : AlignState
  sinceEnter : Option (List UInt32)
  sinceEscape : Option (List UInt32)
  deriving DecidableEq, Repr

/-- Where the theorems look at a run. -/
inductive AlignMark where
  /-- Enter or Escape asks for the control that the editor has seen last. -/
  | shortcut (raw : UInt32)
  /-- The editor is going to commit a request. -/
  | committing
  /-- The editor has tried to take a snapshot since so many requests were taken. -/
  | bracket (commits : Nat)
  deriving DecidableEq, Repr

abbrev Align := Coroutine AlignWorld AlignMark Empty (List LiveEvent)

namespace AlignWorld

def event (w : AlignWorld) (e : LiveEvent) : AlignWorld :=
  let card := w.card.event e
  { w with
    card
    sinceEnter := w.sinceEnter.map (card.appliedRaw :: ·)
    sinceEscape := w.sinceEscape.map (card.appliedRaw :: ·) }

def events (w : AlignWorld) (es : List LiveEvent) : AlignWorld := es.foldl event w

def write (w : AlignWorld) (offset : UInt32) (value : UInt16) : AlignWorld :=
  { w with card := w.card.write offset value }

end AlignWorld

/-- What happens up to the next access. -/
def elapse : Align Unit := do
  let es ← answer
  modify (AlignWorld.events · es)

/-- A store to the state of the editor. -/
def store (f : AlignState → AlignState) : Align Unit :=
  modify fun w => { w with state := f w.state }

def load : Align AlignState := AlignWorld.state <$> read

def alignIo : VcapIo Align where
  read16 offset := do
    elapse
    return (← read).card.register offset
  write16 offset value := do
    elapse
    modify (AlignWorld.write · offset value)
  delay := elapse
  keepRunning := pure true

def snapshotAttempt : Align (Option VcapSnapshot) := do
  let w ← read
  let out ← alignIo.readSnapshot
  note (.bracket w.card.commits)
  return out

def snapshot : Align (Option VcapSnapshot) := attempts 8 snapshotAttempt

/-- `start_apply` where the control is the one that the editor has seen last. -/
def AlignState.unchanged (candidate : Option VcapWorking) (action : AlignAction) (s : AlignState)
    : AlignState :=
  match action with
  | .accept => { s with working := candidate.getD s.working, accepted := true, done := true }
  | .restore => { s with done := true }
  | _ => s

def AlignState.requested (raw : UInt32) (candidate : Option VcapWorking) (action : AlignAction)
    (s : AlignState) : AlignState :=
  { s with
    pendingRaw := raw
    pendingAction := action
    pendingWorking := candidate.getD s.pendingWorking }

/-- The request of `start_apply`. -/
def commitRequest (raw : UInt32) (candidate : Option VcapWorking) (action : AlignAction)
    : Align Unit := do
  alignIo.write16 vcapLiveStagedRawHi (raw >>> 16).toUInt16
  alignIo.write16 vcapLiveStagedRawLo raw.toUInt16
  elapse
  note .committing
  modify (AlignWorld.write · vcapLiveCommit vcapLiveCommitToken)
  store (AlignState.requested raw candidate action)

/-- `start_apply` from where it reads the status. -/
def requestApply (raw : UInt32) (candidate : Option VcapWorking) (action : AlignAction)
    : Align Bool := do
  match ← alignIo.readStable vcapLiveStatus with
  | none => return false
  | some stable =>
    let status := vcapStatusUnpack stable
    if status.settled then
      store fun s => { s with pendingSequence := vcapNextSequence status.requestSequence }
      commitRequest raw candidate action
      return true
    else
      return false

/-- The control that `start_apply` asks for. -/
def AlignState.target (s : AlignState) (candidate : Option VcapWorking) (action : AlignAction)
    : UInt32 :=
  match action, candidate with
  | .restore, _ => s.entry.raw
  | _, some candidate => vcapControlPack candidate.control
  | _, none => 0

def startApply (candidate : Option VcapWorking) (action : AlignAction) : Align Bool := do
  let s ← load
  let raw := s.target candidate action
  if raw = s.current.raw then
    store (AlignState.unchanged candidate action)
    return true
  else
    requestApply raw candidate action

/-- Leave a mark where `start_apply` is not going to make a request. -/
def markShortcut (candidate : Option VcapWorking) (action : AlignAction) : Align Unit := do
  let s ← load
  if s.target candidate action = s.current.raw then
    note (.shortcut s.current.raw)
  else
    return ()

def restoreEntry : Align Unit := do
  let _ ← startApply none .restore
  return ()

/-- `reconcile` where another writer has made the request. -/
def requestLost : Align Unit := do
  store fun s => { s with pendingAction := .none }
  match ← snapshot with
  | none => return ()
  | some current =>
    store fun s => { s with current }
    if (← load).cancelRequested then
      restoreEntry
    else
      return ()

/-- `reconcile` where the request was applied. -/
def requestApplied (action : AlignAction) : Align Unit := do
  if action = .restore then
    store fun s => { s with done := true }
  else
    store fun s => { s with working := s.pendingWorking }
    if (← load).cancelRequested then
      restoreEntry
    else if action = .accept then
      store fun s => { s with accepted := true, done := true }
    else
      return ()

/-- `reconcile` where the request has ended. -/
def requestEnded (stable : UInt32) : Align Unit := do
  match ← snapshot with
  | none => return ()
  | some applied =>
    let s ← load
    store fun s => { s with pendingAction := .none, current := applied }
    if vcapRequestResult stable s.pendingSequence applied.raw s.pendingRaw = .applied then
      requestApplied s.pendingAction
    else if s.cancelRequested ∨ s.pendingAction = .restore then
      restoreEntry
    else
      return ()

def reconcilePending : Align Unit := do
  match ← alignIo.readStable vcapLiveStatus with
  | none => return ()
  | some stable =>
    let status := vcapStatusUnpack stable
    let s ← load
    if status.busy then
      return ()
    else if status.requestSequence ≠ s.pendingSequence then
      if status.requestSequence ≠ status.appliedSequence then return () else requestLost
    else if status.appliedSequence ≠ s.pendingSequence then
      return ()
    else
      requestEnded stable

def reconcile : Align Unit := do
  if (← load).pendingAction = .none then
    return ()
  else
    reconcilePending

/-- The first Escape. -/
def AlignWorld.pressEscape (w : AlignWorld) : AlignWorld :=
  { w with
    state := { w.state with cancelRequested := true }
    sinceEscape := some [w.card.appliedRaw] }

def cancel : Align Unit := do
  let s ← load
  if s.cancelRequested then
    store fun s => { s with unknown := true, done := true }
  else
    modify AlignWorld.pressEscape
    if s.pendingAction = .none then
      markShortcut none .restore
      restoreEntry
    else
      return ()

def alignEnterPad : UInt16 := 0x43
def alignEnter : UInt16 := 0x44
def alignEscape : UInt16 := 0x45
def alignUp : UInt16 := 0x4c
def alignDown : UInt16 := 0x4d
def alignRight : UInt16 := 0x4e
def alignLeft : UInt16 := 0x4f
def iecodeUpPrefix : UInt16 := 0x80
def iequalifierShift : UInt16 := 3

def alignMove (code : UInt16) : Option VcapMove :=
  if code = alignLeft then some .left
  else if code = alignRight then some .right
  else if code = alignUp then some .up
  else if code = alignDown then some .down
  else none

/-- An Enter that the editor takes. -/
def AlignWorld.pressEnter (w : AlignWorld) : AlignWorld :=
  if w.state.accepted then w else { w with sinceEnter := some [w.card.appliedRaw] }

def keyEnter : Align Unit := do
  modify AlignWorld.pressEnter
  let candidate := vcapAccept (← load).working
  markShortcut (some candidate) .accept
  let _ ← startApply (some candidate) .accept
  return ()

def keyMove (move : VcapMove) (coarse : Bool) : Align Unit := do
  match vcapAdjust (← load).working move coarse with
  | none => return ()
  | some candidate =>
    let _ ← startApply (some candidate) .adjust
    return ()

/-- The keys that are ignored while a request is on its way. -/
def keyIdle (code qualifier : UInt16) : Align Unit := do
  if code = alignEnter ∨ code = alignEnterPad then
    keyEnter
  else
    match alignMove code with
    | none => return ()
    | some move => keyMove move (qualifier &&& iequalifierShift != 0)

def key (code qualifier : UInt16) : Align Unit := do
  if code &&& iecodeUpPrefix ≠ 0 then
    return ()
  else if code = alignEscape then
    cancel
  else
    let s ← load
    if s.pendingAction ≠ .none ∨ s.cancelRequested then
      return ()
    else
      keyIdle code qualifier

/-- A turn of the editor: a key that was pressed, or the look at the request. -/
inductive AlignStep where
  | key (code qualifier : UInt16)
  | reconcile
  deriving DecidableEq, Repr

def alignStep (step : AlignStep) : Align Unit := do
  elapse
  match step with
  | .key code qualifier => key code qualifier
  | .reconcile => reconcile

/-- What `align_picture_run` begins with. -/
def AlignState.start (entry : VcapSnapshot) : Option AlignState :=
  match vcapControlUnpack entry.raw with
  | none => none
  | some control =>
    some {
      entry
      current := entry
      working := { control, cropH := entry.effectiveH, cropV := entry.effectiveV }
      pendingWorking := { control := ⟨0, 0, 0, 0, 0, 0⟩, cropH := 0, cropV := 0 }
      pendingRaw := 0
      pendingSequence := 0
      pendingAction := .none
      cancelRequested := false
      accepted := false
      done := false
      unknown := false
    }

def AlignWorld.start (card : LiveCard) (state : AlignState) : AlignWorld where
  card := card
  state := state
  sinceEnter := none
  sinceEscape := none

/-- The loop of `align_picture_run`: the keys of each turn, then the look at the request. -/
def alignLoop (turns : List (List (UInt16 × UInt16))) : Align Unit := do
  match turns with
  | [] => return ()
  | keys :: turns =>
    steps alignStep (keys.map fun k => .key k.1 k.2)
    alignStep .reconcile
    if (← load).done then
      return ()
    else
      alignLoop turns

end ZZTop
