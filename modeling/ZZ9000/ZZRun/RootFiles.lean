import Mathlib.Data.Multiset.AddSub
import ZZ9000.Trees.Walk
import ZZ9000.ZZRun.AppFiles

/-!
This module contains the requests of an app that name files: how `ZZRun.c` resolves a path below
`ROOT`, and what it opens, examines and lists there. Every lock, file handle and `FileInfoBlock`
that AmigaDOS hands out is accounted for.
-/

namespace ZZRun

open Concurrency Streams Trees

/-- The parameters of the file slot that name requests need. -/
structure PathAbi extends FileAbi where
  pathOff : Nat
  pathBytes : Nat
  pathMax : Nat
  /-- `char path[256]` has room for a path. -/
  pathFits : pathMax ≤ 256
  flagRead : UInt32
  flagWrite : UInt32
  flagCreate : UInt32
  modeFile : UInt32
  modeDir : UInt32
  seekSet : Int
  seekCur : Int
  seekEnd : Int

def zzEnosys : Int := -7

/-- The volumes of AmigaDOS, with the names that can be looked up and created in a directory. -/
structure DosTree (ν : Type) extends Forest ν where
  find : ν → List UInt8 → Except IoErr ν
  findAbs : List UInt8 → Except IoErr ν
  create : ν → List UInt8 → ν
  createAbs : List UInt8 → ν

/-- An `IoErr` of a call that failed although what it names is there. -/
structure DosFailure where
  code : IoErr
  named : code ≠ .objectNotFound

structure DateStamp where
  days : UInt32
  minute : UInt32
  tick : UInt32

structure FileInfo where
  entryType : Int
  size : UInt32
  date : DateStamp
  name : List UInt8

/-- What the others did before an access, and how it goes. -/
structure DosAnswer where
  superseded : Option (Nat → UInt8)
  fails : Option DosFailure
  info : FileInfo
  position : Int

/-- A list that is open. Its lock is missing if `DupLock` of `ROOT` failed. -/
structure ListSlot (ν : Type) where
  lock : Option ν
  info : FileInfo

/-- `root_lock` and `abs_paths`, which do not change. -/
structure RootOptions (ν : Type) where
  root : ν
  absPaths : Bool

structure DosWorld (abi : PathAbi) (ν : Type) where
  tree : DosTree ν
  files : Fin abi.fdCount → Option ν
  lists : Fin abi.fdCount → Option (ListSlot ν)
  locks : Multiset ν
  handles : Multiset ν
  blocks : Nat
  data : Nat → UInt8
  current : Bool
  reply : Option FileReply
  fileReplySeq : UInt32
  /-- A call has failed. -/
  failed : Bool

inductive DosMode where
  | oldFile
  | readWrite
  | newFile
  deriving DecidableEq, Repr

inductive DosMark (ν : Type) where
  | spins
  | unlocks (n : ν)
  | closes (n : ν)
  | frees
  | opens (dir : ν) (leaf : List UInt8) (mode : DosMode)
  | opensAbs
  | examines (n : Option ν)
  | iterates (n : Option ν)
  | uses (n : ν)

abbrev DosService (abi : PathAbi) (ν : Type) (α : Type) :=
  Coroutine (DosWorld abi ν) (DosMark ν) Empty DosAnswer α

inductive FileOp where
  | open
  | close
  | read
  | write
  | seek
  | stat
  | listOpen
  | listNext
  | listClose
  | other
  deriving DecidableEq, Repr

/-- `struct zzapp_file_wire` -/
structure NameRequest where
  seq : UInt32
  op : FileOp
  fd : Int
  flags : UInt32
  whence : Int
  pathOff : Nat
  length : Nat
  offset : UInt64

def slash : UInt8 := 47
def dot : UInt8 := 46
def colon : UInt8 := 58

/-- The size of `leaf`, `comp` and `hold`. -/
def nameBytes : Nat := 108

variable {abi : PathAbi} {ν : Type} [DecidableEq ν]

section Dos

/-- Take notice of what the others did. -/
def dosAccess : DosService abi ν DosAnswer := do
  let a ← Coroutine.answer
  Coroutine.modify fun w =>
    let w := { w with failed := w.failed || a.fails.isSome }
    match a.superseded with
    | none => w
    | some data => { w with current := false, data }
  return a

def acquire (n : ν) : DosService abi ν Unit :=
  Coroutine.modify fun w => { w with locks := n ::ₘ w.locks }

def unLock (n : ν) : DosService abi ν Unit := do
  Coroutine.note (.unlocks n)
  Coroutine.modify fun w => { w with locks := w.locks.erase n }

def dupLock (n : ν) : DosService abi ν (Option ν) := do
  let a ← dosAccess
  if a.fails.isSome then
    return none
  else
    acquire n
    return some n

def parentDir (n : ν) : DosService abi ν (Option ν) := do
  let a ← dosAccess
  match (← Coroutine.read).tree.parent n with
  | none => return none
  | some p =>
    if a.fails.isSome then
      return none
    else
      acquire p
      return some p

/-- `Lock` of what a lookup finds. -/
def lockFound (found : Except IoErr ν) : DosService abi ν (Except IoErr ν) := do
  let a ← dosAccess
  match found with
  | .error e => return .error e
  | .ok n =>
    match a.fails with
    | some failure => return .error failure.code
    | none =>
      acquire n
      return .ok n

/-- `Lock` of a name with `dir` as the current directory. -/
def lock (dir : ν) (name : List UInt8) : DosService abi ν (Except IoErr ν) := do
  lockFound ((← Coroutine.read).tree.find dir name)

def handOut (fh : ν) : DosService abi ν (Except IoErr ν) := do
  Coroutine.modify fun w => { w with handles := fh ::ₘ w.handles }
  return .ok fh

/-- `Open` of what a lookup finds. -/
def openFound (found : Except IoErr ν) (created : ν) (mode : DosMode)
    : DosService abi ν (Except IoErr ν) := do
  let a ← dosAccess
  match a.fails with
  | some failure => return .error failure.code
  | none =>
    match found, mode with
    | .error e, .oldFile => return .error e
    | .error _, _ => handOut created
    | .ok n, _ => handOut n

def dosOpen (dir : ν) (leaf : List UInt8) (mode : DosMode) : DosService abi ν (Except IoErr ν) := do
  Coroutine.note (.opens dir leaf mode)
  let tree := (← Coroutine.read).tree
  openFound (tree.find dir leaf) (tree.create dir leaf) mode

def dosOpenAbs (path : List UInt8) (mode : DosMode) : DosService abi ν (Except IoErr ν) := do
  Coroutine.note .opensAbs
  let tree := (← Coroutine.read).tree
  openFound (tree.findAbs path) (tree.createAbs path) mode

def dosClose (n : ν) : DosService abi ν Unit := do
  Coroutine.note (.closes n)
  Coroutine.modify fun w => { w with handles := w.handles.erase n }

def examine (n : Option ν) : DosService abi ν (Except IoErr FileInfo) := do
  Coroutine.note (.examines n)
  let a ← dosAccess
  match a.fails with
  | some failure => return .error failure.code
  | none => return .ok a.info

def exNext (n : Option ν) : DosService abi ν (Except IoErr FileInfo) := do
  Coroutine.note (.iterates n)
  let a ← dosAccess
  match a.fails with
  | some failure => return .error failure.code
  | none => return .ok a.info

def examineFh (n : ν) : DosService abi ν (Option FileInfo) := do
  Coroutine.note (.uses n)
  let a ← dosAccess
  return if a.fails.isSome then none else some a.info

/-- `Seek`, `Read` and `Write`, which tell a position or a count. -/
def useHandle (n : ν) : DosService abi ν (Except IoErr Int) := do
  Coroutine.note (.uses n)
  let a ← dosAccess
  match a.fails with
  | some failure => return .error failure.code
  | none => return .ok a.position

/-- `AllocMem` of a `FileInfoBlock` -/
def allocInfo : DosService abi ν Bool := do
  let a ← dosAccess
  if a.fails.isSome then
    return false
  else
    Coroutine.modify fun w => { w with blocks := w.blocks + 1 }
    return true

def freeInfo : DosService abi ν Unit := do
  Coroutine.note .frees
  Coroutine.modify fun w => { w with blocks := w.blocks - 1 }

end Dos

section Paths

variable (opt : RootOptions ν)

/-- Go from `cur` to its parents until one of them is `ROOT`. -/
def climb (passes : Nat) (cur : ν) : DosService abi ν Bool := do
  match passes with
  | 0 =>
    Coroutine.note .spins
    return false
  | passes + 1 =>
    if cur = opt.root then
      unLock cur
      return true
    else
      let parent ← parentDir cur
      unLock cur
      match parent with
      | none => return false
      | some p => climb passes p

def underRoot (n : ν) : DosService abi ν Bool := do
  match ← dupLock n with
  | none => return false
  | some cur => climb opt ((← Coroutine.read).tree.depth cur + 1) cur

def stepParent (cur : ν) : DosService abi ν (Except Int ν) := do
  match ← parentDir cur with
  | none => return .error zzEacces
  | some parent =>
    if ← underRoot opt parent then
      unLock cur
      return .ok parent
    else
      unLock parent
      return .error zzEacces

/-- What `enter_dir` makes of the failure of a `Lock`. -/
def enterErr (e : IoErr) : Int :=
  if e = .objectNotFound ∨ e = .dirNotFound then zzEnoent else zzEio

def enterDir (cur : ν) (name : List UInt8) : DosService abi ν (Except Int ν) := do
  match ← lock cur name with
  | .error e => return .error (enterErr e)
  | .ok child =>
    if ← underRoot opt child then
      unLock cur
      return .ok child
    else
      unLock child
      return .error zzEacces

inductive PathComp where
  | last
  | parent
  | name (c : List UInt8)
  deriving DecidableEq, Repr

/-- The next component of a path and what follows it. `none` is a name that is too long. -/
def nextComp (p : List UInt8) : Option (PathComp × List UInt8) :=
  match p with
  | [] => some (.last, [])
  | c :: rest =>
    if c = slash then
      some (.parent, rest)
    else
      let name := p.takeWhile (· != slash)
      if name.length ≥ nameBytes then
        none
      else
        some (.name name, (p.drop name.length).drop 1)

/-- Enter the directory whose name is held back. -/
def enterHeld (cur : ν) (hold : Option (List UInt8)) : DosService abi ν (Except Int ν) :=
  match hold with
  | none => pure (.ok cur)
  | some name => enterDir opt cur name

/-- After an error the directory that has been reached is given back. -/
def orUnLock {α : Type} (cur : ν) (r : Except Int ν) (next : ν → DosService abi ν (Except Int α))
    : DosService abi ν (Except Int α) :=
  match r with
  | .error err => do
    unLock cur
    return .error err
  | .ok cur => next cur

/-- The loop of `resolve_rel`. The last name of a path is held back. -/
def resolveLoop (passes : Nat) (p : List UInt8) (cur : ν) (hold : Option (List UInt8))
    : DosService abi ν (Except Int (ν × List UInt8)) := do
  match passes with
  | 0 =>
    Coroutine.note .spins
    return .error zzEinval
  | passes + 1 =>
    match nextComp p with
    | none =>
      unLock cur
      return .error zzEinval
    | some (.last, _) =>
      let leaf := hold.getD []
      if leaf.length ≥ nameBytes then
        unLock cur
        return .error zzEinval
      else
        return .ok (cur, leaf)
    | some (.parent, p) =>
      orUnLock cur (← enterHeld opt cur hold) fun cur => do
        orUnLock cur (← stepParent opt cur) fun cur => resolveLoop passes p cur none
    | some (.name c, p) =>
      if c = [dot, dot] then
        orUnLock cur (← enterHeld opt cur hold) fun cur => do
          orUnLock cur (← stepParent opt cur) fun cur => resolveLoop passes p cur none
      else if c = [dot] then
        resolveLoop passes p cur hold
      else
        orUnLock cur (← enterHeld opt cur hold) fun cur => resolveLoop passes p cur (some c)

def resolveRel (path : List UInt8) : DosService abi ν (Except Int (ν × List UInt8)) := do
  match ← dupLock opt.root with
  | none => return .error zzEio
  | some cur => resolveLoop opt (path.length + 1) path cur none

end Paths

section Requests

variable (opt : RootOptions ν)

def dosSlotIndex (id : Int) : Option (Fin abi.fdCount) := slotIndex abi.toFileAbi id

def zzrunUnixDelta : UInt32 := 252460800

def amigaUnix (ds : DateStamp) : UInt32 :=
  if ds.days = 0 ∧ ds.minute = 0 ∧ ds.tick = 0 then
    0
  else
    zzrunUnixDelta + ds.days * 86400 + ds.minute * 60 + ds.tick / 50

/-- `zz_from_io`, where a failure without a code is a missing object. -/
def fromIoOr (e : IoErr) : Int := if zzFromIo e = zzOk then zzEnoent else zzFromIo e

def requestIsCurrent : DosService abi ν Bool := do
  let _ ← dosAccess
  return (← Coroutine.read).current

def NameRequest.reply (req : NameRequest) (err : Int) (outN : Nat) (mode : UInt32)
    (outPos : UInt64) (mtime : UInt32)
    : FileReply where
  seq := req.seq + 2
  fd := req.fd
  err
  outN
  mode
  outPos
  mtime

def dosReply (reply : FileReply) : DosService abi ν Unit := do
  if ← requestIsCurrent then
    Coroutine.modify fun w => { w with reply := some reply, fileReplySeq := reply.seq }
  else
    return ()

/-- The path of a request, which has to end before the window of the paths does. -/
def pathFromWire (abi : PathAbi) (window : Nat → UInt8) (off : Nat) : Option (List UInt8) :=
  if off < abi.pathOff ∨ off ≥ abi.pathOff + abi.pathBytes then
    none
  else
    let room := min abi.pathMax (abi.pathOff + abi.pathBytes - off)
    let bytes := (List.range room).map fun i => window (off + i)
    if bytes.contains 0 then some (bytes.takeWhile (· != 0)) else none

def openMode (abi : PathAbi) (flags : UInt32) : Option DosMode :=
  let known := abi.flagRead ||| abi.flagWrite ||| abi.flagCreate
  if flags &&& ~~~known ≠ 0 then
    none
  else if flags &&& known = 0 then
    none
  else if flags &&& abi.flagCreate ≠ 0 then
    some .newFile
  else if flags &&& abi.flagWrite ≠ 0 then
    some .readWrite
  else
    some .oldFile

def lockTarget (dir : ν) (leaf : List UInt8) : DosService abi ν (Except Int ν) := do
  if leaf = [] then
    match ← dupLock dir with
    | none => return .error zzEio
    | some n => return .ok n
  else
    match ← lock dir leaf with
    | .error e => return .error (fromIoOr e)
    | .ok n =>
      if opt.absPaths then
        return .ok n
      else if ← underRoot opt n then
        return .ok n
      else
        unLock n
        return .error zzEacces

def finalPathUnderRoot (dir : ν) (leaf : List UInt8) (create : Bool)
    : DosService abi ν (Except Int Unit) := do
  match ← lock dir leaf with
  | .error e =>
    if create && e = .objectNotFound then
      return .ok ()
    else
      return .error (fromIoOr e)
  | .ok n =>
    let under ← underRoot opt n
    unLock n
    return if under then .ok () else .error zzEacces

/-- What a request has taken and has to give back at its end. -/
structure Taken (ν : Type) where
  fh : Option ν := none
  dir : Option ν := none
  lock : Option ν := none
  block : Bool := false

def freeTaken (block : Bool) : DosService abi ν Unit := if block then freeInfo else pure ()

def closeTaken (fh : Option ν) : DosService abi ν Unit :=
  match fh with
  | none => pure ()
  | some fh => dosClose fh

def unLockTaken (lock : Option ν) : DosService abi ν Unit :=
  match lock with
  | none => pure ()
  | some n => unLock n

def release (t : Taken ν) : DosService abi ν Unit := do
  freeTaken t.block
  closeTaken t.fh
  unLockTaken t.lock
  unLockTaken t.dir

/-- The reply of `serve_open` to what `ExamineFH` tells. -/
def NameRequest.openReply (abi : PathAbi) (req : NameRequest) (info : Option FileInfo)
    : FileReply :=
  match info with
  | none => req.reply zzOk 0 abi.modeFile 0 0
  | some info =>
    req.reply zzOk 0 (if info.entryType > 0 then abi.modeDir else abi.modeFile) info.size.toUInt64
      (amigaUnix info.date)

def openFails (req : NameRequest) (err : Int) : DosService abi ν Unit :=
  dosReply (req.reply err 0 abi.modeFile 0 0)

/-- Put what was opened into its slot, as long as the request is current. -/
def openSlot (req : NameRequest) (index : Fin abi.fdCount) (fh : ν) (dir : Option ν)
    : DosService abi ν Unit := do
  if ← requestIsCurrent then
    let info ← examineFh fh
    if ← requestIsCurrent then
      Coroutine.modify fun w => { w with files := Function.update w.files index (some fh) }
      release { dir }
      dosReply (req.openReply abi info)
    else
      release { fh := some fh, dir }
      dosReply (req.openReply abi info)
  else
    release { fh := some fh, dir }
    dosReply (req.openReply abi none)

/-- `Open` of a path below `ROOT` -/
def openRelative (req : NameRequest) (index : Fin abi.fdCount) (path : List UInt8)
    (mode : DosMode)
    : DosService abi ν Unit := do
  match ← resolveRel opt path with
  | .error err => openFails req err
  | .ok (dir, leaf) =>
    if leaf = [] then
      release { dir := some dir }
      openFails req zzEio
    else
      match ← finalPathUnderRoot opt dir leaf (mode = .newFile) with
      | .error err =>
        release { dir := some dir }
        openFails req err
      | .ok () =>
        match ← dosOpen dir leaf mode with
        | .error e =>
          release { dir := some dir }
          openFails req (fromIoOr e)
        | .ok fh => openSlot req index fh (some dir)

def serveOpen (window : Nat → UInt8) (req : NameRequest) : DosService abi ν Unit := do
  match dosSlotIndex req.fd with
  | none => openFails req zzEbadf
  | some index =>
    if ((← Coroutine.read).files index).isSome then
      openFails req zzEbusy
    else
      match openMode abi req.flags with
      | none => openFails req zzEinval
      | some mode =>
        match pathFromWire abi window req.pathOff with
        | none => openFails req zzEinval
        | some [] => openFails req zzEinval
        | some path =>
          if path.contains colon then
            if opt.absPaths then
              match ← dosOpenAbs path mode with
              | .error e => openFails req (fromIoOr e)
              | .ok fh => openSlot req index fh none
            else
              openFails req zzEacces
          else
            openRelative opt req index path mode

def closeFdIndex (index : Fin abi.fdCount) : DosService abi ν Unit := do
  match (← Coroutine.read).files index with
  | none => return ()
  | some fh =>
    dosClose fh
    Coroutine.modify fun w => { w with files := Function.update w.files index none }

def closeListIndex (index : Fin abi.fdCount) : DosService abi ν Unit := do
  match (← Coroutine.read).lists index with
  | none => return ()
  | some slot =>
    release { block := true, lock := slot.lock }
    Coroutine.modify fun w => { w with lists := Function.update w.lists index none }

def serveClose (req : NameRequest) : DosService abi ν Unit := do
  match dosSlotIndex req.fd with
  | none => dosReply (req.reply zzEbadf 0 0 0 0)
  | some index =>
    if ((← Coroutine.read).files index).isSome then
      closeFdIndex index
      dosReply (req.reply zzOk 0 0 0 0)
    else
      dosReply (req.reply zzEbadf 0 0 0 0)

/-- A read or a write as far as the handle goes: `serveRead` and `serveWrite` are the rest. -/
def serveTransfer (req : NameRequest) : DosService abi ν Unit := do
  match dosSlotIndex req.fd with
  | none => dosReply (req.reply zzEbadf 0 0 0 0)
  | some index =>
    match (← Coroutine.read).files index with
    | none => dosReply (req.reply zzEbadf 0 0 0 0)
    | some fh =>
      if req.length > abi.dataBytes then
        dosReply (req.reply zzEinval 0 0 0 0)
      else
        match ← useHandle fh with
        | .error e => dosReply (req.reply (zzFromIo e) 0 0 0 0)
        | .ok n => dosReply (req.reply zzOk (min n.toNat req.length) 0 0 0)

def serveSeek (req : NameRequest) : DosService abi ν Unit := do
  match dosSlotIndex req.fd with
  | none => dosReply (req.reply zzEbadf 0 0 0 0)
  | some index =>
    match (← Coroutine.read).files index with
    | none => dosReply (req.reply zzEbadf 0 0 0 0)
    | some fh =>
      let target := req.offset.toBitVec.toInt
      if req.offset > 0x7fffffff ∧ req.whence = abi.seekSet then
        dosReply (req.reply zzEinval 0 0 0 0)
      else if req.whence ≠ abi.seekSet ∧ req.whence ≠ abi.seekCur ∧ req.whence ≠ abi.seekEnd then
        dosReply (req.reply zzEinval 0 0 0 0)
      else if target > 2147483647 ∨ target < -2147483647 then
        dosReply (req.reply zzEinval 0 0 0 0)
      else
        match ← useHandle fh with
        | .error e => dosReply (req.reply (zzFromIo e) 0 0 0 0)
        | .ok _ =>
          match ← useHandle fh with
          | .error e => dosReply (req.reply (zzFromIo e) 0 0 0 0)
          | .ok current => dosReply (req.reply zzOk 0 0 (UInt64.ofNat current.toNat) 0)

/-- What `serve_stat` and `serve_list_open` lock, and the directory that they went through. -/
structure Target (ν : Type) where
  lock : Option ν
  dir : Option ν

/-- The end of `serve_stat` -/
def statTarget (req : NameRequest) (t : Target ν) : DosService abi ν Unit := do
  let info ← examine t.lock
  release { lock := t.lock, dir := t.dir }
  match info with
  | .error e => dosReply (req.reply (zzFromIo e) 0 0 0 0)
  | .ok info =>
    dosReply (req.reply zzOk 0 (if info.entryType > 0 then abi.modeDir else abi.modeFile)
      info.size.toUInt64 (amigaUnix info.date))

/-- Lock what a path names. -/
def lockPath (path : List UInt8) : DosService abi ν (Except Int (Target ν)) := do
  if path.contains colon then
    if opt.absPaths then
      match ← lockFound ((← Coroutine.read).tree.findAbs path) with
      | .error e => return .error (zzFromIo e)
      | .ok n => return .ok { lock := some n, dir := none }
    else
      return .error zzEacces
  else
    match ← resolveRel opt path with
    | .error err => return .error err
    | .ok (dir, leaf) =>
      match ← lockTarget opt dir leaf with
      | .error err =>
        release { dir := some dir }
        return .error err
      | .ok n => return .ok { lock := some n, dir := some dir }

def serveStat (window : Nat → UInt8) (req : NameRequest) : DosService abi ν Unit := do
  match pathFromWire abi window req.pathOff with
  | none => dosReply (req.reply zzEinval 0 0 0 0)
  | some [] => dosReply (req.reply zzEinval 0 0 0 0)
  | some path =>
    match ← lockPath opt path with
    | .error err => dosReply (req.reply err 0 0 0 0)
    | .ok target => statTarget req target

def leaveList (req : NameRequest) (t : Target ν) (block : Bool) (err : Int)
    : DosService abi ν Unit := do
  release { block, lock := t.lock, dir := t.dir }
  dosReply (req.reply err 0 (if err = zzOk then abi.modeDir else 0) 0 0)

/-- The list of a lock that `serve_list_open` has. -/
def listTarget (req : NameRequest) (index : Fin abi.fdCount) (t : Target ν)
    : DosService abi ν Unit := do
  if ← requestIsCurrent then
    if ← allocInfo then
      match ← examine t.lock with
      | .error e => leaveList req t true (zzFromIo e)
      | .ok info =>
        if info.entryType < 0 then
          leaveList req t true zzEio
        else if ← requestIsCurrent then
          Coroutine.modify fun w =>
            { w with lists := Function.update w.lists index (some ⟨t.lock, info⟩) }
          release { dir := t.dir }
          dosReply (req.reply zzOk 0 abi.modeDir 0 0)
        else
          leaveList req t true zzOk
    else
      leaveList req t false zzEnomem
  else
    leaveList req t false zzOk

def serveListOpen (window : Nat → UInt8) (req : NameRequest) : DosService abi ν Unit := do
  match dosSlotIndex req.fd with
  | none => dosReply (req.reply zzEbadf 0 0 0 0)
  | some index =>
    if ((← Coroutine.read).lists index).isSome then
      dosReply (req.reply zzEbusy 0 0 0 0)
    else
      match pathFromWire abi window req.pathOff with
      | none => dosReply (req.reply zzEinval 0 0 0 0)
      | some [] =>
        -- the lock is not looked at before it is used
        let locked ← dupLock opt.root
        listTarget req index { lock := locked, dir := none }
      | some path =>
        match ← lockPath opt path with
        | .error err => dosReply (req.reply err 0 (if err = zzOk then abi.modeDir else 0) 0 0)
        | .ok target => listTarget req index target

def serveListNext (req : NameRequest) : DosService abi ν Unit := do
  match dosSlotIndex req.fd with
  | none => dosReply (req.reply zzEbadf 0 0 0 0)
  | some index =>
    match (← Coroutine.read).lists index with
    | none => dosReply (req.reply zzEbadf 0 0 0 0)
    | some slot =>
      if ← requestIsCurrent then
        match ← exNext slot.lock with
        | .error e => dosReply (req.reply (zzFromIo e) 0 0 0 0)
        | .ok info =>
          let name := info.name.take abi.pathMax
          Coroutine.modify fun w =>
            { w with lists := Function.update w.lists index (some { slot with info }) }
          if ← requestIsCurrent then
            Coroutine.modify fun w => { w with data := store w.data 0 (name ++ [0]) }
            dosReply (req.reply zzOk name.length
              (if info.entryType > 0 then abi.modeDir else abi.modeFile) info.size.toUInt64
              (amigaUnix info.date))
          else
            return ()
      else
        return ()

def serveListClose (req : NameRequest) : DosService abi ν Unit := do
  match dosSlotIndex req.fd with
  | none => dosReply (req.reply zzEbadf 0 0 0 0)
  | some index =>
    if ((← Coroutine.read).lists index).isSome then
      closeListIndex index
      dosReply (req.reply zzOk 0 0 0 0)
    else
      dosReply (req.reply zzEbadf 0 0 0 0)

def serveRequest (window : Nat → UInt8) (req : NameRequest) : DosService abi ν Unit :=
  match req.op with
  | .open => serveOpen opt window req
  | .close => serveClose req
  | .read => serveTransfer req
  | .write => serveTransfer req
  | .seek => serveSeek req
  | .stat => serveStat opt window req
  | .listOpen => serveListOpen opt window req
  | .listNext => serveListNext req
  | .listClose => serveListClose req
  | .other => dosReply (req.reply zzEnosys 0 0 0 0)

/-- A pass of `run_loop` over the file slot: the volumes are as they are then. -/
structure FileTurn (ν : Type) where
  tree : DosTree ν
  window : Nat → UInt8
  request : NameRequest

/-- `serve_files` -/
def serveFiles (turn : FileTurn ν) : DosService abi ν Unit := do
  Coroutine.modify fun w =>
    { w with tree := turn.tree, current := true, reply := none, failed := false }
  let req := turn.request
  if req.seq = 0 ∨ req.seq = (← Coroutine.read).fileReplySeq ∨ req.seq &&& 1 ≠ 0 then
    return ()
  else
    serveRequest opt turn.window req

/-- ZZRun after `open_root`. -/
def DosWorld.opened (tree : DosTree ν) (root : ν) (data : Nat → UInt8) : DosWorld abi ν where
  tree
  files := fun _ => none
  lists := fun _ => none
  locks := {root}
  handles := 0
  blocks := 0
  data
  current := false
  reply := none
  fileReplySeq := 0
  failed := false

end Requests

end ZZRun
