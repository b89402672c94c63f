import ZZ9000.Concurrency.Solo
import ZZ9000.Streams.Memory

/-!
This module contains the read and write requests of an app as `ZZRun.c` serves them: `serve_read`,
`serve_write` and `file_reply`. The app and its firmware may give a request up at any time, Ctrl-C
may arrive at any time, and AmigaDOS may fail.
-/

namespace ZZRun

open Concurrency Streams

/-- The parameters of the file slot that the SDK defines. -/
structure FileAbi where
  fdBase : Int
  fdCount : Nat
  dataBytes : Nat

/-- What `IoErr` returns, as far as ZZRun tells it apart. -/
inductive IoErr where
  | none
  | objectNotFound
  | dirNotFound
  | deviceNotMounted
  | noMoreEntries
  | diskFull
  | writeProtected
  | readProtected
  | deleteProtected
  | objectExists
  | noFreeStore
  | objectInUse
  | seekError
  | other
  deriving DecidableEq, Repr

def zzOk : Int := 0
def zzEio : Int := -1
def zzEinval : Int := -2
def zzEnomem : Int := -3
def zzEbusy : Int := -4
def zzEnoent : Int := -5
def zzEacces : Int := -6
def zzEnospc : Int := -10
def zzEexist : Int := -11
def zzEbadf : Int := -12

def zzFromIo (ioErr : IoErr) : Int :=
  match ioErr with
  | .none => zzOk
  | .objectNotFound | .dirNotFound | .deviceNotMounted | .noMoreEntries => zzEnoent
  | .diskFull => zzEnospc
  | .writeProtected | .readProtected | .deleteProtected => zzEacces
  | .objectExists => zzEexist
  | .noFreeStore => zzEnomem
  | .objectInUse => zzEbusy
  | .seekError => zzEinval
  | .other => zzEio

/-- A file that is open. -/
structure OpenFile where
  bytes : List UInt8
  position : Nat
  inRange : position ≤ bytes.length

namespace OpenFile

def atEnd (file : OpenFile) : Bool := file.position == file.bytes.length

/-- What `Read` returns. -/
def next (file : OpenFile) (n : Nat) : List UInt8 := (file.bytes.drop file.position).take n

/-- The file after its position has advanced, to its end at most. -/
def advance (file : OpenFile) (n : Nat) : OpenFile where
  bytes := file.bytes
  position := min (file.position + n) file.bytes.length
  inRange := Nat.min_le_right _ _

/-- `Write` replaces what is at the position, and appends what is left. -/
def write (file : OpenFile) (data : List UInt8) : OpenFile where
  bytes := file.bytes.take file.position ++ data ++ file.bytes.drop (file.position + data.length)
  position := file.position + data.length
  inRange := by
    have := file.inRange
    simp only [List.length_append, List.length_take, List.length_drop]
    omega

end OpenFile

structure FileRequest where
  seq : UInt32
  fd : Int
  length : Nat
  deriving DecidableEq, Repr

structure FileReply where
  seq : UInt32
  fd : Int
  err : Int
  outN : Nat
  mode : UInt32
  outPos : UInt64
  mtime : UInt32
  deriving DecidableEq, Repr

/-- A reply to a read or a write, which has no other results. -/
def FileRequest.reply (req : FileRequest) (err : Int) (outN : Nat) : FileReply where
  seq := req.seq + 2
  fd := req.fd
  err := err
  outN := outN
  mode := 0
  outPos := 0
  mtime := 0

structure FileWorld (abi : FileAbi) where
  files : Fin abi.fdCount → Option OpenFile
  /-- The memory from `ZZAPP_DATA_OFF` on. -/
  data : Nat → UInt8
  /-- The sequence and the generation of the slot are those of the request. -/
  current : Bool := true
  reply : Option FileReply := none
  /-- A read was cut short with `ZZ_OK` while there were bytes left. -/
  cut : Bool := false

/--
What the others did before an access: they gave the request up, and use the data area for the next
one, or they sent Ctrl-C. An access to the file may fail, and a write may be short.
-/
structure FileAnswer where
  superseded : Option (Nat → UInt8) := none
  ctrlC : Bool := false
  fails : Bool := false
  ioErr : IoErr := .other
  count : Nat := 0

/-- A loop over the chunks has not come to its end. -/
inductive FileMark where
  | spins
  deriving DecidableEq, Repr

abbrev FileService (abi : FileAbi) (α : Type) :=
  Coroutine (FileWorld abi) FileMark Empty FileAnswer α

def zzrunReadChunk : Nat := 8192

section Service

variable (abi : FileAbi)

def slotIndex (id : Int) : Option (Fin abi.fdCount) :=
  if h : id < abi.fdBase ∨ id ≥ abi.fdBase + abi.fdCount then
    none
  else
    some ⟨(id - abi.fdBase).toNat, by omega⟩

/-- A sequence or a generation that is over does not come back. -/
def FileWorld.happen {abi : FileAbi} (w : FileWorld abi) (superseded : Option (Nat → UInt8))
    : FileWorld abi :=
  match superseded with
  | none => w
  | some data => { w with current := false, data := data }

def fileAccess : FileService abi FileAnswer := do
  let a ← Coroutine.answer
  Coroutine.modify (·.happen a.superseded)
  return a

def fileRequestIsCurrent : FileService abi Bool := do
  let _ ← fileAccess abi
  return (← Coroutine.read).current

def fileCopyDataIfCurrent (address : Nat) (data : List UInt8) : FileService abi Bool := do
  if ← fileRequestIsCurrent abi then
    Coroutine.modify fun w => { w with data := store w.data address data }
    return true
  else
    return false

def fileReply (req : FileRequest) (err : Int) (outN : Nat) : FileService abi Unit := do
  if ← fileRequestIsCurrent abi then
    Coroutine.modify fun w => { w with reply := some (req.reply err outN) }
  else
    return ()

/-- The read of `req` ends with `ZZ_OK` here, although the file may go on. -/
def FileWorld.cutShort {abi : FileAbi} (w : FileWorld abi) (index : Fin abi.fdCount)
    : FileWorld abi :=
  match w.files index with
  | none => w
  | some file => { w with cut := !file.atEnd }

def ctrlCSet (index : Fin abi.fdCount) : FileService abi Bool := do
  let a ← fileAccess abi
  if a.ctrlC then
    Coroutine.modify (·.cutShort index)
    return true
  else
    return false

/-- `Read`, or what `zz_from_io` makes of its failure. -/
def fileRead (index : Fin abi.fdCount) (n : Nat) : FileService abi (Except Int (List UInt8)) := do
  let a ← fileAccess abi
  match (← Coroutine.read).files index with
  | none => return .error zzEbadf
  | some file =>
    if a.fails then
      Coroutine.modify fun w => if a.ioErr = .none then w.cutShort index else w
      return .error (zzFromIo a.ioErr)
    else
      Coroutine.modify fun w =>
        { w with files := Function.update w.files index (some (file.advance n)) }
      return .ok (file.next n)

/-- Copy the staged bytes to `file_io_buffer`. -/
def fileStaged (address n : Nat) : FileService abi (List UInt8) := do
  let _ ← fileAccess abi
  return load (← Coroutine.read).data address n

/-- `Write`, which may write less than it is asked to. -/
def fileWrite (index : Fin abi.fdCount) (data : List UInt8) : FileService abi (Except Int Nat) := do
  let a ← fileAccess abi
  match (← Coroutine.read).files index with
  | none => return .error zzEbadf
  | some file =>
    if a.fails then
      return .error (zzFromIo a.ioErr)
    else
      let data := data.take a.count
      Coroutine.modify fun w =>
        { w with files := Function.update w.files index (some (file.write data)) }
      return .ok data.length

def readChunks (req : FileRequest) (index : Fin abi.fdCount) (passes left done : Nat)
    : FileService abi Unit := do
  match passes with
  | 0 => Coroutine.note .spins
  | passes + 1 =>
    if left = 0 then
      fileReply abi req zzOk done
    else
      let chunk := if left > zzrunReadChunk then zzrunReadChunk else left
      if ← fileRequestIsCurrent abi then
        if ← ctrlCSet abi index then
          fileReply abi req zzOk done
        else
          match ← fileRead abi index chunk with
          | .error err => fileReply abi req err done
          | .ok data =>
            if data.length = 0 then
              fileReply abi req zzOk done
            else if ← fileCopyDataIfCurrent abi done data then
              if data.length < chunk then
                fileReply abi req zzOk (done + data.length)
              else
                readChunks req index passes (left - data.length) (done + data.length)
            else
              return ()
      else
        return ()

def writeChunks (req : FileRequest) (index : Fin abi.fdCount) (passes left done : Nat)
    : FileService abi Unit := do
  match passes with
  | 0 => Coroutine.note .spins
  | passes + 1 =>
    if left = 0 then
      fileReply abi req zzOk done
    else
      let chunk := if left > zzrunReadChunk then zzrunReadChunk else left
      if ← fileRequestIsCurrent abi then
        if ← fileRequestIsCurrent abi then
          match ← fileWrite abi index (← fileStaged abi done chunk) with
          | .error err => fileReply abi req err done
          | .ok n =>
            if n = 0 then
              fileReply abi req zzEnospc done
            else if ← fileRequestIsCurrent abi then
              if n < chunk then
                fileReply abi req zzOk (done + n)
              else
                writeChunks req index passes (left - n) (done + n)
            else
              return ()
        else
          return ()
      else
        return ()

/-- All passes but the last one take a whole chunk. -/
def filePasses (length : Nat) : Nat := length / zzrunReadChunk + 2

/-- What `serve_read` and `serve_write` do alike: they look the file up and check the length. -/
def serveFile (req : FileRequest) (serve : Fin abi.fdCount → FileService abi Unit)
    : FileService abi Unit := do
  match slotIndex abi req.fd with
  | none => fileReply abi req zzEbadf 0
  | some index =>
    if ((← Coroutine.read).files index).isNone then
      fileReply abi req zzEbadf 0
    else if req.length > abi.dataBytes then
      fileReply abi req zzEinval 0
    else
      serve index

def serveRead (req : FileRequest) : FileService abi Unit :=
  serveFile abi req fun index => readChunks abi req index (filePasses req.length) req.length 0

def serveWrite (req : FileRequest) : FileService abi Unit :=
  serveFile abi req fun index => writeChunks abi req index (filePasses req.length) req.length 0

end Service

end ZZRun
