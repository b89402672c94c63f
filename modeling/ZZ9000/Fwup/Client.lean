/-!
This module contains the firmware push protocol of `fwup_client.c`. The registers and the shared
buffer are functions on a context, as in the source.
-/

namespace ZZFwup

def pollLimit : Nat := 2000000
def legacyPollIdles : Nat := 1500
def legacyOpenQuietTicks : Nat := 100
def legacyWriteQuietTicks : Nat := 2
def legacyCloseQuietTicks : Nat := 50
def mirrorSpins : Nat := 50000
def mirrorIdles : Nat := 1500
def mirrorMagic : UInt32 := 0x46

def chunkBytes : Nat := 16384
def nameMax : Nat := 64
def moduleNameMax : Nat := 8
def moduleFilenameMax : Nat := 12

namespace Cmd

def openFile : UInt16 := 1
def write : UInt16 := 2
def close : UInt16 := 3
def abort : UInt16 := 4
def restore : UInt16 := 5

end Cmd

namespace Status

def busy : UInt16 := 0xffff
def ok : UInt16 := 0
def badName : UInt16 := 0x0003
def state : UInt16 := 0x0007
def len : UInt16 := 0x0008
def bundle : UInt16 := 0x00fb
def file : UInt16 := 0x00fe

end Status

def validDestChar (c : Char) : Bool :=
  ('A' ≤ c && c ≤ 'Z') || ('a' ≤ c && c ≤ 'z') || ('0' ≤ c && c ≤ '9') ||
    c = '.' || c = '_' || c = '-'

def validModuleChar (c : Char) : Bool := ('A' ≤ c && c ≤ 'Z') || ('0' ≤ c && c ≤ '9') || c = '_'

def moduleExtension : List Char := ['.', 'Z', 'Z', 'M']
def modulePrefix : List Char := ['Z', 'Z', '9', 'K', '/']

def moduleNameValid (name : List Char) : Bool :=
  let len := name.length
  if len < 5 || len > moduleFilenameMax || name.drop (len - 4) ≠ moduleExtension then
    false
  else if len - 4 > moduleNameMax then
    false
  else
    (name.take (len - 4)).all validModuleChar

def nameValid (name : List Char) : Bool :=
  if modulePrefix.isPrefixOf name then
    moduleNameValid (name.drop modulePrefix.length)
  else if name.length = 0 || name.length > nameMax then
    false
  else
    name.all validDestChar

/-- `struct fwup_io`. A function that is `none` is NULL, and `stage` writes to the buffer. -/
structure FwupIo (σ : Type) where
  readStatus : σ → UInt16 × σ
  writeCmd : UInt16 → σ → σ
  writeLen : UInt16 → σ → σ
  stage : List UInt8 → σ → σ
  readMirror : Option (σ → UInt32 × σ)
  idle : Option (σ → σ)

variable {σ : Type}

/-- The loop of `poll_status` without `idle`. -/
def pollStatusSpin (io : FwupIo σ) (budget : Nat) (ctx : σ) : UInt16 × σ :=
  match budget with
  | 0 => (Status.busy, ctx)
  | budget + 1 =>
    let (st, ctx) := io.readStatus ctx
    if st ≠ Status.busy then (st, ctx) else pollStatusSpin io budget ctx

def pollStatusIdle (io : FwupIo σ) (idle : σ → σ) (budget : Nat) (ctx : σ) : UInt16 × σ :=
  match budget with
  | 0 => (Status.busy, ctx)
  | budget + 1 =>
    let (st, ctx) := io.readStatus ctx
    if st ≠ Status.busy then (st, ctx) else pollStatusIdle io idle budget (idle ctx)

def pollStatus (io : FwupIo σ) (ctx : σ) : UInt16 × σ :=
  match io.idle with
  | none => pollStatusSpin io pollLimit ctx
  | some idle => pollStatusIdle io idle legacyPollIdles ctx

def mirrorSequence (word : UInt32) : UInt32 := (word >>> 16) &&& 0xff

def mirrorCompleted (now before : UInt32) : Bool :=
  if now >>> 24 ≠ mirrorMagic then
    false
  else if before >>> 24 ≠ mirrorMagic then
    true
  else
    mirrorSequence now ≠ mirrorSequence before

/-- The loop of `poll_mirror` that spins, `none` when it runs out. -/
def pollMirrorSpin (readMirror : σ → UInt32 × σ) (before : UInt32) (spins : Nat) (ctx : σ)
    : Option UInt16 × σ :=
  match spins with
  | 0 => (none, ctx)
  | spins + 1 =>
    let (now, ctx) := readMirror ctx
    if mirrorCompleted now before then
      (some now.toUInt16, ctx)
    else
      pollMirrorSpin readMirror before spins ctx

/-- The loop of `poll_mirror` that yields between reads. -/
def pollMirrorIdle (readMirror : σ → UInt32 × σ) (idle : σ → σ) (before : UInt32) (idles : Nat)
    (ctx : σ)
    : Option UInt16 × σ :=
  match idles with
  | 0 => (none, ctx)
  | idles + 1 =>
    let (now, ctx) := readMirror (idle ctx)
    if mirrorCompleted now before then
      (some now.toUInt16, ctx)
    else
      pollMirrorIdle readMirror idle before idles ctx

def pollMirror (readMirror : σ → UInt32 × σ) (idle : Option (σ → σ)) (before : UInt32) (ctx : σ)
    : UInt16 × σ :=
  match pollMirrorSpin readMirror before mirrorSpins ctx with
  | (some st, ctx) => (st, ctx)
  | (none, ctx) =>
    match idle with
    | none => (Status.busy, ctx)
    | some idle =>
      match pollMirrorIdle readMirror idle before mirrorIdles ctx with
      | (some st, ctx) => (st, ctx)
      | (none, ctx) => (Status.busy, ctx)

def legacyQuietTicks (cmd : UInt16) : Nat :=
  if cmd = Cmd.openFile then
    legacyOpenQuietTicks
  else if cmd = Cmd.write then
    legacyWriteQuietTicks
  else if cmd = Cmd.close then
    legacyCloseQuietTicks
  else
    0

def idleTicks (idle : σ → σ) (ticks : Nat) (ctx : σ) : σ :=
  match ticks with
  | 0 => ctx
  | ticks + 1 => idleTicks idle ticks (idle ctx)

def runCommand (io : FwupIo σ) (cmd : UInt16) (ctx : σ) : UInt16 × σ :=
  match io.readMirror with
  | none =>
    let ctx := io.writeCmd cmd ctx
    match io.idle with
    | none => pollStatus io ctx
    | some idle => pollStatus io (idleTicks idle (legacyQuietTicks cmd) ctx)
  | some readMirror =>
    let (before, ctx) := readMirror ctx
    pollMirror readMirror io.idle before (io.writeCmd cmd ctx)

/-- A command and what it carries in the buffer. -/
inductive FwupCommand where
  | openFile (name : List Char)
  | write (data : List UInt8)
  | close
  | abort
  deriving DecidableEq

def FwupCommand.code (command : FwupCommand) : UInt16 :=
  match command with
  | .openFile _ => Cmd.openFile
  | .write _ => Cmd.write
  | .close => Cmd.close
  | .abort => Cmd.abort

/-- A command that was issued, with the status that came back for it. -/
structure FwupEvent where
  command : FwupCommand
  reply : UInt16
  deriving DecidableEq

/-- The transport, with the commands issued so far. -/
structure FwupClient (σ : Type) where
  ctx : σ
  log : List FwupEvent

namespace FwupClient

def issue (io : FwupIo σ) (client : FwupClient σ) (command : FwupCommand)
    : UInt16 × FwupClient σ :=
  let (st, ctx) := runCommand io command.code client.ctx
  (st, { ctx, log := client.log ++ [⟨command, st⟩] })

def stageName (io : FwupIo σ) (client : FwupClient σ) (name : List Char) : FwupClient σ :=
  { client with ctx := io.stage (name.map (fun c => c.toNat.toUInt8) ++ [0]) client.ctx }

def fwupOpen (io : FwupIo σ) (client : FwupClient σ) (destName : List Char)
    : UInt16 × FwupClient σ :=
  if nameValid destName = false then
    (Status.badName, client)
  else
    (client.stageName io destName).issue io (.openFile destName)

def fwupWriteChunk (io : FwupIo σ) (client : FwupClient σ) (data : List UInt8)
    : UInt16 × FwupClient σ :=
  if data.length = 0 || data.length > chunkBytes then
    (Status.len, client)
  else
    let client := { client with ctx := io.stage data client.ctx }
    let client := { client with ctx := io.writeLen data.length.toUInt16 client.ctx }
    client.issue io (.write data)

def fwupClose (io : FwupIo σ) (client : FwupClient σ) : UInt16 × FwupClient σ :=
  client.issue io .close

def fwupAbort (io : FwupIo σ) (client : FwupClient σ) : UInt16 × FwupClient σ :=
  client.issue io .abort

end FwupClient

end ZZFwup
