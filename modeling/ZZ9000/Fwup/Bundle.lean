import Mathlib.Data.UInt
import Mathlib.Data.Char
import Mathlib.Data.List.DropRight
import Mathlib.Data.List.Lex
import ZZ9000.Fwup.Client

/-!
This module contains the installation of a firmware bundle from `fwup_client.c`: the modules of a
directory in the order of their names, then `BOOT.bin`.
-/

namespace ZZFwup

def bundleModuleMax : Nat := 128
def hostPathMax : Nat := 512
def bootTarget : List Char := ['B', 'O', 'O', 'T', '.', 'b', 'i', 'n']

/-- What one read of a host file stores in the buffer before the end of the file. -/
abbrev Piece := { bytes : List UInt8 // bytes ≠ [] ∧ bytes.length < 2 ^ 16 }

/-- An open host file, as what its reads will return. `none` is a read that fails. -/
structure HostFile where
  reads : List (Option Piece)

def HostFile.content (file : HostFile) : List UInt8 :=
  (file.reads.filterMap fun read => read.map Subtype.val).flatten

/-- What `list_dir` visits, a name once, and what it returns when no visit fails. -/
structure DirListing where
  entries : List (List Char × UInt32)
  ret : Int
  nodup : (entries.map Prod.fst).Nodup

/-- `struct fwup_bundle_files` -/
structure BundleFiles where
  listDir : List Char → DirListing
  fileSize : List Char → Option UInt32
  openFile : List Char → Option HostFile

structure BundleModule where
  name : List Char
  size : UInt32
  deriving DecidableEq

structure BundleModules where
  entries : List BundleModule
  status : UInt16

inductive BundleOutcome where
  | installed
  | bootOnlyNoModuleDir
  | moduleFailed
  deriving DecidableEq

structure BundleResult where
  status : UInt16
  outcome : BundleOutcome
  failedModule : List Char
  deriving DecidableEq

/-- A call of the progress function. -/
structure BundleProgress where
  target : List Char
  done : UInt32
  total : UInt32
  deriving DecidableEq

def moduleNameHasExtension (name : List Char) : Bool :=
  4 ≤ name.length && name.drop (name.length - 4) = moduleExtension

/-- The entries after the place of `entry` are those at the end with a name greater than its own. -/
def insertModule (entry : BundleModule) (entries : List BundleModule) : List BundleModule :=
  entries.rdropWhile (fun other => entry.name < other.name) ++
    entry :: entries.rtakeWhile (fun other => entry.name < other.name)

/-- `none` for the -1 of the source, with the status that the call left. -/
def collectModule (modules : BundleModules) (name : List Char) (size : UInt32)
    : Bool × BundleModules :=
  if moduleNameHasExtension name = false then
    (true, modules)
  else if moduleNameValid name = false then
    (false, { modules with status := Status.badName })
  else if modules.entries.length = bundleModuleMax then
    (false, { modules with status := Status.bundle })
  else
    (true, { modules with entries := insertModule ⟨name, size⟩ modules.entries })

/-- The visits of `list_dir`, which stops at the first that fails. -/
def visitEntries (entries : List (List Char × UInt32)) (modules : BundleModules)
    : Bool × BundleModules :=
  match entries with
  | [] => (true, modules)
  | (name, size) :: entries =>
    match collectModule modules name size with
    | (true, modules) => visitEntries entries modules
    | (false, modules) => (false, modules)

/-- The boot path up to its last separator. -/
def dirPrefix (bootPath : List Char) : List Char :=
  bootPath.rdropWhile fun c => !(c = '/' || c = ':' || c = '\\')

def makeModuleDir (bootPath : List Char) : Option (List Char) :=
  if (dirPrefix bootPath).length + 5 ≥ hostPathMax then
    none
  else
    some (dirPrefix bootPath ++ modulePrefix)

def makeModulePath (dir name : List Char) : Option (List Char) :=
  if dir.length + name.length ≥ hostPathMax then none else some (dir ++ name)

structure BundleRun (σ : Type) where
  client : FwupClient σ
  done : UInt32
  progress : List BundleProgress

variable {σ : Type}

namespace BundleRun

def report (run : BundleRun σ) (target : List Char) (total : UInt32) : BundleRun σ :=
  { run with progress := run.progress ++ [⟨target, run.done, total⟩] }

/-- The loop of `send_bundle_file`. A chunk is read straight into the buffer. -/
def sendChunks (io : FwupIo σ) (target : List Char) (total : UInt32) (reads : List (Option Piece))
    (run : BundleRun σ)
    : UInt16 × BundleRun σ :=
  match reads with
  | [] => (Status.ok, run)
  | none :: _ => (Status.file, run)
  | some piece :: reads =>
    let (st, client) := run.client.fwupWriteChunk io piece.val
    if st ≠ Status.ok then
      (st, { run with client })
    else
      let run := { run with client, done := run.done + piece.val.length.toUInt32 }
      sendChunks io target total reads (run.report target total)

/-- The end of `send_bundle_file`: a CLOSE after the last chunk, an ABORT after any failure. -/
def finishFile (io : FwupIo σ) (st : UInt16) (run : BundleRun σ) : UInt16 × BundleRun σ :=
  let (st, client) := if st = Status.ok then run.client.fwupClose io else (st, run.client)
  let client := if st ≠ Status.ok then (client.fwupAbort io).2 else client
  (st, { run with client })

def sendBundleFile (io : FwupIo σ) (files : BundleFiles) (hostPath target : List Char)
    (total : UInt32) (run : BundleRun σ)
    : UInt16 × BundleRun σ :=
  match files.openFile hostPath with
  | none => (Status.file, run)
  | some file =>
    let (st, client) := run.client.fwupOpen io target
    if st ≠ Status.ok then
      (st, { run with client })
    else
      let (st, run) := sendChunks io target total file.reads { run with client }
      finishFile io st run

/-- The loop over the modules, with the name of the one that failed. -/
def sendModules (io : FwupIo σ) (files : BundleFiles) (dir : List Char) (total : UInt32)
    (modules : List BundleModule) (run : BundleRun σ)
    : UInt16 × Option (List Char) × BundleRun σ :=
  match modules with
  | [] => (Status.ok, none, run)
  | entry :: modules =>
    match makeModulePath dir entry.name with
    | none => (Status.file, none, run)
    | some path =>
      let (st, run) := run.sendBundleFile io files path (modulePrefix ++ entry.name) total
      if st ≠ Status.ok then
        (st, some entry.name, run)
      else
        sendModules io files dir total modules run

end BundleRun

/-- The sizes of the modules added to that of the boot file, unless the sum overflows. -/
def bundleTotal (total : UInt32) (modules : List BundleModule) : Option UInt32 :=
  match modules with
  | [] => some total
  | entry :: modules =>
    if total > 0xffffffff - entry.size then none else bundleTotal (total + entry.size) modules

def hasModuleDir (fwCaps : UInt16) : Bool := fwCaps &&& ((1 : UInt16) <<< 14) ≠ 0

/-- The modules of the directory and its name, or the status that ends the installation. -/
def collectModules (fwCaps : UInt16) (bootHostPath : List Char) (files : BundleFiles)
    (bootSize : UInt32)
    : Except UInt16 (List Char × List BundleModule × UInt32) :=
  if hasModuleDir fwCaps then
    match makeModuleDir bootHostPath with
    | none => .error Status.file
    | some dir =>
      let listing := files.listDir dir
      let (visited, modules) := visitEntries listing.entries ⟨[], Status.ok⟩
      if visited = false || listing.ret < 0 then
        .error (if modules.status ≠ Status.ok then modules.status else Status.file)
      else
        match bundleTotal bootSize modules.entries with
        | none => .error Status.bundle
        | some total => .ok (dir, modules.entries, total)
  else
    .ok ([], [], bootSize)

def installBundle (io : FwupIo σ) (fwCaps : UInt16) (bootHostPath : List Char)
    (files : BundleFiles) (client : FwupClient σ)
    : UInt16 × BundleResult × BundleRun σ :=
  let result : BundleResult := ⟨Status.ok, .installed, []⟩
  let run : BundleRun σ := { client, done := 0, progress := [] }
  match files.fileSize bootHostPath with
  | none => (Status.file, result, run)
  | some bootSize =>
    match collectModules fwCaps bootHostPath files bootSize with
    | .error st => (st, result, run)
    | .ok (dir, modules, total) =>
      let result :=
        if hasModuleDir fwCaps then result else { result with outcome := .bootOnlyNoModuleDir }
      match (run.report [] total).sendModules io files dir total modules with
      | (st, some name, run) => (st, ⟨st, .moduleFailed, name⟩, run)
      | (st, none, run) =>
        if st ≠ Status.ok then
          (st, result, run)
        else
          let (st, run) := run.sendBundleFile io files bootHostPath bootTarget total
          (st, { result with status := st }, run)

end ZZFwup
