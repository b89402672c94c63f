import ZZ9000.FwRelease.Zip

/-!
This module contains the archives that the ZIP readers are for: what the bytes of an archive are,
which entries are selected and what has to hold of their contents.
-/

namespace ZZRel

section Names

structure SafeComponent (s : List UInt8) : Prop where
  nonempty : s ≠ []
  plain : slash ∉ s
  notDot : s ≠ [dot]
  notDotDot : s ≠ [dot, dot]

/-- What is inside the root directory of a bundle, what it selects and under which path. -/
inductive BundlePath : List UInt8 → ZipTarget → List UInt8 → Prop where
  | folder : BundlePath [] .none []
  | file {file : List UInt8} (hsafe : SafeComponent file) (hname : file ≠ bootName)
      : BundlePath file .none []
  | boot : BundlePath bootName .boot bootName
  | moduleFolder : BundlePath moduleDir .none []
  | zzm {stem : List UInt8} (hnonempty : 1 ≤ stem.length) (hshort : stem.length ≤ 8)
      (hchars : ∀ c ∈ stem, moduleNameChar c)
      : BundlePath (moduleDir ++ (stem ++ moduleSuffix)) .zzm (moduleDir ++ (stem ++ moduleSuffix))

/-- A name in a bundle with the root directory `dir`. -/
structure BundleName (root : List UInt8) (foundBoot : Bool) (name : List UInt8) (target : ZipTarget)
    (path dir : List UInt8) : Prop where
  dir_safe : SafeComponent dir
  noBackslash : backslash ∉ name
  sameRoot : root = [] ∨ root = dir
  once : target = .boot → foundBoot = false
  inside : ∃ rest, name = dir ++ slash :: rest ∧ BundlePath rest target path

/-- `BOOT.bin` at the root or inside exactly one directory. -/
inductive LegacyName : List UInt8 → Prop where
  | root : LegacyName bootName
  | folder {dir : List UInt8} (hdir : dir ≠ []) (hplain : slash ∉ dir)
      : LegacyName (dir ++ slash :: bootName)

/-- A name in a single-image archive. It has no root directory, and its callbacks no paths. -/
structure ImageName (root name : List UInt8) (target : ZipTarget) (path dir : List UInt8) :
    Prop where
  dir_eq : dir = root
  path_eq : path = []
  selects : target = .boot ∧ LegacyName name ∨ target = .none ∧ ¬LegacyName name

def ZipName (bundle : Bool) (root : List UInt8) (foundBoot : Bool) (name : List UInt8)
    (target : ZipTarget) (path dir : List UInt8) : Prop :=
  if bundle then
    BundleName root foundBoot name target path dir
  else
    ImageName root name target path dir

end Names

section Entries

/-- The local header and the name of an entry, and what the name selects. -/
structure ZipEntry where
  header : List UInt8
  name : List UInt8
  extra : List UInt8
  target : ZipTarget
  path : List UInt8
  root : List UInt8

namespace ZipEntry

variable (e : ZipEntry)

def flags : UInt16 := le16 e.header 6
def method : UInt16 := le16 e.header 8
def crc : UInt32 := le32 e.header 14
def csize : UInt32 := le32 e.header 18
def usize : UInt32 := le32 e.header 22
def nameLen : UInt16 := le16 e.header 26
def extraLen : UInt16 := le16 e.header 28

def hasDescriptor : Prop := e.flags &&& zipFlagDescriptor ≠ 0

/-- The bytes in front of the data. -/
def opening : List UInt8 := e.header ++ (e.name ++ e.extra)

/-- The entry may come next in an archive. -/
structure Opens (bundle : Bool) (root : List UInt8) (foundBoot : Bool) : Prop where
  header_length : e.header.length = zipLocalBytes
  signature : le32 e.header 0 = zipLocalSig
  name_length : e.name.length = e.nameLen.toNat
  named : e.nameLen ≠ 0
  name_lt : e.nameLen.toNat < 256
  extra_length : e.extra.length = e.extraLen.toNat
  notEncrypted : e.flags &&& zipFlagEncrypted = 0
  sized : ¬e.hasDescriptor → e.csize ≠ 0xffffffff ∧ e.usize ≠ 0xffffffff
  selects : ZipName bundle root foundBoot (cString e.name) e.target e.path e.root

end ZipEntry

structure BootImage (content : List UInt8) : Prop where
  min_le : bootMinBytes ≤ content.length
  le_max : content.length ≤ bootMaxBytes
  header : bootHeaderOk (content.take bootHeaderBytes)

structure ModuleImage (content : List UInt8) : Prop where
  header : ∃ size, moduleHeaderOk (content.take moduleHeaderBytes) = some size
    ∧ content.length = moduleHeaderBytes + size.toNat
  hash : sha256 (content.drop moduleHeaderBytes) = (content.drop 52).take 32

/-- The contents of an entry are what the archive says. -/
structure Checked (target : ZipTarget) (crc usize : UInt32) (content : List UInt8) : Prop where
  crc_eq : crc32 content = crc
  length_eq : content.length = usize.toNat
  boot : target = .boot → BootImage content
  zzm : target = .zzm → ModuleImage content

/-- A data descriptor with its CRC-32 and size. -/
inductive ZipDescriptor : List UInt8 → UInt32 → UInt32 → Prop where
  | plain {d : List UInt8} (hlength : d.length = 12) (hplain : le32 d 0 ≠ zipDescriptorSig)
      : ZipDescriptor d (le32 d 0) (le32 d 8)
  | signed {d : List UInt8} (hlength : d.length = 16) (hsigned : le32 d 0 = zipDescriptorSig)
      : ZipDescriptor d (le32 d 4) (le32 d 12)

/-- The bytes behind the name of an entry, and its contents. -/
inductive ZipData (code : List UInt8 → Option (List UInt8)) (e : ZipEntry)
    : List UInt8 → List UInt8 → List UInt8 → Prop where
  /-- The contents of a stored entry that is not selected are not looked at. -/
  | skipped {body : List UInt8} (hmethod : e.method = zipMethodStore) (hplain : ¬e.hasDescriptor)
      (htarget : e.target = .none) (hsizes : e.csize = e.usize)
      (hlength : body.length = e.csize.toNat) (hempty : e.usize = 0 → e.crc = 0)
      : ZipData code e body [] []
  | stored {body : List UInt8} (hmethod : e.method = zipMethodStore) (hplain : ¬e.hasDescriptor)
      (htarget : e.target ≠ .none) (hsizes : e.csize = e.usize)
      (hchecked : Checked e.target e.crc e.usize body)
      : ZipData code e body [] body
  | deflated {body content : List UInt8} (hmethod : e.method = zipMethodDeflate)
      (hplain : ¬e.hasDescriptor) (hcode : code body = some content)
      (hchecked : Checked e.target e.crc e.usize content)
      : ZipData code e body [] content
  | described {body trailer content : List UInt8} {crc usize : UInt32}
      (hmethod : e.method = zipMethodDeflate) (hdescribed : e.hasDescriptor)
      (hcode : code body = some content) (htrailer : ZipDescriptor trailer crc usize)
      (hchecked : Checked e.target crc usize content)
      : ZipData code e body trailer content

end Entries

section Archives

/-- What the callbacks get, one byte at a time. -/
inductive ZipAtom where
  | begins (path : List UInt8)
  | byte (b : UInt8)
  | ends (path : List UInt8)
deriving DecidableEq, Repr

def ZipEvent.atoms : ZipEvent → List ZipAtom
  | .begins path => [.begins path]
  | .sinks data => data.map .byte
  | .ends path => [.ends path]

/-- The sink gets the contents of the selected entries. -/
def ZipTarget.shows (target : ZipTarget) (content : List UInt8) : List ZipAtom :=
  if target = .none then [] else content.map .byte

/-- No callback fails. -/
structure ZipCallbacks.Reliable (cb : ZipCallbacks) : Prop where
  sink : ∀ log data, cb.sink log data = false
  onBegin : ∀ fails, cb.onBegin = some fails → ∀ log path, fails log path = false
  onEnd : ∀ fails, cb.onEnd = some fails → ∀ log path, fails log path = false

variable (cb : ZipCallbacks)

namespace ZipEntry

variable (e : ZipEntry)

def begins : List ZipAtom :=
  if e.target ≠ .none ∧ cb.onBegin.isSome then [.begins e.path] else []

def ends : List ZipAtom :=
  if e.target ≠ .none ∧ cb.onEnd.isSome then [.ends e.path] else []

/-- What the callbacks get of an entry. -/
def atoms (content : List UInt8) : List ZipAtom :=
  e.begins cb ++ (e.target.shows content ++ e.ends cb)

end ZipEntry

/--
The rest of an archive, up to where its reader stops: at the central directory of a complete bundle,
and behind the image of a single-image archive.
-/
inductive ZipArchive (code : List UInt8 → Option (List UInt8)) (bundle : Bool)
    : List UInt8 → Bool → List UInt8 → List ZipAtom → Prop where
  | central {root sig : List UInt8} (hbundle : bundle = true) (hlength : sig.length = 4)
      (hsig : le32 sig 0 = zipCentralSig)
      : ZipArchive code bundle root true sig []
  | image {root body trailer content : List UInt8} {foundBoot : Bool} {e : ZipEntry}
      (hbundle : bundle = false) (hopens : e.Opens bundle root foundBoot)
      (hdata : ZipData code e body trailer content) (htarget : e.target ≠ .none)
      : ZipArchive code bundle root foundBoot (e.opening ++ (body ++ trailer)) (e.atoms cb content)
  | entry {root body trailer content w : List UInt8} {foundBoot : Bool} {e : ZipEntry}
      {o : List ZipAtom} (hopens : e.Opens bundle root foundBoot)
      (hdata : ZipData code e body trailer content) (hmore : bundle = true ∨ e.target = .none)
      (h : ZipArchive code bundle e.root (foundBoot || e.target == .boot) w o)
      : ZipArchive code bundle root foundBoot (e.opening ++ (body ++ (trailer ++ w)))
          (e.atoms cb content ++ o)

end Archives

end ZZRel
