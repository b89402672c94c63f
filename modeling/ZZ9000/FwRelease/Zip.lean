import ZZ9000.FwRelease.Checksum
import ZZ9000.Streams.Decoder
import ZZ9000.Streams.Reader

/-!
This module contains the streaming ZIP readers of `fw_release.c`. The inflater is a parameter.
-/

namespace ZZRel

open Streams

def zipLocalSig : UInt32 := 0x04034b50
def zipCentralSig : UInt32 := 0x02014b50
def zipDescriptorSig : UInt32 := 0x08074b50
def zipLocalBytes : Nat := 30
def zipFlagEncrypted : UInt16 := 0x0001
def zipFlagDescriptor : UInt16 := 0x0008
def zipMethodStore : UInt16 := 0
def zipMethodDeflate : UInt16 := 8

def bootMinBytes : Nat := 65536
def bootMaxBytes : Nat := 32 * 1024 * 1024
def bootHeaderBytes : Nat := 0x28
def moduleHeaderBytes : Nat := 128

/-- `ULONG_MAX` of the target. -/
def ulongMax : Nat := 0xffffffff

def tinflLzDictSize : Nat := 32768

inductive ZipState where
  | header
  | name
  | skip
  | data
  | descriptor
  | finished
deriving DecidableEq, Repr

inductive ZipTarget where
  | none
  | boot
  | zzm
deriving DecidableEq, Repr

inductive ZipResult where
  | more
  | done
  | errFormat
  | errUnsupported
  | errNotFound
  | errInflate
  | errCrc
  | errSize
  | errHeader
  | errWrite
  | errModule
deriving DecidableEq, Repr

def le16 (p : List UInt8) (i : Nat) : UInt16 :=
  (p.getD i 0).toUInt16 ||| ((p.getD (i + 1) 0).toUInt16 <<< 8)

def le32 (p : List UInt8) (i : Nat) : UInt32 :=
  (p.getD i 0).toUInt32 ||| ((p.getD (i + 1) 0).toUInt32 <<< 8)
    ||| ((p.getD (i + 2) 0).toUInt32 <<< 16) ||| ((p.getD (i + 3) 0).toUInt32 <<< 24)

def bootHeaderOk (head : List UInt8) : Bool :=
  bootHeaderBytes ≤ head.length && (head.drop 0x20).take 4 == [0x66, 0x55, 0x99, 0xaa]
    && (head.drop 0x24).take 4 == [0x58, 0x4e, 0x4c, 0x58]

section Names

def slash : UInt8 := 47
def backslash : UInt8 := 92
def dot : UInt8 := 46

/-- `BOOT.bin` -/
def bootName : List UInt8 := [66, 79, 79, 84, 46, 98, 105, 110]

/-- `.ZZM` -/
def moduleSuffix : List UInt8 := [46, 90, 90, 77]

/-- `ZZ9K/` -/
def moduleDir : List UInt8 := [90, 90, 57, 75, 47]

/-- The string in an array of characters. -/
def cString (name : List UInt8) : List UInt8 := name.takeWhile (· ≠ 0)

/-- The parts before and after the first of a character, `strchr`. -/
def strchr (s : List UInt8) (c : UInt8) : Option (List UInt8 × List UInt8) :=
  match s with
  | [] => none
  | x :: s =>
    if x = c then
      some ([], s)
    else
      (strchr s c).map fun parts => (x :: parts.1, parts.2)

/-- `BOOT.bin` at the root or inside exactly one directory. -/
def isTargetName (name : List UInt8) : Bool :=
  match strchr name slash with
  | none => name == bootName
  | some (dir, rest) => dir != [] && (strchr rest slash).isNone && rest == bootName

def moduleNameChar (c : UInt8) : Bool := (65 ≤ c && c ≤ 90) || (48 ≤ c && c ≤ 57) || c == 95

def moduleNameOk (name : List UInt8) : Bool :=
  let len := name.length
  if len < 5 ∨ 12 < len ∨ name.drop (len - 4) ≠ moduleSuffix then
    false
  else
    (name.take (len - 4)).all moduleNameChar

theorem eq_of_strchr {s before after : List UInt8} {c : UInt8}
    (h : strchr s c = some (before, after))
    : s = before ++ c :: after ∧ c ∉ before := by
  induction s generalizing before with
  | nil => contradiction
  | cons x s ih =>
    unfold strchr at h
    split at h
    . next heq =>
      rw [Option.some.injEq, Prod.mk.injEq] at h
      rw [← h.1, ← h.2, heq]
      exact ⟨rfl, List.not_mem_nil⟩
    . next hne =>
      rw [Option.map_eq_some_iff] at h
      obtain ⟨⟨first, rest⟩, hparts, heq⟩ := h
      rw [Prod.mk.injEq] at heq
      obtain ⟨hbefore, hafter⟩ := heq
      dsimp only at hbefore hafter
      rw [hafter] at hparts
      obtain ⟨hs, hno⟩ := ih hparts
      rw [← hbefore, hs]
      refine ⟨rfl, ?_⟩
      rw [List.mem_cons, not_or]
      exact ⟨fun h => hne h.symm, hno⟩

/-- The loop of `safe_bundle_path` over the parts of the path. -/
def safeParts (part : List UInt8) : Bool :=
  if part = [] then
    false
  else
    match _h : strchr part slash with
    | none => part != [dot] && part != [dot, dot]
    | some (component, rest) =>
      if component = [] ∨ component = [dot] ∨ component = [dot, dot] then
        false
      else if rest = [] then
        true
      else
        safeParts rest
termination_by part.length
decreasing_by
  rw [(eq_of_strchr _h).1, List.length_append, List.length_cons]
  omega

def safeBundlePath (name : List UInt8) : Bool :=
  match name with
  | [] => false
  | c :: _ => c != slash && (strchr name backslash).isNone && safeParts name

end Names

/-- The loop over the name in a module header. -/
def titleLoop (i : Nat) (terminated : Bool) (title : List UInt8) : Bool :=
  match title with
  | [] => terminated
  | c :: title =>
    if c = 0 then
      if i = 0 then false else titleLoop (i + 1) true title
    else if terminated || !moduleNameChar c then
      false
    else
      titleLoop (i + 1) terminated title

/-- The size of the image, if the header is valid. -/
def moduleHeaderOk (head : List UInt8) : Option UInt32 :=
  if head.take 4 ≠ [90, 90, 77, 49] ∨ le16 head 4 ≠ 128 ∨ le16 head 6 ≠ 1 then
    none
  else if ¬titleLoop 0 false ((head.drop 36).take 16) then
    none
  else if ((head.drop 84).take (moduleHeaderBytes - 84)).any (· ≠ 0) then
    none
  else if le32 head 24 ≤ 0xffffffff - 128 then
    some (le32 head 24)
  else
    none

section Reader

/-- What is known of the content of an entry. -/
structure ZipContent where
  crc : UInt32
  outTotal : Nat
  head : List UInt8
  sha256 : Sha256
  moduleImageSize : UInt32
  moduleHeaderOk : Bool

/-- `struct fwrel_zip` -/
structure Zip (ι : Type) where
  state : ZipState
  result : ZipResult
  bundle : Bool
  hdr : List UInt8
  hdrNeed : Nat
  name : List UInt8
  entryName : List UInt8
  root : List UInt8
  flags : UInt16
  method : UInt16
  crcExpected : UInt32
  csize : UInt32
  usize : UInt32
  nameLen : UInt16
  extraLen : UInt16
  skip : Nat
  target : ZipTarget
  foundBoot : Bool
  content : ZipContent
  inflater : ι
  dictOfs : Nat

/-- A call of one of the callbacks. -/
inductive ZipEvent where
  | begins (path : List UInt8)
  | sinks (data : List UInt8)
  | ends (path : List UInt8)
deriving DecidableEq, Repr

/-- The callbacks, which fail or not by what has happened so far. -/
structure ZipCallbacks where
  sink : List ZipEvent → List UInt8 → Bool
  onBegin : Option (List ZipEvent → List UInt8 → Bool)
  onEnd : Option (List ZipEvent → List UInt8 → Bool)

structure ZipRun (ι : Type) where
  zip : Zip ι
  log : List ZipEvent

variable {ι : Type} (D : Decoder ι UInt8 UInt8) (cb : ZipCallbacks)

def zipNew (bundle : Bool) : Zip ι where
  state := .header
  result := .more
  bundle
  hdr := []
  hdrNeed := zipLocalBytes
  name := []
  entryName := []
  root := []
  flags := 0
  method := 0
  crcExpected := 0
  csize := 0
  usize := 0
  nameLen := 0
  extraLen := 0
  skip := 0
  target := .none
  foundBoot := false
  content := {
    crc := 0, outTotal := 0, head := [], sha256 := .init, moduleImageSize := 0,
    moduleHeaderOk := false
  }
  inflater := D.init
  dictOfs := 0

def ZipRun.fail (r : ZipRun ι) (result : ZipResult) : ZipRun ι :=
  { r with zip := { r.zip with result, state := .finished } }

def ZipRun.begins (r : ZipRun ι) (path : List UInt8) : Bool × ZipRun ι :=
  match cb.onBegin with
  | none => (false, r)
  | some fails => (fails r.log path, { r with log := r.log ++ [.begins path] })

def ZipRun.ends (r : ZipRun ι) (path : List UInt8) : Bool × ZipRun ι :=
  match cb.onEnd with
  | none => (false, r)
  | some fails => (fails r.log path, { r with log := r.log ++ [.ends path] })

/-- The selected entry kind, none for an unsafe path. -/
def bundleTargetName (z : Zip ι) : Option ZipTarget × Zip ι :=
  let name := cString z.name
  if ¬safeBundlePath name then
    (none, z)
  else
    match strchr name slash with
    | none => (none, z)
    | some (dir, rest) =>
      if z.root ≠ [] ∧ z.root ≠ dir then
        (none, z)
      else
        let z := if z.root = [] then { z with root := dir } else z
        if rest = [] then
          (some .none, z)
        else
          match strchr rest slash with
          | none =>
            if rest ≠ bootName then
              (some .none, z)
            else if z.foundBoot then
              (none, z)
            else
              (some .boot, { z with entryName := bootName })
          | some _ =>
            if rest.take 5 ≠ moduleDir then
              (none, z)
            else
              let rest := rest.drop 5
              if rest = [] then
                (some .none, z)
              else if (strchr rest slash).isSome ∨ ¬moduleNameOk rest then
                (none, z)
              else
                (some .zzm, { z with entryName := moduleDir ++ rest })

/-- The part of `zip_output` for the bytes behind a module header, `image` of `len` bytes. -/
def ZipContent.addImage (c : ZipContent) (len : Nat) (image : List UInt8)
    : Option ZipResult × ZipContent :=
  if ¬c.moduleHeaderOk then
    (none, c)
  else if moduleHeaderBytes + c.moduleImageSize.toNat < c.outTotal + len then
    (some .errSize, c)
  else if image ≠ [] then
    (none, { c with sha256 := c.sha256.update image })
  else
    (none, c)

/-- `zip_output` up to the call of the sink, with the error if there is one. -/
def ZipContent.add (c : ZipContent) (target : ZipTarget) (data : List UInt8)
    : Option ZipResult × ZipContent :=
  let c := { c with crc := crc32Update c.crc data }
  match target with
  | .none => (none, c)
  | .boot =>
    let c :=
      if c.outTotal < bootHeaderBytes then
        { c with head := c.head.take c.outTotal ++ data.take (bootHeaderBytes - c.outTotal) }
      else
        c
    (if bootMaxBytes < c.outTotal + data.length then some .errSize else none, c)
  | .zzm =>
    if c.outTotal < moduleHeaderBytes then
      let n := min (moduleHeaderBytes - c.outTotal) data.length
      let c := { c with head := c.head.take c.outTotal ++ data.take n }
      if c.outTotal + n = moduleHeaderBytes then
        match ZZRel.moduleHeaderOk c.head with
        | none => (some .errModule, c)
        | some size =>
          { c with moduleImageSize := size, moduleHeaderOk := true, sha256 := .init }.addImage
            data.length (data.drop n)
      else
        c.addImage data.length (data.drop n)
    else
      c.addImage data.length data

/-- Emit inflated or stored bytes of the current entry. -/
def zipOutput (r : ZipRun ι) (data : List UInt8) : Option ZipResult × ZipRun ι :=
  if data = [] then
    (none, r)
  else if ulongMax - r.zip.content.outTotal < data.length then
    (some .errSize, r)
  else
    let (error, content) := r.zip.content.add r.zip.target data
    let total := { content with outTotal := content.outTotal + data.length }
    match error with
    | some result => (some result, { r with zip := { r.zip with content } })
    | none =>
      if r.zip.target = .none then
        (none, { r with zip := { r.zip with content := total } })
      else
        let log := r.log ++ [.sinks data]
        if cb.sink r.log data then
          (some .errWrite, { zip := { r.zip with content }, log })
        else
          (none, { zip := { r.zip with content := total }, log })

/-- The checks of `zip_entry_done`. -/
def Zip.entryError (z : Zip ι) : Option ZipResult :=
  let c := z.content
  if c.crc ≠ z.crcExpected then
    some .errCrc
  else if c.outTotal ≠ z.usize.toNat then
    some .errSize
  else
    match z.target with
    | .none => none
    | .boot =>
      if c.outTotal < bootMinBytes then
        some .errSize
      else if ¬bootHeaderOk (c.head.take bootHeaderBytes) then
        some .errHeader
      else
        none
    | .zzm =>
      if ¬c.moduleHeaderOk then
        some .errModule
      else if c.outTotal ≠ moduleHeaderBytes + c.moduleImageSize.toNat then
        some .errSize
      else if c.sha256.final ≠ (c.head.drop 52).take 32 then
        some .errModule
      else
        none

/-- The entry's data is complete: verify it, then finish or move on. -/
def zipEntryDone (r : ZipRun ι) : ZipResult × ZipRun ι :=
  match r.zip.entryError with
  | some result => (result, r.fail result)
  | none =>
    let z := if r.zip.target = .boot then { r.zip with foundBoot := true } else r.zip
    let r := { r with zip := z }
    let (fails, r) := if z.target = .none then (false, r) else r.ends cb z.entryName
    if fails then
      (.errWrite, r.fail .errWrite)
    else if z.target ≠ .none ∧ ¬z.bundle then
      (.done, r.fail .done)
    else
      let z := { r.zip with state := .header, hdr := [], hdrNeed := zipLocalBytes }
      (.more, { r with zip := z })

/-- The target of the entry, none for a name that must not be in the archive. -/
def entryTarget (z : Zip ι) : Option ZipTarget × Zip ι :=
  if z.bundle then
    bundleTargetName z
  else
    (some (if isTargetName (cString z.name) then .boot else .none), z)

/-- The part of `zip_begin_entry` behind the choice of the target. -/
def zipBeginData (r : ZipRun ι) : ZipResult × ZipRun ι :=
  let z := r.zip
  let descriptor := z.flags &&& zipFlagDescriptor ≠ 0
  if z.flags &&& zipFlagEncrypted ≠ 0 then
    (.errUnsupported, r.fail .errUnsupported)
  else if ¬descriptor ∧ (z.csize = 0xffffffff ∨ z.usize = 0xffffffff) then
    -- ZIP64
    (.errUnsupported, r.fail .errUnsupported)
  else
    let (fails, r) := if z.target = .none then (false, r) else r.begins cb z.entryName
    if fails then
      (.errWrite, r.fail .errWrite)
    else if z.method = zipMethodDeflate then
      (.more, { r with zip := { r.zip with inflater := D.init, dictOfs := 0, state := .data } })
    else if z.method ≠ zipMethodStore ∨ descriptor then
      (.errUnsupported, r.fail .errUnsupported)
    else if z.csize ≠ z.usize then
      (.errFormat, r.fail .errFormat)
    else if z.target = .none ∧ z.usize = 0 then
      zipEntryDone cb r
    else
      let skip := z.csize.toNat
      if z.target = .none then
        -- skipped bytes are not checked
        let content := { r.zip.content with crc := r.zip.crcExpected }
        (.more, { r with zip := { r.zip with skip, state := .skip, content } })
      else
        (.more, { r with zip := { r.zip with skip, state := .data } })

/-- The local header and name are in; set up the entry's data phase. -/
def zipBeginEntry (r : ZipRun ι) : ZipResult × ZipRun ι :=
  let (target, z) := entryTarget r.zip
  match target with
  | none => (.errFormat, { r with zip := z }.fail .errFormat)
  | some target =>
    let content := { z.content with crc := 0, outTotal := 0, moduleHeaderOk := false }
    zipBeginData D cb { r with zip := { z with target, content } }

/-- Copy header bytes until `hdr_need` are present. -/
def Zip.collect (z : Zip ι) (data : List UInt8) : Nat × Zip ι :=
  let n := min (z.hdrNeed - z.hdr.length) data.length
  (n, { z with hdr := z.hdr ++ data.take n })

/-- Go on after the entry, or return its result. -/
def afterEntry (used : Nat) (r : ZipResult × ZipRun ι) : Round (ZipRun ι) ZipResult :=
  if r.1 ≠ .more then .stops r.2.zip.result r.2 else .goes used r.2

def headerRound (r : ZipRun ι) (data : List UInt8) : Round (ZipRun ι) ZipResult :=
  let (n, z) := r.zip.collect data
  if r.zip.hdr.length < 4 then
    if 4 ≤ z.hdr.length ∧ le32 z.hdr 0 = zipCentralSig then
      if z.bundle ∧ z.foundBoot then
        .stops .done ({ r with zip := z }.fail .done)
      else
        .stops .errNotFound ({ r with zip := z }.fail .errNotFound)
    else if 4 ≤ z.hdr.length ∧ le32 z.hdr 0 ≠ zipLocalSig then
      .stops .errFormat ({ r with zip := z }.fail .errFormat)
    else
      .goes n { r with zip := z }
  else if z.hdr.length < z.hdrNeed then
    .goes n { r with zip := z }
  else
    let z : Zip ι := { z with
      flags := le16 z.hdr 6
      method := le16 z.hdr 8
      crcExpected := le32 z.hdr 14
      csize := le32 z.hdr 18
      usize := le32 z.hdr 22
      nameLen := le16 z.hdr 26
      extraLen := le16 z.hdr 28 }
    if z.nameLen = 0 ∨ 256 ≤ z.nameLen.toNat then
      .stops .errFormat ({ r with zip := z }.fail .errFormat)
    else
      let z := { z with
        hdr := [], skip := z.nameLen.toNat + z.extraLen.toNat, state := .name }
      .goes n { r with zip := z }

def nameRound (r : ZipRun ι) (data : List UInt8) : Round (ZipRun ι) ZipResult :=
  let z := r.zip
  let n := min data.length z.skip
  let consumed := z.nameLen.toNat + z.extraLen.toNat - z.skip
  let name :=
    if consumed < z.nameLen.toNat then
      z.name.take consumed ++ data.take (min (z.nameLen.toNat - consumed) n)
    else
      z.name
  let z := { z with name, skip := z.skip - n }
  if z.skip ≠ 0 then
    .goes n { r with zip := z }
  else
    let (result, r) := zipBeginEntry D cb { r with zip := z }
    if result ≠ .more ∨ r.zip.state = .finished then .stops r.zip.result r else .goes n r

def skipRound (r : ZipRun ι) (data : List UInt8) : Round (ZipRun ι) ZipResult :=
  let z := r.zip
  let n := min data.length z.skip
  let z := { z with skip := z.skip - n }
  if z.skip ≠ 0 then
    .goes n { r with zip := z }
  else
    let content := { z.content with outTotal := z.usize.toNat }
    afterEntry n (zipEntryDone cb { r with zip := { z with content } })

def storedRound (r : ZipRun ι) (data : List UInt8) : Round (ZipRun ι) ZipResult :=
  if data = [] then
    .waits r
  else
    let n := min data.length r.zip.skip
    let (error, r) := zipOutput cb r (data.take n)
    match error with
    | some result => .stops result (r.fail result)
    | none =>
      let r := { r with zip := { r.zip with skip := r.zip.skip - n } }
      if r.zip.skip ≠ 0 then .goes n r else afterEntry n (zipEntryDone cb r)

def inflateRound (r : ZipRun ι) (data : List UInt8) : Round (ZipRun ι) ZipResult :=
  let d := D.decode r.zip.inflater data r.zip.dictOfs
  let r := { r with zip := { r.zip with inflater := d.state } }
  if d.status = .failed then
    .stops .errInflate (r.fail .errInflate)
  else
    let (error, r) := zipOutput cb r d.output
    match error with
    | some result => .stops result (r.fail result)
    | none =>
      let dictOfs := (r.zip.dictOfs + d.output.length) &&& (tinflLzDictSize - 1)
      let r := { r with zip := { r.zip with dictOfs } }
      if d.status = .done then
        if r.zip.flags &&& zipFlagDescriptor ≠ 0 then
          .goes d.read
            { r with zip := { r.zip with hdr := [], hdrNeed := 12, state := .descriptor } }
        else
          afterEntry d.read (zipEntryDone cb r)
      else if d.status = .needsMoreInput then
        if data.drop d.read = [] then
          .waits r
        else if d.read = 0 ∧ d.output = [] then
          .stops .errInflate (r.fail .errInflate)
        else
          .goes d.read r
      else
        .goes d.read r

def descriptorRound (r : ZipRun ι) (data : List UInt8) : Round (ZipRun ι) ZipResult :=
  let (n, z) := r.zip.collect data
  if z.hdr.length < z.hdrNeed then
    .goes n { r with zip := z }
  else if z.hdrNeed = 12 ∧ le32 z.hdr 0 = zipDescriptorSig then
    -- 16 bytes with the signature, 12 without
    .goes n { r with zip := { z with hdrNeed := 16 } }
  else
    let d := if z.hdrNeed = 16 then 4 else 0
    let z := { z with crcExpected := le32 z.hdr d, usize := le32 z.hdr (d + 8) }
    afterEntry n (zipEntryDone cb { r with zip := z })

/-- A round of the loop of `fwrel_zip_feed`. -/
def zipRound (r : ZipRun ι) (data : List UInt8) : Round (ZipRun ι) ZipResult :=
  if r.zip.state = .finished then
    .stops r.zip.result r
  else if data = [] ∧ r.zip.state ≠ .data then
    .waits r
  else
    match r.zip.state with
    | .header => headerRound r data
    | .name => nameRound D cb r data
    | .skip => skipRound cb r data
    | .data =>
      if r.zip.method = zipMethodStore then storedRound cb r data else inflateRound D cb r data
    | .descriptor => descriptorRound cb r data
    | .finished => .stops r.zip.result r

end Reader

end ZZRel
