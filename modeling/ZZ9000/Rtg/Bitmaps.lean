import ZZ9000.Resources.Ledger
import ZZ9000.Rtg.Offscreen

/-!
This module contains the hooks of `mntgfx-gcc.c` that place bitmaps in the memory of the card,
`ZZ_AllocBitMap` and `ZZ_FreeBitMap`, and the two that need one of them for the video window,
`ZZ_CreateFeature` and `ZZ_DeleteFeature`.
-/

namespace ZZRtg

structure TagItem where
  tag : UInt32
  data : UInt32

/-- The items of the lists of tags by their addresses. -/
abbrev TagMemory := UInt32 → TagItem

def tagDone : UInt32 := 0
def tagIgnore : UInt32 := 1
def tagMore : UInt32 := 2
def tagSkip : UInt32 := 3

def tagsEnd (memory : TagMemory) (tag : UInt32) : Bool :=
  tag == 0 || (memory tag).tag == tagDone

/-- One turn of a loop over tags: the item, if it is not there for the loop itself, and the rest. -/
def tagTurn (memory : TagMemory) (tag : UInt32) : Option TagItem × UInt32 :=
  let item := memory tag
  if item.tag = tagIgnore then
    (none, tag + 8)
  else if item.tag = tagSkip then
    (none, tag + item.data * 8 + 8)
  else if item.tag = tagMore then
    (none, item.data)
  else
    (some item, tag + 8)

/-- What `ZZ_AllocBitMap` reads from its arguments. -/
structure BitMapRequest where
  width : UInt32
  height : UInt32
  rgbformat : UInt32
  modeWidth : UInt32
  alignment : UInt32
  constantPitch : Bool
  clearRequested : Bool
  deriving DecidableEq, Repr

namespace BitMapRequest

def ofSize (width height : UInt32) : BitMapRequest :=
  ⟨width, height, 1, 0, 0, false, false⟩

/-- `none` if the hook returns at this tag. -/
def applyTag (r : BitMapRequest) (item : TagItem) : Option BitMapRequest :=
  match item.tag with
  | 0x80000002 => some { r with rgbformat := item.data }
  | 0x80000006 => none
  | 0x80000010 => some { r with constantPitch := item.data != 0 }
  | 0x8000000A => some { r with modeWidth := item.data }
  | 0x8000000F => some { r with alignment := item.data }
  | 0x80000011 => if item.data != 0 then none else some r
  | 0x80000016 => if item.data != 0 then none else some r
  | 0x80000013 => if item.data != 0 then none else some r
  | 0x80000012 => if item.data != 0 then none else some r
  | 0x80000003 => some { r with clearRequested := item.data != 0 }
  | _ => some r

/--
The loop over the tags. `none` also stands for a list that has not come to its end after `turns`
turns: the hook has done nothing yet.
-/
def applyTags (memory : TagMemory) (turns : Nat) (tag : UInt32) (r : BitMapRequest)
    : Option BitMapRequest :=
  match turns with
  | 0 => none
  | turns + 1 =>
    if tagsEnd memory tag then
      some r
    else
      match tagTurn memory tag with
      | (none, rest) => applyTags memory turns rest r
      | (some item, rest) =>
        match r.applyTag item with
        | none => none
        | some r => applyTags memory turns rest r

def pitchAlign (r : BitMapRequest) : UInt32 :=
  if offscreenPitchAlign < r.alignment then r.alignment else offscreenPitchAlign

def pitchWidth (r : BitMapRequest) : UInt32 :=
  if r.constantPitch && r.width < r.modeWidth then r.modeWidth else r.width

def rowBytes (r : BitMapRequest) : UInt32 :=
  offscreenPadPitchTo (offscreenBytesPerRow r.rgbformat r.pitchWidth) r.pitchAlign

/-- The checks that come before the memory is looked for. -/
def valid (r : BitMapRequest) : Bool :=
  rgbformatBytesPerPixel r.rgbformat != 0
    && (r.alignment == 0 || offscreenAlignValid r.alignment)
    && r.rowBytes != 0 && r.height != 0 && r.rowBytes ≤ 0xFFFF
    && r.height ≤ 0xFFFFFFFF / r.rowBytes

end BitMapRequest

abbrev BitMapPtr := Nat

/-- The fields of `struct BitMap` that the hooks read or write. -/
structure BitMap where
  bytesPerRow : UInt16
  rows : UInt16
  depth : UInt8
  planes : UInt32
  deriving DecidableEq, Repr

structure ZZBitMap where
  bm : BitMap
  magic : UInt32
  cardOffset : UInt32
  allocationSize : UInt32
  rgbformat : UInt32
  width : UInt16
  height : UInt16
  deriving DecidableEq, Repr

/-- `struct ZZZ2PIPAllocationRequest` -/
structure PipRequest where
  pending : Bool
  pitch : UInt32
  size : UInt32
  width : UInt32
  height : UInt32
  format : UInt32
  deriving DecidableEq, Repr

/-- What `zz_overlay_push` tells the firmware. -/
structure OverlaySet where
  variant : Option UInt8
  offset : UInt32
  pitch : UInt16
  overlay : OverlayState
  deriving DecidableEq, Repr

/-- The commands of these hooks to the card, with the answer of the firmware where they read it. -/
inductive SurfaceOp where
  | allocSurface (size : UInt32) (keep : Bool) (cardOffset : UInt32)
  | freeSurface (cardOffset : UInt32)
  | clear (cardOffset size : UInt32)
  | enableOverlay
  | videoOverlay (set : Option OverlaySet) (status : UInt32)
  deriving DecidableEq, Repr

/-- An `ALLOC` that the firmware answered with 0 has not issued a surface. -/
def SurfaceOp.entry (op : SurfaceOp) : Option (Ledger.Entry UInt32) :=
  match op with
  | .allocSurface _ _ cardOffset => if cardOffset = 0 then none else some (.issue cardOffset)
  | .freeSurface cardOffset => some (.giveBack cardOffset)
  | _ => none

/-- `AllocMem` returns memory that is not in use, or none. -/
structure AllocMem where
  run : List BitMapPtr → Option BitMapPtr
  fresh : ∀ used ptr, run used = some ptr → ptr ∉ used

/-- The board, with whether `AllocBitMap` is set and with `zz_card_window_size`. -/
structure P96Board extends BoardInfo where
  allocBitMap : Bool
  cardWindowSize : UInt32

namespace P96Board

variable (b : P96Board)

def pipOffset : UInt32 := b.cardData CardData.pipOffset
def pipSize : UInt32 := b.cardData CardData.pipSize
def layoutActive : Bool := z2LayoutActive b.toBoardInfo

end P96Board

/--
The variables of the driver that the hooks share. `wire` is what the card was told so far, and
`made` has every bitmap that `ZZ_AllocBitMap` returned, as it was then, with what was asked for.
-/
structure BitmapState where
  bitmaps : List (BitMapPtr × ZZBitMap)
  pipRequest : PipRequest
  pipBitmap : Option BitMapPtr
  overlay : OverlayState
  overlayBitmap : Option BitMapPtr
  p96Base : Bool
  wire : List SurfaceOp
  made : List (BitMapRequest × ZZBitMap)

/-- Where a bitmap is put, and what it is recorded to be. -/
structure Placement where
  bytesPerRow : UInt16
  size : UInt32
  cardOffset : UInt32
  width : UInt32
  height : UInt32
  format : UInt32

namespace BitmapState

variable (b : P96Board)

def start : BitmapState :=
  ⟨[], ⟨false, 0, 0, 0, 0, 0⟩, none, .zero, none, false, [], []⟩

def pointers (s : BitmapState) : List BitMapPtr := s.bitmaps.map Prod.fst

def command (s : BitmapState) (op : SurfaceOp) : BitmapState := { s with wire := s.wire ++ [op] }

/-- `zz_bitmap_ours` -/
def ours (s : BitmapState) (bm : Option BitMapPtr) : Option (BitMapPtr × ZZBitMap) :=
  match bm with
  | none => none
  | some ptr =>
    match s.bitmaps.find? (fun entry => entry.1 == ptr) with
    | none => none
    | some entry =>
      let window := if b.cardWindowSize ≠ 0 then b.cardWindowSize else b.memorySize
      if offscreenRangeIsOurs entry.2.magic entry.2.bm.planes entry.2.allocationSize b.memoryBase
          window then
        some entry
      else
        none

/-- The place in the pool of the Zorro II board. -/
def pipPlacement (s : BitmapState) (r : BitMapRequest) : Option Placement :=
  if !b.layoutActive || !s.pipRequest.pending || s.pipBitmap.isSome || b.pipSize == 0
      || r.height != s.pipRequest.height || 0xFFFF < s.pipRequest.pitch
      || b.pipSize < s.pipRequest.size then
    none
  else
    some ⟨s.pipRequest.pitch.toUInt16, s.pipRequest.size, b.pipOffset, s.pipRequest.width,
      s.pipRequest.height, s.pipRequest.format⟩

def wrapper (p : Placement) : ZZBitMap where
  bm := ⟨p.bytesPerRow, p.height.toUInt16, (rgbformatDepth p.format).toUInt8,
    b.memoryBase + p.cardOffset⟩
  magic := offscreenMagic
  cardOffset := p.cardOffset
  allocationSize := p.size
  rgbformat := p.format
  width := p.width.toUInt16
  height := p.height.toUInt16

/-- `ZZ_AllocBitMap` from `AllocMem` on. -/
def wrap (s : BitmapState) (r : BitMapRequest) (p : Placement) (mem : AllocMem)
    : BitmapState × Option BitMapPtr :=
  match mem.run s.pointers with
  | none => (if b.isZ3 then s.command (.freeSurface p.cardOffset) else s, none)
  | some ptr =>
    let s := if b.isZ3 then s else s.command (.clear p.cardOffset p.size)
    let zbm := wrapper b p
    ({ s with
        bitmaps := (ptr, zbm) :: s.bitmaps
        pipBitmap := if b.isZ3 then s.pipBitmap else some ptr
        made := s.made ++ [(r, zbm)] },
      some ptr)

/-- `ZZ_AllocBitMap` after its tags. `cardOffset` is the answer of the firmware. -/
def allocBitMap (s : BitmapState) (r : BitMapRequest) (cardOffset : UInt32) (mem : AllocMem)
    : BitmapState × Option BitMapPtr :=
  if !r.valid then
    (s, none)
  else if b.isZ3 then
    let size := r.rowBytes * r.height
    let s := s.command (.allocSurface size (!r.clearRequested) cardOffset)
    if cardOffset = 0 then
      (s, none)
    else
      s.wrap b r ⟨r.rowBytes.toUInt16, size, cardOffset, r.width, r.height, r.rgbformat⟩ mem
  else
    match s.pipPlacement b r with
    | none => (s, none)
    | some p => s.wrap b r p mem

/-- `ZZ_FreeBitMap` -/
def freeBitMap (s : BitmapState) (bm : Option BitMapPtr) : BitmapState × Bool :=
  match s.ours b bm with
  | none => (s, false)
  | some (ptr, zbm) =>
    let s := { s with bitmaps := s.bitmaps.eraseP (fun entry => entry.1 == ptr) }
    if b.isZ3 then
      (s.command (.freeSurface zbm.cardOffset), true)
    else if b.layoutActive && zbm.cardOffset == b.pipOffset then
      (if s.pipBitmap = some ptr then { s with pipBitmap := none } else s, true)
    else
      (s, true)

end BitmapState

/-- A hook that P96 may call at any time, also while the driver has called P96. -/
inductive BitmapHook where
  | allocBitMap (width height : UInt32) (memory : TagMemory) (tags : UInt32) (turns : Nat)
      (cardOffset : UInt32) (mem : AllocMem)
  | freeBitMap (bm : Option BitMapPtr)

namespace BitmapState

variable (b : P96Board)

def hook (s : BitmapState) (call : BitmapHook) : BitmapState :=
  match call with
  | .allocBitMap width height memory tags turns cardOffset mem =>
    match (BitMapRequest.ofSize width height).applyTags memory turns tags with
    | none => s
    | some r => (s.allocBitMap b r cardOffset mem).1
  | .freeBitMap bm => (s.freeBitMap b bm).1

def hooks (s : BitmapState) (calls : List BitmapHook) : BitmapState :=
  calls.foldl (hook b) s

/-- The fields of a bitmap that may be one of ours; `foreign` is what is there otherwise. -/
def bitMapAt (s : BitmapState) (ptr : BitMapPtr) (foreign : BitMap) : BitMap :=
  match s.bitmaps.find? (fun entry => entry.1 == ptr) with
  | none => foreign
  | some entry => entry.2.bm

def storeBytesPerRow (ptr : BitMapPtr) (bytesPerRow : UInt16) (entry : BitMapPtr × ZZBitMap)
    : BitMapPtr × ZZBitMap :=
  if entry.1 = ptr then
    (ptr, { entry.2 with bm := { entry.2.bm with bytesPerRow := bytesPerRow } })
  else
    entry

/-- A store to `BytesPerRow`, which is memory of the driver if the bitmap is one of ours. -/
def setBytesPerRow (s : BitmapState) (ptr : BitMapPtr) (bytesPerRow : UInt16) : BitmapState :=
  { s with bitmaps := s.bitmaps.map (storeBytesPerRow ptr bytesPerRow) }

/-- Give the bitmap of the pool back, if there is one. -/
def reclaimPip (s : BitmapState) : BitmapState :=
  match s.pipBitmap with
  | none => s
  | some ptr => (s.freeBitMap b (some ptr)).1

/-- `zz_overlay_free_source`; `freed` is what `p96FreeBitMap` calls. -/
def overlayFreeSource (s : BitmapState) (freed : List BitmapHook) : BitmapState :=
  let s := { s with pipRequest := { s.pipRequest with pending := false } }
  match s.overlayBitmap with
  | none => s
  | some _ => { s.hooks b freed with overlayBitmap := none }.reclaimPip b

/-- `zz_overlay_push`, with the answer of the firmware and what there is to show. -/
def overlayPush (s : BitmapState) (bm : Option BitMap) (status : UInt32) : BitmapState × UInt32 :=
  if b.cardData CardData.gfxData = 0 then
    (s, 1)
  else
    let set := bm.map fun bm =>
      ⟨overlayVariant s.overlay.rgbformat, bm.planes - b.memoryBase, bm.bytesPerRow, s.overlay⟩
    (s.command (.videoOverlay set status), status)

end BitmapState

/-- What P96 and the firmware do during a call of `ZZ_CreateFeature` or `ZZ_DeleteFeature`. -/
structure FeatureEnv where
  openLibrary : Bool
  allocated : List BitmapHook
  source : Option BitMapPtr
  foreign : BitMap
  status : UInt32
  freed : List BitmapHook

def sftMemoryWindow : UInt32 := 4

namespace BitmapState

variable (b : P96Board)

/-- The loop over the tags of `ZZ_CreateFeature`, with its `guard`. -/
def overlayTags (memory : TagMemory) (guard : Nat) (tag : UInt32) (st : OverlayState)
    : OverlayState :=
  match guard with
  | 0 => st
  | guard + 1 =>
    if tagsEnd memory tag then
      st
    else
      match tagTurn memory tag with
      | (none, rest) => overlayTags memory guard rest st
      | (some item, rest) => overlayTags memory guard rest (st.applyTag item.tag item.data)

/-- The request for the pool, which only the Zorro II board has. -/
def requestPip (s : BitmapState) : Option BitmapState :=
  if b.isZ3 then
    some s
  else
    let srcW := s.overlay.srcW.toUInt32
    let srcH := s.overlay.srcH.toUInt32
    match overlaySurfaceSize srcW srcH with
    | none => none
    | some size =>
      if b.pipSize < size then
        none
      else
        some { s with
          pipRequest :=
            ⟨s.pipRequest.pending, overlayLineBytes srcW, size, srcW, srcH, s.overlay.rgbformat⟩ }

/-- The source is in the memory of the card, and on the Zorro II board at the pool. -/
def sourceOnBoard (s : BitmapState) (bm : BitMap) (allocatedPitch : UInt16) : Bool :=
  let pitch := allocatedPitch.toUInt32
  let srcH := s.overlay.srcH.toUInt32
  pitch != 0 && srcH ≤ 0xFFFFFFFF / pitch
    && offscreenRangeWithin bm.planes (pitch * srcH) b.memoryBase b.cardWindowSize
    && (b.isZ3 || bm.planes == b.memoryBase + b.pipOffset)

/-- `ZZ_CreateFeature` once P96 has returned a source. -/
def showSource (s : BitmapState) (ptr : BitMapPtr) (env : FeatureEnv) : BitmapState × Bool :=
  let bm := s.bitMapAt ptr env.foreign
  match overlayTightenPitch s.overlay.srcW.toUInt32 bm.bytesPerRow with
  | none => (s.overlayFreeSource b env.freed, false)
  | some pitch =>
    let s := s.setBytesPerRow ptr pitch
    if !s.sourceOnBoard b bm bm.bytesPerRow then
      (s.overlayFreeSource b env.freed, false)
    else
      let s := s.command .enableOverlay
      let s := { s with overlay := { s.overlay with magic := overlayMagic } }
      match s.overlayPush b (some { bm with bytesPerRow := pitch }) env.status with
      | (s, status) =>
        if status = 0 then
          (s, true)
        else
          ({ s with overlay := { s.overlay with magic := 0 } }.overlayFreeSource b env.freed, false)

/-- `ZZ_CreateFeature` from `p96AllocBitMap` on. -/
def createSource (s : BitmapState) (env : FeatureEnv) : BitmapState × Bool :=
  let s :=
    if b.isZ3 then s else { s with pipRequest := { s.pipRequest with pending := true } }
  let s := s.hooks b env.allocated
  let s :=
    { s with
      overlayBitmap := env.source, pipRequest := { s.pipRequest with pending := false } }
  match env.source with
  | none => (s.reclaimPip b, false)
  | some ptr => s.showSource b ptr env

/-- `ZZ_CreateFeature`: whether it returns a feature. -/
def createFeature (s : BitmapState) (type : UInt32) (memory : TagMemory) (tags : UInt32)
    (env : FeatureEnv) : BitmapState × Bool :=
  if type ≠ sftMemoryWindow then
    (s, false)
  else if s.overlayBitmap.isSome then
    (s, false)
  else if !b.allocBitMap
      || (!b.isZ3 && (!b.layoutActive || b.pipSize == 0 || b.cardData CardData.gfxData == 0)) then
    (s, false)
  else
    let s := { s with overlay := overlayTags memory 64 tags .zero }
    let srcW := s.overlay.srcW.toUInt32
    if !overlaySourceValid srcW s.overlay.srcH.toUInt32 s.overlay.rgbformat then
      (s, false)
    else
      match s.requestPip b with
      | none => (s, false)
      | some s =>
        let s := { s with p96Base := s.p96Base || env.openLibrary }
        if !s.p96Base then
          (s, false)
        else if overlayFriendWidth srcW (rgbformatBytesPerPixel b.rgbFormat) = 0 then
          (s, false)
        else
          s.createSource b env

/-- `zz_overlay_cookie_ok`, of the address of the feature record or of another one. -/
def overlayCookieOk (s : BitmapState) (cookie : Bool) : Bool :=
  cookie && s.overlay.magic == overlayMagic && s.overlayBitmap.isSome

/-- `ZZ_DeleteFeature` -/
def deleteFeature (s : BitmapState) (type : UInt32) (cookie : Bool) (env : FeatureEnv)
    : BitmapState × Bool :=
  if type ≠ sftMemoryWindow ∨ !s.overlayCookieOk cookie then
    (s, false)
  else
    let s := (s.overlayPush b none env.status).1
    ({ s with overlay := { s.overlay with magic := 0 } }.overlayFreeSource b env.freed, true)

end BitmapState

inductive BitmapCall where
  | hook (call : BitmapHook)
  | createFeature (type : UInt32) (memory : TagMemory) (tags : UInt32) (env : FeatureEnv)
  | deleteFeature (type : UInt32) (cookie : Bool) (env : FeatureEnv)

namespace BitmapState

variable (b : P96Board)

def call (s : BitmapState) (c : BitmapCall) : BitmapState :=
  match c with
  | .hook c => s.hook b c
  | .createFeature type memory tags env => (s.createFeature b type memory tags env).1
  | .deleteFeature type cookie env => (s.deleteFeature b type cookie env).1

def calls (s : BitmapState) (cs : List BitmapCall) : BitmapState :=
  cs.foldl (call b) s

end BitmapState

end ZZRtg
