import ZZ9000.Rtg.Blitter

/-!
This module contains the cached register writes of `mntgfx-gcc.c` and `blitter_cache.h`, runs of the
hooks of a Zorro II board with and without the caches, and what the operand registers hold whenever
an operation is triggered.
-/

namespace ZZRtg

open DriverOp

/-- `struct BlitterRegisterCache` -/
structure BlitterRegisterCache where
  registers : UInt32
  valid : UInt32
  srcPitch : UInt16
  user1 : UInt16
  user2 : UInt16
  rgb2 : UInt32

namespace BlitterRegisterCache

def srcPitchBit : UInt32 := 1
def user1Bit : UInt32 := 2
def user2Bit : UInt32 := 4
def rgb2Bit : UInt32 := 8

/-- `blitter_cache_reset` -/
def zero : BlitterRegisterCache := ⟨0, 0, 0, 0, 0, 0⟩

def select (cache : BlitterRegisterCache) (registers : UInt32) : BlitterRegisterCache :=
  if cache.registers ≠ registers then
    { cache with registers := registers, valid := 0 }
  else
    cache

def invalidate (cache : BlitterRegisterCache) (registers bits : UInt32) : BlitterRegisterCache :=
  let cache := cache.select registers
  { cache with valid := cache.valid &&& ~~~bits }

def srcPitchWriteNeeded (cache : BlitterRegisterCache) (registers : UInt32) (value : UInt16)
    : BlitterRegisterCache × Bool :=
  let cache := cache.select registers
  ({ cache with srcPitch := value, valid := cache.valid &&& ~~~srcPitchBit }, true)

/-- `blitter_cache_write16_needed` and `blitter_cache_write32_needed` -/
def writeNeeded {β : Type} [DecidableEq β] (cache : BlitterRegisterCache) (registers bit : UInt32)
    (slot : BlitterRegisterCache → β) (setSlot : BlitterRegisterCache → β → BlitterRegisterCache)
    (value : β) : BlitterRegisterCache × Bool :=
  let cache := cache.select registers
  if cache.valid &&& bit = 0 ∨ slot cache ≠ value then
    let cache := setSlot cache value
    ({ cache with valid := cache.valid ||| bit }, true)
  else
    (cache, false)

def user1WriteNeeded (cache : BlitterRegisterCache) (registers : UInt32) (value : UInt16)
    : BlitterRegisterCache × Bool :=
  cache.writeNeeded registers user1Bit (·.user1) (fun c v => { c with user1 := v }) value

def user2WriteNeeded (cache : BlitterRegisterCache) (registers : UInt32) (value : UInt16)
    : BlitterRegisterCache × Bool :=
  cache.writeNeeded registers user2Bit (·.user2) (fun c v => { c with user2 := v }) value

def rgb2WriteNeeded (cache : BlitterRegisterCache) (registers value : UInt32)
    : BlitterRegisterCache × Bool :=
  cache.writeNeeded registers rgb2Bit (·.rgb2) (fun c v => { c with rgb2 := v }) value

end BlitterRegisterCache

/-- What the driver remembers: the `static` variable `old` of each helper, and the register cache. -/
structure DriverCaches where
  old16 : Operand16 → UInt16
  old32 : Operand32 → UInt32
  registerCache : BlitterRegisterCache

/-- The caches when the driver is loaded. -/
def DriverCaches.load : DriverCaches where
  old16 := fun operand => if operand = .colorMode then colorMode32bit else 0
  old32 := fun _ => 0
  registerCache := .zero

/-- A store of 16 bits. -/
abbrev WordStore := Nat × UInt16

namespace DriverOp

def word32 (reg : Nat) (value : UInt32) : List WordStore :=
  [(reg, (value >>> 16).toUInt16), (reg + 2, value.toUInt16)]

/-- The stores to registers without the caches. -/
def stores (op : DriverOp) : List WordStore :=
  match op with
  | zzwrite16 reg value => [(reg, value)]
  | zzwrite32 reg value => word32 reg value
  | writeBlitter16 operand value => [(operand.reg, value)]
  | writeBlitter32 operand value => word32 operand.reg value
  | writeBlitterSrcPitch srcpitch => [(Regs.blitterSrcPitch, srcpitch)]
  | writeBlitterRGB2 color => word32 Regs.blitterRgb2Hi color
  | writeBlitterUser1 value => [(Regs.blitterUser1, value)]
  | writeBlitterUser2 value => [(Regs.blitterUser2, value)]
  | selectCardFeature feature => [(Regs.blitterUser1, feature)]
  | writeGfxData _ _ => []
  | stage _ _ => []

/-- Whether the stores are needed, with the caches after the call. -/
def needed (registers : UInt32) (op : DriverOp) (c : DriverCaches) : DriverCaches × Bool :=
  let cached (r : BlitterRegisterCache × Bool) : DriverCaches × Bool :=
    ({ c with registerCache := r.1 }, r.2)
  match op with
  | writeBlitter16 operand value =>
    if value ≠ c.old16 operand then
      ({ c with old16 := Function.update c.old16 operand value }, true)
    else
      (c, false)
  | writeBlitter32 operand value =>
    if value ≠ c.old32 operand then
      ({ c with old32 := Function.update c.old32 operand value }, true)
    else
      (c, false)
  | writeBlitterSrcPitch srcpitch =>
    cached (c.registerCache.srcPitchWriteNeeded registers srcpitch)
  | writeBlitterRGB2 color => cached (c.registerCache.rgb2WriteNeeded registers color)
  | writeBlitterUser1 value => cached (c.registerCache.user1WriteNeeded registers value)
  | writeBlitterUser2 value => cached (c.registerCache.user2WriteNeeded registers value)
  | selectCardFeature _ =>
    cached (c.registerCache.invalidate registers BlitterRegisterCache.user1Bit, true)
  | _ => (c, true)

end DriverOp

/-- The registers that the firmware takes the operands of an operation from. -/
def operandRegs : List Nat :=
  [Regs.blitterX1, Regs.blitterY1, Regs.blitterX2, Regs.blitterY2, Regs.blitterRowPitch,
   Regs.blitterX3, Regs.blitterY3, Regs.blitterRgbHi, Regs.blitterRgbLo, Regs.blitterSrcHi,
   Regs.blitterSrcLo, Regs.blitterDstHi, Regs.blitterDstLo, Regs.blitterColormode,
   Regs.blitterSrcPitch, Regs.blitterRgb2Hi, Regs.blitterRgb2Lo, Regs.blitterUser1,
   Regs.blitterUser2, Regs.blitterUser3]

/-- The registers that make the firmware do something. -/
def triggerRegs : List Nat :=
  [Regs.mode, Regs.spriteY, Regs.panPtrHi, Regs.panPtrLo, Regs.videocapVmode,
   Regs.blitterOpFillrect, Regs.blitterOpCopyrect, Regs.blitterOpFilltemplate, Regs.blitterOpP2c,
   Regs.blitterOpDrawLine, Regs.blitterOpP2d, Regs.blitterOpInvertrect, Regs.spriteBitmap,
   Regs.spriteColors, Regs.customCommit, Regs.blitterDmaOp, Regs.blitterAccOp,
   Regs.blitterSetSplitPos, Regs.setFeatureStatus, Regs.videoControlOp, Regs.videocapMode]

/-- What the firmware sees of an operation. -/
structure Trigger where
  store : WordStore
  operands : List UInt16
  deriving DecidableEq, Repr

def Card.store (card : Card) (store : WordStore) : Card := Function.update card store.1 store.2

def Card.storeAll (card : Card) (stores : List WordStore) : Card := stores.foldl Card.store card

/-- The operations that stores trigger, with the operands at that time. -/
def Card.triggers (card : Card) (stores : List WordStore) : List Trigger :=
  match stores with
  | [] => []
  | store :: stores =>
    let rest := Card.triggers (card.store store) stores
    if store.1 ∈ triggerRegs then
      ⟨store, operandRegs.map card⟩ :: rest
    else
      rest

/-- A call of a hook with what it finds in `BoardInfo` and in its arguments. -/
inductive HookCall where
  | setGC (planner : Planner) (s : ModeState) (modeInfo : Option ModePtr) (border : Bool)
      (status : UInt16)
  | setSwitch (planner : Planner) (s : ModeState) (enabled status : UInt16)
  | setPanning (b : BoardInfo) (addr : UInt32) (width : UInt16) (xOffset yOffset : Int16)
      (format : UInt32)
  | setColorArray (b : BoardInfo) (start num : UInt16)
  | setDPMSLevel (b : BoardInfo) (level : UInt32)
  | fillRect (b : BoardInfo) (r : Option RenderInfo) (x y w h : Int16) (color : UInt32)
      (mask : UInt8) (format : UInt32)
  | invertRect (b : BoardInfo) (r : Option RenderInfo) (x y w h : Int16) (mask : UInt8)
      (format : UInt32)
  | blitRect (b : BoardInfo) (r : Option RenderInfo) (x y dx dy w h : Int16) (mask : UInt8)
      (format : UInt32)
  | blitRectNoMaskComplete (b : BoardInfo) (rs rt : Option RenderInfo) (x y dx dy w h : Int16)
      (minterm : UInt8) (format : UInt32)
  | blitTemplate (b : BoardInfo) (r : Option RenderInfo) (t : Option Template) (x y w h : Int16)
      (mask : UInt8) (format : UInt32)
  | blitPattern (b : BoardInfo) (r : Option RenderInfo) (pat : Option Pattern) (x y w h : Int16)
      (mask : UInt8) (format : UInt32)
  | drawLine (b : BoardInfo) (r : Option RenderInfo) (l : Option Line) (mask : UInt8)
      (format : UInt32)
  | blitPlanar2Chunky (b : BoardInfo) (bm : Option PlanarBitMap) (r : Option RenderInfo)
      (x dx dy w h : Int16) (minterm mask : UInt8)
  | blitPlanar2Direct (b : BoardInfo) (bm : Option PlanarBitMap) (r : Option RenderInfo)
      (clut : Option ColorIndexMapping) (x dx dy w h : Int16) (minterm mask : UInt8)
  | setSprite (b : BoardInfo) (what : Bool) (format : UInt32)
  | setSpritePosition (b : BoardInfo) (x y : Int16)
  | setSpriteImage (b : BoardInfo)
  | setSpriteColor (idx red green blue : UInt8)
  | setSplitPosition (b : BoardInfo) (pos : Int16)
  | createFeature (opened : Bool)
  | setFeatureAttrs (dirty : Bool)
  | deleteFeature (opened : Bool)

def HookCall.ops (call : HookCall) : List DriverOp :=
  match call with
  | .setGC planner s modeInfo border status => (s.setGC planner modeInfo border status).2
  | .setSwitch planner s enabled status => (s.setSwitch planner enabled status).2.2
  | .setPanning b addr width xOffset yOffset format =>
    (b.setPanning addr width xOffset yOffset format).2
  | .setColorArray b start num => ZZRtg.setColorArray b start num
  | .setDPMSLevel b level => ZZRtg.setDPMSLevel b level
  | .fillRect b r x y w h color mask format => ZZRtg.fillRect b r x y w h color mask format
  | .invertRect b r x y w h mask format => ZZRtg.invertRect b r x y w h mask format
  | .blitRect b r x y dx dy w h mask format => ZZRtg.blitRect b r x y dx dy w h mask format
  | .blitRectNoMaskComplete b rs rt x y dx dy w h minterm format =>
    ZZRtg.blitRectNoMaskComplete b rs rt x y dx dy w h minterm format
  | .blitTemplate b r t x y w h mask format => ZZRtg.blitTemplate b r t x y w h mask format
  | .blitPattern b r pat x y w h mask format => ZZRtg.blitPattern b r pat x y w h mask format
  | .drawLine b r l mask format => ZZRtg.drawLine b r l mask format
  | .blitPlanar2Chunky b bm r x dx dy w h minterm mask =>
    ZZRtg.blitPlanar2Chunky b bm r x dx dy w h minterm mask
  | .blitPlanar2Direct b bm r clut x dx dy w h minterm mask =>
    ZZRtg.blitPlanar2Direct b bm r clut x dx dy w h minterm mask
  | .setSprite b what format => ZZRtg.setSprite b what format
  | .setSpritePosition b x y => ZZRtg.setSpritePosition b x y
  | .setSpriteImage b => ZZRtg.setSpriteImage b
  | .setSpriteColor idx red green blue => ZZRtg.setSpriteColor idx red green blue
  | .setSplitPosition b pos => ZZRtg.setSplitPosition b pos
  | .createFeature opened => if opened then overlayOpen else []
  | .setFeatureAttrs dirty => if dirty then overlayPush else []
  | .deleteFeature opened => if opened then overlayPush else []

inductive CardCall where
  | hook (call : HookCall)
  /--
  The card is initialised once more and comes up with `content`, then `FindCard` and `InitCard` run.
  -/
  | reinit (content : Card) (queries : List UInt16) (vcapMode nsvsync : UInt16)
      (ack : Option UInt16) (toolVcapMode toolNsvsync : UInt16)

/-- The variables of the helpers hold what the registers of the card hold. -/
structure DriverCaches.Fits (c : DriverCaches) (card : Card) : Prop where
  word : ∀ operand, card operand.reg = c.old16 operand
  long : ∀ operand, card operand.reg = (c.old32 operand >>> 16).toUInt16
    ∧ card (operand.reg + 2) = (c.old32 operand).toUInt16

/-- The card with the caches of the driver. -/
structure CachedCard where
  card : Card
  caches : DriverCaches

namespace CachedCard

variable (registers : UInt32)

/-- The stores that are left of `ops`, with the caches after them. -/
def reduce (ops : List DriverOp) (c : DriverCaches) : DriverCaches × List WordStore :=
  match ops with
  | [] => (c, [])
  | op :: ops =>
    let r := op.needed registers c
    let rest := reduce ops r.1
    (rest.1, (if r.2 then op.stores else []) ++ rest.2)

/-- The operations that `ops` trigger, and the card after them. -/
def run (s : CachedCard) (ops : List DriverOp) : CachedCard × List Trigger :=
  let r := reduce registers ops s.caches
  (⟨s.card.storeAll r.2, r.1⟩, s.card.triggers r.2)

def step (s : CachedCard) (call : CardCall) : CachedCard × List Trigger :=
  match call with
  | .hook call => s.run registers call.ops
  | .reinit content queries vcapMode nsvsync ack toolVcapMode toolNsvsync =>
    let ops := findCard queries vcapMode nsvsync ack ++ applyCardSettings toolVcapMode toolNsvsync
    let r := CachedCard.run registers ⟨content, s.caches⟩ ops
    -- `blitter_cache_reset` at the end of `InitCard`
    (⟨r.1.card, { r.1.caches with registerCache := .zero }⟩, r.2)

/-- The operations of a whole run. -/
def triggers (s : CachedCard) (calls : List CardCall) : List Trigger :=
  match calls with
  | [] => []
  | call :: calls =>
    let r := s.step registers call
    r.2 ++ triggers r.1 calls

/-- The variables of the helpers fit the card each time that it is initialised once more. -/
def FitsAlong (s : CachedCard) (calls : List CardCall) : Prop :=
  match calls with
  | [] => True
  | call :: calls =>
    (match call with
      | .hook _ => True
      | .reinit content _ _ _ _ _ _ => s.caches.Fits content)
    ∧ FitsAlong (s.step registers call).1 calls

end CachedCard

namespace Card

/-- The same without any cache: each write is issued. -/
def step (card : Card) (call : CardCall) : Card × List Trigger :=
  match call with
  | .hook call =>
    let stores := call.ops.flatMap DriverOp.stores
    (card.storeAll stores, card.triggers stores)
  | .reinit content queries vcapMode nsvsync ack toolVcapMode toolNsvsync =>
    let ops := findCard queries vcapMode nsvsync ack ++ applyCardSettings toolVcapMode toolNsvsync
    let stores := ops.flatMap DriverOp.stores
    (content.storeAll stores, content.triggers stores)

def runTriggers (card : Card) (calls : List CardCall) : List Trigger :=
  match calls with
  | [] => []
  | call :: calls =>
    let r := card.step call
    r.2 ++ runTriggers r.1 calls

end Card

end ZZRtg
