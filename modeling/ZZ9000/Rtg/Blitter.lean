import ZZ9000.Rtg.Mode

/-!
This module contains the drawing hooks of `mntgfx-gcc.c` on Zorro II: the helpers that they write
the blitter registers with, and what they copy to the memory of the card.
-/

namespace ZZRtg

open DriverOp

structure RenderInfo where
  memory : UInt32
  bytesPerRow : Int16
  rgbFormat : UInt32
  deriving DecidableEq, Repr

structure Template where
  bytesPerRow : Int16
  xOffset : UInt8
  drawMode : UInt8
  fgPen : UInt32
  bgPen : UInt32
  deriving DecidableEq, Repr

structure Pattern where
  xOffset : UInt16
  yOffset : UInt16
  fgPen : UInt32
  bgPen : UInt32
  size : UInt8
  drawMode : UInt8
  deriving DecidableEq, Repr

structure Line where
  x : Int16
  y : Int16
  length : UInt16
  dX : Int16
  dY : Int16
  linePtrn : UInt16
  patternShift : UInt16
  fgPen : UInt32
  bgPen : UInt32
  drawMode : UInt8
  pad : Int8
  xorigin : UInt16
  yorigin : UInt16
  deriving DecidableEq, Repr

structure PlanarBitMap where
  bytesPerRow : UInt16
  depth : UInt8
  planes : Nat → UInt32

structure ColorIndexMapping where
  colorMask : UInt32
  deriving DecidableEq, Repr

/-- `(colormode | (high << 8))` as a `UWORD` -/
def withHighByte (low : UInt16) (high : UInt8) : UInt16 := low ||| (high.toUInt16 <<< 8)

def RenderInfo.longPitch (r : RenderInfo) : UInt16 := (r.bytesPerRow >>> 2).toUInt16

/-- A rectangle that the processor draws faster. -/
def tooSmall (w h : Int16) : Bool :=
  let minDim := if w < h then w else h
  let maxDim := if w > h then w else h
  minDim < 6 && maxDim < 32

def fillRectAccel (b : BoardInfo) (r : RenderInfo) (x y w h : Int16) (color : UInt32) (mask : UInt8)
    (colormode : UInt16) : List DriverOp :=
  if tooSmall w h then
    []
  else [
    writeBlitterDstOffset (r.memory - b.memoryBase),
    writeBlitterRGB color,
    writeBlitterDstPitch r.longPitch,
    writeBlitterColorMode colormode,
    writeBlitterX1 x.toUInt16,
    writeBlitterY1 y.toUInt16,
    writeBlitterX2 w.toUInt16,
    writeBlitterY2 h.toUInt16,
    zzwrite16 Regs.blitterOpFillrect mask.toUInt16]

def fillRect (b : BoardInfo) (r : Option RenderInfo) (x y w h : Int16) (color : UInt32)
    (mask : UInt8) (format : UInt32) : List DriverOp :=
  match r with
  | none => []
  | some r =>
    let colormode := mntColormode format.toUInt16
    if w < 1 ∨ h < 1 ∨ colormode = colorModeNoUse then
      []
    else
      fillRectAccel b r x y w h color (directColorMask colormode mask) colormode

def invertRect (b : BoardInfo) (r : Option RenderInfo) (x y w h : Int16) (mask : UInt8)
    (format : UInt32) : List DriverOp :=
  match r with
  | none => []
  | some r =>
    let colormode := mntColormode format.toUInt16
    let mask := directColorMask colormode mask
    if colormode = colorModeNoUse ∨ tooSmall w h then
      []
    else [
      writeBlitterDstOffset (r.memory - b.memoryBase),
      writeBlitterDstPitch r.longPitch,
      writeBlitterColorMode colormode,
      writeBlitterX1 x.toUInt16,
      writeBlitterY1 y.toUInt16,
      writeBlitterX2 w.toUInt16,
      writeBlitterY2 h.toUInt16,
      zzwrite16 Regs.blitterOpInvertrect mask.toUInt16]

def blitRect (b : BoardInfo) (r : Option RenderInfo) (x y dx dy w h : Int16) (mask : UInt8)
    (format : UInt32) : List DriverOp :=
  match r with
  | none => []
  | some r =>
    let colormode := mntColormode format.toUInt16
    if w < 1 ∨ h < 1 ∨ colormode = colorModeNoUse then
      []
    else
      let offset := r.memory - b.memoryBase
      [writeBlitterY1 dy.toUInt16,
       writeBlitterY2 h.toUInt16,
       writeBlitterY3 y.toUInt16,
       writeBlitterX1 dx.toUInt16,
       writeBlitterX2 w.toUInt16,
       writeBlitterX3 x.toUInt16,
       writeBlitterDstPitch r.longPitch,
       writeBlitterColorMode (withHighByte colormode mask),
       writeBlitterSrcOffset offset,
       writeBlitterDstOffset offset,
       zzwrite16 Regs.blitterOpCopyrect 1]

def blitRectNoMaskComplete (b : BoardInfo) (rs rt : Option RenderInfo) (x y dx dy w h : Int16)
    (minterm : UInt8) (format : UInt32) : List DriverOp :=
  match rs, rt with
  | some rs, some rt =>
    let colormode := mntColormode format.toUInt16
    if w < 1 ∨ h < 1 ∨ colormode = colorModeNoUse then
      []
    else [
      writeBlitterY1 dy.toUInt16,
      writeBlitterY2 h.toUInt16,
      writeBlitterY3 y.toUInt16,
      writeBlitterX1 dx.toUInt16,
      writeBlitterX2 w.toUInt16,
      writeBlitterX3 x.toUInt16,
      writeBlitterColorMode (withHighByte colormode minterm),
      writeBlitterSrcPitch rs.longPitch,
      writeBlitterSrcOffset (rs.memory - b.memoryBase),
      writeBlitterDstPitch rt.longPitch,
      writeBlitterDstOffset (rt.memory - b.memoryBase),
      zzwrite16 Regs.blitterOpCopyrect 2]
  | _, _ => []

def blitTemplate (b : BoardInfo) (r : Option RenderInfo) (t : Option Template) (x y w h : Int16)
    (mask : UInt8) (format : UInt32) : List DriverOp :=
  match r, t with
  | some r, some t =>
    let colormode := mntColormode format.toUInt16
    if w < 1 ∨ h < 1 ∨ colormode = colorModeNoUse then
      []
    else
      let mask := directColorMask colormode mask
      let dstOffset := writeBlitterDstOffset (r.memory - b.memoryBase)
      let bytesPerRow := t.bytesPerRow.toInt32.toUInt32
      let rows := h.toInt32.toUInt32
      let stagedSize := bytesPerRow * rows
      if bytesPerRow = 0 ∨ rows > 0xffffffff / bytesPerRow ∨ ¬ z2TemplateFits stagedSize then
        -- the destination is written before the template turns out to be too large
        [dstOffset]
      else [
        dstOffset,
        stage (z2TemplateOffset b) stagedSize,
        writeBlitterSrcOffset (z2TemplateOffset b),
        writeBlitterRGB t.fgPen,
        writeBlitterRGB2 t.bgPen,
        writeBlitterSrcPitch t.bytesPerRow.toUInt16,
        writeBlitterDstPitch r.bytesPerRow.toUInt16,
        writeBlitterColorMode (withHighByte colormode t.drawMode),
        writeBlitterX1 x.toUInt16,
        writeBlitterY1 y.toUInt16,
        writeBlitterX2 w.toUInt16,
        writeBlitterY2 h.toUInt16,
        writeBlitterX3 t.xOffset.toUInt16,
        zzwrite16 Regs.blitterOpFilltemplate mask.toUInt16]
  | _, _ => []

def blitPattern (b : BoardInfo) (r : Option RenderInfo) (pat : Option Pattern) (x y w h : Int16)
    (mask : UInt8) (format : UInt32) : List DriverOp :=
  match r, pat with
  | some r, some pat =>
    let colormode := mntColormode format.toUInt16
    if w < 1 ∨ h < 1 ∨ colormode = colorModeNoUse then
      []
    else
      let mask := directColorMask colormode mask
      let dstOffset := writeBlitterDstOffset (r.memory - b.memoryBase)
      if pat.size > 15 then
        [dstOffset]
      else [
        dstOffset,
        stage (z2TemplateOffset b) (2 * ((1 : UInt32) <<< pat.size.toUInt32)),
        writeBlitterSrcOffset (z2TemplateOffset b),
        writeBlitterRGB pat.fgPen,
        writeBlitterRGB2 pat.bgPen,
        writeBlitterUser1 mask.toUInt16,
        writeBlitterDstPitch r.bytesPerRow.toUInt16,
        writeBlitterColorMode (withHighByte colormode pat.drawMode),
        writeBlitterX1 x.toUInt16,
        writeBlitterY1 y.toUInt16,
        writeBlitterX2 w.toUInt16,
        writeBlitterY2 h.toUInt16,
        writeBlitterX3 pat.xOffset,
        writeBlitterY3 pat.yOffset,
        zzwrite16 Regs.blitterOpFilltemplate (((1 : UInt16) <<< pat.size.toUInt16) ||| 0x8000)]
  | _, _ => []

/-- The accumulator at the start of a segment. -/
def Line.errSeed (l : Line) : UInt16 :=
  let dxa := |l.dX.toInt|
  let dya := |l.dY.toInt|
  let major := dxa ≥ dya
  let length := if major then dxa else dya
  let slope := if major then dya else dxa
  let alongX := l.x.toInt - l.xorigin.toInt16.toInt
  let alongY := l.y.toInt - l.yorigin.toInt16.toInt
  let dmaj := if major then alongX else alongY
  let dmin := if major then alongY else alongX
  UInt16.ofInt (slope * |dmaj| - length * |dmin| + length / 2)

def complement : UInt8 := 2

def drawLine (b : BoardInfo) (r : Option RenderInfo) (l : Option Line) (mask : UInt8)
    (format : UInt32) : List DriverOp :=
  match r, l with
  | some r, some l =>
    let colormode := mntColormode format.toUInt16
    if l.drawMode &&& complement ≠ 0 ∨ colormode = colorModeNoUse ∨ l.length = 0 then
      []
    else
      let mask := directColorMask colormode mask
      let solid := l.drawMode = 0 ∧ l.linePtrn = 0xffff ∧ mask = 0xff
      if solid ∧ (l.dY = 0 ∨ l.dX = 0) then
        -- the processor draws straight lines
        []
      else
        let linePatOff := (15 - (l.patternShift &&& 15)) &&& 15
        [writeBlitterDstOffset (r.memory - b.memoryBase),
         writeBlitterDstPitch r.longPitch,
         writeBlitterColorMode (withHighByte colormode l.drawMode),
         writeBlitterRGB l.fgPen]
          ++ (if solid then [] else [writeBlitterRGB2 l.bgPen])
          ++ [writeBlitterX1 l.x.toUInt16,
              writeBlitterY1 l.y.toUInt16,
              writeBlitterX2 l.dX.toUInt16,
              writeBlitterY2 l.dY.toUInt16,
              writeBlitterUser1 l.length,
              writeBlitterUser3 l.errSeed,
              writeBlitterX3 l.linePtrn]
          ++ (if solid then [] else [writeBlitterY3 (withHighByte linePatOff l.pad.toUInt8)])
          ++ [zzwrite16 Regs.blitterOpDrawLine mask.toUInt16]
  | _, _ => []

def planarLineBytes (x w : Int16) : UInt16 :=
  (((x.toUInt16 &&& 0x07).toUInt32 + w.toUInt16.toUInt32 + 7) >>> 3).toUInt16

def planarLineBytesPadded (w : Int16) : UInt16 := (w.toUInt16 >>> 3) + 2

/-- The loop over the planes. The result is `zz_mask`. -/
def stagePlanes (lineSize : UInt16) (h : Int16) (planes : List UInt32) (curPlane : UInt8)
    (templateAddr : UInt32) (zzMask : UInt16) : UInt16 × List DriverOp :=
  match planes with
  | [] => (zzMask, [])
  | plane :: planes =>
    let planeSize := lineSize.toUInt32 * h.toInt32.toUInt32
    let next := stagePlanes lineSize h planes (curPlane <<< 1) (templateAddr + planeSize)
    if plane = 0xffffffff then
      let rest := next zzMask
      (rest.1, stage templateAddr planeSize :: rest.2)
    else if plane ≠ 0 then
      let rest := next zzMask
      let lines := (List.range h.toNatClampNeg).map fun line =>
        stage (templateAddr + line.toUInt32 * lineSize.toUInt32) lineSize.toUInt32
      (rest.1, lines ++ rest.2)
    else
      next (zzMask &&& (curPlane ^^^ 0xff).toUInt16)

def PlanarBitMap.planeList (bm : PlanarBitMap) : List UInt32 :=
  (List.range bm.depth.toNat).map bm.planes

def blitPlanar2Chunky (b : BoardInfo) (bm : Option PlanarBitMap) (r : Option RenderInfo)
    (x dx dy w h : Int16) (minterm mask : UInt8) : List DriverOp :=
  match bm, r with
  | some bm, some r =>
    if w < 1 ∨ h < 1 then
      []
    else
      let lineSize := planarLineBytesPadded w
      let planeSize := lineSize.toUInt32 * h.toInt32.toUInt32
      if !z2StagingFits 0 planeSize bm.depth.toUInt32 then
        []
      else
        let planes := stagePlanes lineSize h bm.planeList 1 (z2TemplateOffset b) mask.toUInt16
        [writeBlitterDstOffset (r.memory - b.memoryBase),
         writeBlitterDstPitch r.longPitch,
         writeBlitterColorMode (withHighByte (mntColormode r.rgbFormat.toUInt16) minterm),
         writeBlitterSrcOffset (z2TemplateOffset b),
         writeBlitterSrcPitch lineSize]
          ++ planes.2
          ++ [writeBlitterX1 (x.toUInt16 &&& 0x07),
              writeBlitterX2 dx.toUInt16,
              writeBlitterY2 dy.toUInt16,
              writeBlitterX3 w.toUInt16,
              writeBlitterY3 h.toUInt16,
              writeBlitterUser2 planes.1,
              zzwrite16 Regs.blitterOpP2c (withHighByte mask.toUInt16 bm.depth)]
  | _, _ => []

def blitPlanar2Direct (b : BoardInfo) (bm : Option PlanarBitMap) (r : Option RenderInfo)
    (clut : Option ColorIndexMapping) (x dx dy w h : Int16) (minterm mask : UInt8)
    : List DriverOp :=
  match bm, r, clut with
  | some bm, some r, some clut =>
    if w < 1 ∨ h < 1 then
      []
    else
      let lineSize := planarLineBytes x w
      let planeSize := lineSize.toUInt32 * h.toInt32.toUInt32
      let colors := (256 : UInt32) <<< 2
      if !z2StagingFits colors planeSize bm.depth.toUInt32 then
        []
      else
        let planes :=
          stagePlanes lineSize h bm.planeList 1 (z2TemplateOffset b + colors) mask.toUInt16
        [writeBlitterDstOffset (r.memory - b.memoryBase),
         writeBlitterDstPitch r.longPitch,
         writeBlitterColorMode (withHighByte (mntColormode r.rgbFormat.toUInt16) minterm),
         writeBlitterSrcOffset (z2TemplateOffset b),
         writeBlitterSrcPitch lineSize,
         writeBlitterRGB clut.colorMask,
         stage (z2TemplateOffset b) colors]
          ++ planes.2
          ++ [writeBlitterX1 (x.toUInt16 &&& 0x07),
              writeBlitterX2 dx.toUInt16,
              writeBlitterY2 dy.toUInt16,
              writeBlitterX3 w.toUInt16,
              writeBlitterY3 h.toUInt16,
              writeBlitterUser2 planes.1,
              zzwrite16 Regs.blitterOpP2d (withHighByte mask.toUInt16 bm.depth)]
  | _, _, _ => []

def setColorArray (b : BoardInfo) (start num : UInt16) : List DriverOp :=
  if num = 0 then
    []
  else
    let clut := if start ≥ 256 then b.secondaryClut else b.clut
    let count := if num > 256 then 256 else num
    let select : List DriverOp :=
      if start ≥ 256 ∧ b.cardData CardData.secondaryPalette = 0 then
        [selectCardFeature CardFeature.secondaryPalette, zzwrite16 Regs.setFeatureStatus 1]
      else
        []
    let op : UInt16 := if start ≥ 256 then 19 else 3
    select ++ (List.range count.toNat).flatMap fun i =>
      let ci := (start + i.toUInt16).toUInt8
      let entry := clut ci
      [zzwrite16 Regs.videoControlDataHi (withHighByte entry.red.toUInt16 ci),
       zzwrite16 Regs.videoControlDataLo (withHighByte entry.blue.toUInt16 entry.green),
       zzwrite16 Regs.videoControlOp op,
       zzwrite16 Regs.videoControlOp 0]

def dpmsOff : UInt32 := 3

def setDPMSLevel (b : BoardInfo) (level : UInt32) : List DriverOp :=
  if b.registerBase = 0 ∨ level > dpmsOff then
    []
  else
    [selectCardFeature CardFeature.dpms, zzwrite16 Regs.setFeatureStatus level.toUInt16]

def setSprite (b : BoardInfo) (what : Bool) (format : UInt32) : List DriverOp :=
  if b.registerBase = 0 then
    []
  else if !what && format == 0 then
    [zzwrite16 Regs.spriteBitmap 2]
  else
    [zzwrite16 Regs.spriteBitmap 1]

def setSpritePosition (b : BoardInfo) (x y : Int16) : List DriverOp :=
  if b.registerBase = 0 then
    []
  else [
    writeBlitterX1 x.toUInt16,
    writeBlitterY1 (y + b.ySplit).toUInt16,
    zzwrite16 Regs.spriteY 1]

def hiresSprite (b : BoardInfo) : Bool := (b.flags >>> 16) &&& 1 != 0

def bigSprite (b : BoardInfo) : Bool := (b.flags >>> 17) &&& 1 != 0

def spriteDataSize (b : BoardInfo) : UInt32 :=
  let hiressprite : UInt32 := if hiresSprite b then 2 else 1
  ((b.mouseWidth >>> 3).toUInt32 * 2 * hiressprite) * b.mouseHeight.toUInt32

def setSpriteImage (b : BoardInfo) : List DriverOp :=
  if !z2TemplateFits (spriteDataSize b) then
    []
  else [
    stage (z2TemplateOffset b) (spriteDataSize b),
    writeBlitterSrcOffset (z2TemplateOffset b),
    writeBlitterX1 b.xOffset.toUInt16,
    writeBlitterX2 (withHighByte b.mouseWidth.toUInt16 (if bigSprite b then 1 else 0)),
    writeBlitterY1 b.yOffset.toUInt16,
    writeBlitterY2 (withHighByte b.mouseHeight.toUInt16 (if hiresSprite b then 1 else 0)),
    zzwrite16 Regs.spriteBitmap 0]

def setSpriteColor (idx red green blue : UInt8) : List DriverOp :=
  [writeBlitterUser1 red.toUInt16,
   writeBlitterUser2 (withHighByte blue.toUInt16 green),
   zzwrite16 Regs.spriteColors (idx.toUInt16 + 1)]

def setSplitPosition (b : BoardInfo) (pos : Int16) : List DriverOp :=
  if b.registerBase = 0 then
    []
  else
    match if pos ≠ 0 then b.visibleBitMap else none with
    | none => [writeBlitterSrcOffset 0, zzwrite16 Regs.blitterSetSplitPos 0]
    | some plane =>
      if plane = 0 then
        [writeBlitterSrcOffset 0, zzwrite16 Regs.blitterSetSplitPos 0]
      else
        [writeBlitterSrcOffset (plane - b.memoryBase),
         zzwrite16 Regs.blitterSetSplitPos pos.toUInt16]

def opVideoOverlay : UInt16 := 19

/-- The registers of `zz_overlay_push`, which hands the overlay over in memory. -/
def overlayPush : List DriverOp := [zzwrite16 Regs.blitterDmaOp opVideoOverlay]

/-- The registers of a `CreateFeature` that has got its source bitmap. -/
def overlayOpen : List DriverOp :=
  [selectCardFeature CardFeature.videoOverlay, zzwrite16 Regs.setFeatureStatus 1] ++ overlayPush

def applyVcapSettings (mode : UInt16) : List DriverOp :=
  let vmode : UInt16 := if ModeState.vcapModeIsCentered mode ∨ mode = 1 then mode else 6
  [zzwrite16 Regs.videocapVmode vmode]

def applyNonstandardVsyncSettings (nonstandardVsyncMode : UInt16) : List DriverOp :=
  [selectCardFeature CardFeature.nonstandardVsync,
   zzwrite16 Regs.setFeatureStatus nonstandardVsyncMode]

/-- What `FindCard` and `apply_card_settings` store for the capture settings. -/
def applyCardSettings (vcapMode nsvsync : UInt16) : List DriverOp :=
  applyVcapSettings vcapMode
    ++ if ModeState.vcapModeIsCentered vcapMode then [] else applyNonstandardVsyncSettings nsvsync

/-- `ZZ_REG_Z2_APERTURE_INFO_LO` -/
def regZ2ApertureInfoLo : Nat := 0x111e

/-- `queries` are the keys that `zzcfg_query` asks for, `ack` is the token for the aperture. -/
def findCard (queries : List UInt16) (vcapMode nsvsync : UInt16) (ack : Option UInt16)
    : List DriverOp :=
  queries.map (fun key => zzwrite16 Regs.configKey key)
    ++ applyCardSettings vcapMode nsvsync
    ++ ack.toList.map fun token => zzwrite16 regZ2ApertureInfoLo token

end ZZRtg
