import Mathlib.Data.UInt
import Mathlib.Logic.Function.Basic

/-!
This module contains the registers of the card as the graphics driver `mntgfx-gcc.c` sees them, the
part of `struct BoardInfo` that its hooks work with, and what a hook does to the card.
-/

namespace ZZRtg

-- the offsets of `MNTZZ9KRegs` and of the registers beyond it that the driver stores to
namespace Regs

def mode : Nat := 0x02
def spriteY : Nat := 0x08
def panPtrHi : Nat := 0x0a
def panPtrLo : Nat := 0x0c
def videocapVmode : Nat := 0x0e
def blitterX1 : Nat := 0x10
def blitterY1 : Nat := 0x12
def blitterX2 : Nat := 0x14
def blitterY2 : Nat := 0x16
def blitterRowPitch : Nat := 0x18
def blitterX3 : Nat := 0x1a
def blitterY3 : Nat := 0x1c
def blitterRgbHi : Nat := 0x1e
def blitterRgbLo : Nat := 0x20
def blitterOpFillrect : Nat := 0x22
def blitterOpCopyrect : Nat := 0x24
def blitterOpFilltemplate : Nat := 0x26
def blitterSrcHi : Nat := 0x28
def blitterSrcLo : Nat := 0x2a
def blitterDstHi : Nat := 0x2c
def blitterDstLo : Nat := 0x2e
def blitterColormode : Nat := 0x30
def blitterSrcPitch : Nat := 0x32
def blitterRgb2Hi : Nat := 0x34
def blitterRgb2Lo : Nat := 0x36
def blitterOpP2c : Nat := 0x38
def blitterOpDrawLine : Nat := 0x3a
def blitterOpP2d : Nat := 0x3c
def blitterOpInvertrect : Nat := 0x3e
def blitterUser1 : Nat := 0x40
def blitterUser2 : Nat := 0x42
def blitterUser3 : Nat := 0x44
def spriteBitmap : Nat := 0x48
def spriteColors : Nat := 0x4a
def customParam : Nat := 0x52
def customValue : Nat := 0x54
def customSelect : Nat := 0x56
def customCommit : Nat := 0x58
def blitterDmaOp : Nat := 0x5a
def blitterAccOp : Nat := 0x5c
def blitterSetSplitPos : Nat := 0x5e
def setFeatureStatus : Nat := 0x60
def configKey : Nat := 0xe8
def videoControlDataHi : Nat := 0x1000
def videoControlDataLo : Nat := 0x1002
def videoControlOp : Nat := 0x1004
def videocapMode : Nat := 0x1006

end Regs

namespace CardFeature

def secondaryPalette : UInt16 := 1
def nonstandardVsync : UInt16 := 2
def videoOverlay : UInt16 := 3
def dpms : UInt16 := 4

end CardFeature

def colorMode8bit : UInt16 := 0
def colorMode16bit565 : UInt16 := 1
def colorMode32bit : UInt16 := 2
def colorMode15bit : UInt16 := 3
def colorModeNoUse : UInt16 := 255

def rtgToMnt : List UInt16 :=
  [colorMode8bit, colorMode8bit, colorModeNoUse, colorModeNoUse, colorModeNoUse, colorModeNoUse,
   colorModeNoUse, colorModeNoUse, colorModeNoUse, colorMode32bit, colorMode16bit565,
   colorMode15bit, colorModeNoUse, colorModeNoUse, colorModeNoUse, colorModeNoUse,
   colorModeNoUse, colorModeNoUse, colorModeNoUse, colorModeNoUse, colorModeNoUse]

def mntColormode (format : UInt16) : UInt16 := rtgToMnt.getD format.toNat colorModeNoUse

def panningColormode (colormode : UInt16) : UInt16 :=
  if colormode = colorMode15bit then colorMode16bit565 else colormode

def directColorMask (colormode : UInt16) (mask : UInt8) : UInt8 :=
  if colormode = colorMode32bit then 0xff else mask

/-- The word registers of the card by their offsets. -/
abbrev Card := Nat → UInt16

/-- The registers of the helpers that remember the last value in a `static UWORD`. -/
inductive Operand16 where
  | dstPitch
  | colorMode
  | x1
  | y1
  | x2
  | y2
  | x3
  | y3
  deriving DecidableEq, Repr

def Operand16.reg (operand : Operand16) : Nat :=
  match operand with
  | .dstPitch => Regs.blitterRowPitch
  | .colorMode => Regs.blitterColormode
  | .x1 => Regs.blitterX1
  | .y1 => Regs.blitterY1
  | .x2 => Regs.blitterX2
  | .y2 => Regs.blitterY2
  | .x3 => Regs.blitterX3
  | .y3 => Regs.blitterY3

/-- The pairs of registers of the helpers that remember the last value in a `static ULONG`. -/
inductive Operand32 where
  | srcOffset
  | dstOffset
  | rgb
  deriving DecidableEq, Repr

def Operand32.reg (operand : Operand32) : Nat :=
  match operand with
  | .srcOffset => Regs.blitterSrcHi
  | .dstOffset => Regs.blitterDstHi
  | .rgb => Regs.blitterRgbHi

/-- The fields of `struct GFXData` that panning stores to. -/
inductive GfxField where
  | offset0
  | x0
  | y0
  | x1
  | colormode
  deriving DecidableEq, Repr

/-- What a hook does to the card, in the order in which it does it. -/
inductive DriverOp where
  | zzwrite16 (reg : Nat) (value : UInt16)
  | zzwrite32 (reg : Nat) (value : UInt32)
  | writeBlitter16 (operand : Operand16) (value : UInt16)
  | writeBlitter32 (operand : Operand32) (value : UInt32)
  | writeBlitterSrcPitch (srcpitch : UInt16)
  | writeBlitterRGB2 (color : UInt32)
  | writeBlitterUser1 (value : UInt16)
  | writeBlitterUser2 (value : UInt16)
  | selectCardFeature (feature : UInt16)
  | writeGfxData (field : GfxField) (value : UInt32)
  /-- The processor stores `bytes` bytes to the memory of the card. -/
  | stage (offset bytes : UInt32)
  deriving DecidableEq, Repr

open DriverOp

def writeBlitterSrcOffset (offset : UInt32) : DriverOp := writeBlitter32 .srcOffset offset
def writeBlitterDstOffset (offset : UInt32) : DriverOp := writeBlitter32 .dstOffset offset
def writeBlitterRGB (color : UInt32) : DriverOp := writeBlitter32 .rgb color
def writeBlitterDstPitch (dstpitch : UInt16) : DriverOp := writeBlitter16 .dstPitch dstpitch
def writeBlitterColorMode (colormode : UInt16) : DriverOp := writeBlitter16 .colorMode colormode
def writeBlitterX1 (x : UInt16) : DriverOp := writeBlitter16 .x1 x
def writeBlitterY1 (y : UInt16) : DriverOp := writeBlitter16 .y1 y
def writeBlitterX2 (x : UInt16) : DriverOp := writeBlitter16 .x2 x
def writeBlitterY2 (y : UInt16) : DriverOp := writeBlitter16 .y2 y
def writeBlitterX3 (x : UInt16) : DriverOp := writeBlitter16 .x3 x
def writeBlitterY3 (y : UInt16) : DriverOp := writeBlitter16 .y3 y

/-- The line seed is written through. -/
def writeBlitterUser3 (value : UInt16) : DriverOp := zzwrite16 Regs.blitterUser3 value

abbrev ModePtr := Nat

structure ClutEntry where
  red : UInt8
  green : UInt8
  blue : UInt8
  deriving DecidableEq, Repr, Inhabited

/-- The fields of `struct BoardInfo` that the hooks read or write. -/
structure BoardInfo where
  registerBase : UInt32
  memoryBase : UInt32
  memorySize : UInt32
  moniSwitch : UInt16
  flags : UInt32
  cardFlags : UInt32
  modeInfo : Option ModePtr
  rgbFormat : UInt32
  xOffset : Int16
  yOffset : Int16
  border : Bool
  clut : UInt8 → ClutEntry
  secondaryClut : UInt8 → ClutEntry
  /-- `Planes[0]` of `VisibleBitMap` -/
  visibleBitMap : Option UInt32
  mouseWidth : UInt8
  mouseHeight : UInt8
  cardData : Fin 16 → UInt32
  ySplit : Int16
  deriving Inhabited

namespace CardData

def gfxData : Fin 16 := 0
def vcapMode : Fin 16 := 1
def monitorSwitch : Fin 16 := 3
def secondaryPalette : Fin 16 := 5
def apertureInfo : Fin 16 := 8
def templateOffset : Fin 16 := 9
def pipOffset : Fin 16 := 10
def pipSize : Fin 16 := 11
def fwCapabilities : Fin 16 := 12
def gcRejected : Fin 16 := 13

end CardData

namespace BoardInfo

def isZ3 (b : BoardInfo) : Bool := b.cardFlags &&& 1 != 0

def setCardData (b : BoardInfo) (i : Fin 16) (value : UInt32) : BoardInfo :=
  { b with cardData := Function.update b.cardData i value }

end BoardInfo

def z2LayoutActive (b : BoardInfo) : Bool :=
  !b.isZ3 && b.cardData CardData.apertureInfo != 0 && b.cardData CardData.templateOffset != 0

def z2TemplateOffset (b : BoardInfo) : UInt32 :=
  if z2LayoutActive b then b.cardData CardData.templateOffset else b.memorySize

def z2TemplateSize : UInt32 := 0x10000

def z2TemplateFits (bytes : UInt32) : Bool := bytes ≤ z2TemplateSize

def z2StagingFits (front unitSize count : UInt32) : Bool :=
  front ≤ z2TemplateSize && (count == 0 || unitSize ≤ (z2TemplateSize - front) / count)

end ZZRtg
