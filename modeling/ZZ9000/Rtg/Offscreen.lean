import ZZ9000.Rtg.Board

/-!
This module contains the helpers of `offscreen_bitmap.h` and `overlay_feature.h`.
-/

namespace ZZRtg

def offscreenMagic : UInt32 := 0x5A5A424D
def offscreenPitchAlign : UInt32 := 4
def offscreenMaxAlign : UInt32 := 256

def offscreenAlignValid (align : UInt32) : Bool :=
  align != 0 && align &&& (align - 1) == 0 && align ≤ offscreenMaxAlign

def offscreenPadPitchTo (bytesperrow align : UInt32) : UInt32 :=
  let align := if align < offscreenPitchAlign then offscreenPitchAlign else align
  if 0xFFFFFFFF - (align - 1) < bytesperrow then
    0
  else
    (bytesperrow + align - 1) &&& ~~~(align - 1)

def rgbformatBytesPerPixel (rgbformat : UInt32) : UInt32 :=
  match rgbformat with
  | 1 => 1
  | 9 => 4
  | 10 => 2
  | 11 => 2
  | 14 => 2
  | 17 => 2
  | 18 => 2
  | _ => 0

def offscreenBytesPerRow (rgbformat width : UInt32) : UInt32 :=
  let bytesPerPixel := rgbformatBytesPerPixel rgbformat
  if bytesPerPixel = 0 ∨ 0xFFFFFFFF / bytesPerPixel < width then
    0
  else
    width * bytesPerPixel

def rgbformatDepth (rgbformat : UInt32) : UInt32 :=
  match rgbformat with
  | 1 => 8
  | 9 => 32
  | 10 => 16
  | 11 => 15
  | 14 => 16
  | 17 => 16
  | 18 => 16
  | _ => 0

def offscreenRangeWithin (pixels bytes membase memsize : UInt32) : Bool :=
  if bytes = 0 ∨ pixels < membase then
    false
  else
    let offset := pixels - membase
    offset < memsize && bytes ≤ memsize - offset

def offscreenRangeIsOurs (magic pixels bytes membase memsize : UInt32) : Bool :=
  magic == offscreenMagic && offscreenRangeWithin pixels bytes membase memsize

def overlayMinDim : UInt32 := 16
def overlayMaxDim : UInt32 := 4096
def overlayPairBytes : UInt32 := 4
def overlayMagic : UInt32 := 0x5A5A4F56

/-- `none` where the source answers -1. -/
def overlayVariant (rgbformat : UInt32) : Option UInt8 :=
  match rgbformat with
  | 14 => some 0
  | 17 => some 1
  | 18 => some 2
  | _ => none

def overlaySourceValid (srcW srcH rgbformat : UInt32) : Bool :=
  overlayMinDim ≤ srcW && overlayMinDim ≤ srcH && srcW ≤ overlayMaxDim && srcH ≤ overlayMaxDim
    && srcW &&& 1 == 0 && (overlayVariant rgbformat).isSome

def overlayLineBytes (srcW : UInt32) : UInt32 :=
  if srcW = 0 ∨ overlayMaxDim < srcW then 0 else (srcW + 1) / 2 * overlayPairBytes

def overlaySurfaceSize (srcW srcH : UInt32) : Option UInt32 :=
  let pitch := overlayLineBytes srcW
  if pitch = 0 ∨ srcH = 0 ∨ 0xFFFFFFFF / pitch < srcH then
    none
  else
    let size := pitch * srcH
    if size = 0 then none else some size

/-- The new pitch. -/
def overlayTightenPitch (srcW : UInt32) (pitch : UInt16) : Option UInt16 :=
  let expected := overlayLineBytes srcW
  if expected = 0 ∨ pitch.toUInt32 < expected then none else some expected.toUInt16

def overlayFriendWidth (srcW friendBytesPerPixel : UInt32) : UInt32 :=
  if friendBytesPerPixel = 0 ∨ 4 < friendBytesPerPixel then
    0
  else
    let bytes := overlayLineBytes srcW
    if bytes = 0 then 0 else (bytes + friendBytesPerPixel - 1) / friendBytesPerPixel

/-- `struct ZZOverlayState` -/
structure OverlayState where
  magic : UInt32
  rgbformat : UInt32
  srcW : UInt16
  srcH : UInt16
  dstX : UInt16
  dstY : UInt16
  dstW : UInt16
  dstH : UInt16
  colorKey : UInt32
  pen : UInt32
  occlusion : Bool
  active : Bool
  clipL : UInt16
  clipT : UInt16
  clipW : UInt16
  clipH : UInt16
  brightness : UInt32
  deriving DecidableEq, Repr

namespace OverlayState

/-- The record after `memset`. -/
def zero : OverlayState := ⟨0, 0, 0, 0, 0, 0, 0, 0, 0, 0, false, false, 0, 0, 0, 0, 0⟩

/-- The record after `zz_overlay_apply_tag`. -/
def applyTag (st : OverlayState) (tag data : UInt32) : OverlayState :=
  match tag with
  | 0x80000002 => { st with active := data != 0 }
  | 0x80000003 => { st with dstX := data.toUInt16 }
  | 0x80000004 => { st with dstY := data.toUInt16 }
  | 0x80000005 => { st with dstW := data.toUInt16 }
  | 0x80000006 => { st with dstH := data.toUInt16 }
  | 0x80000009 => { st with occlusion := data != 0 }
  | 0x80000008 => { st with colorKey := data }
  | 0x8000001F => { st with pen := data }
  | 0x80000007 => { st with rgbformat := data }
  | 0x8000000A => { st with srcW := data.toUInt16 }
  | 0x8000000B => { st with srcH := data.toUInt16 }
  | 0x80000021 => { st with clipL := data.toUInt16 }
  | 0x80000022 => { st with clipT := data.toUInt16 }
  | 0x80000023 => { st with clipW := data.toUInt16 }
  | 0x80000024 => { st with clipH := data.toUInt16 }
  | 0x80000013 => { st with brightness := data }
  | _ => st

end OverlayState

end ZZRtg
