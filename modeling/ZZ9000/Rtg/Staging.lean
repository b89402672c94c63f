import ZZ9000.Rtg.Blitter

/-!
This module contains what the drawing hooks of `mntgfx-gcc.c` copy to the staging area on Zorro II,
and for the planes of a bitmap also where the bytes come from.
-/

namespace ZZRtg

open DriverOp

/-- What a byte of the staging area is set to: a byte of the memory, or all ones. -/
inductive StageSource where
  | memory (addr : UInt32)
  | ones
  deriving DecidableEq, Repr

/-- A call of `memcpy` or `memset` with a destination in the staging area. -/
structure Staging where
  dst : UInt32
  bytes : UInt32
  source : StageSource
  deriving DecidableEq, Repr

def Staging.region (s : Staging) : UInt32 × UInt32 := (s.dst, s.bytes)

/-- What the byte `k` of the destination is set to. -/
def Staging.byteAt (s : Staging) (k : Nat) : StageSource :=
  match s.source with
  | .memory addr => .memory (addr + UInt32.ofNat k)
  | .ones => .ones

def DriverOp.staged : DriverOp → Option (UInt32 × UInt32)
  | stage offset bytes => some (offset, bytes)
  | _ => none

def stagings (ops : List DriverOp) : List (UInt32 × UInt32) := ops.filterMap DriverOp.staged

/-- The loop over the lines of a plane. -/
def stageLines (lineSize bytesPerRow : UInt16) (lines : Nat) (zzDest bmpMem : UInt32)
    : List Staging :=
  match lines with
  | 0 => []
  | lines + 1 =>
    ⟨zzDest, lineSize.toUInt32, .memory bmpMem⟩
      :: stageLines lineSize bytesPerRow lines (zzDest + lineSize.toUInt32)
          (bmpMem + bytesPerRow.toUInt32)

/-- The body of the loop over the planes. `first` is the offset of the first byte in a plane. -/
def stagePlane (lineSize : UInt16) (h : Int16) (bytesPerRow : UInt16) (first plane : UInt32)
    (templateAddr : UInt32) : List Staging :=
  if plane = 0xffffffff then
    [⟨templateAddr, lineSize.toUInt32 * h.toInt32.toUInt32, .ones⟩]
  else if plane ≠ 0 then
    stageLines lineSize bytesPerRow h.toNatClampNeg templateAddr (plane + first)
  else
    []

/-- What `stagePlanes` copies, plane by plane. -/
def stageBitMap (lineSize : UInt16) (h : Int16) (bytesPerRow : UInt16) (first : UInt32)
    (planes : List UInt32) (templateAddr : UInt32) : List (List Staging) :=
  match planes with
  | [] => []
  | plane :: planes =>
    stagePlane lineSize h bytesPerRow first plane templateAddr
      :: stageBitMap lineSize h bytesPerRow first planes
          (templateAddr + lineSize.toUInt32 * h.toInt32.toUInt32)

/-- `(y * bm->BytesPerRow) + x_offset` -/
def PlanarBitMap.firstByte (bm : PlanarBitMap) (x y : Int16) : UInt32 :=
  y.toInt32.toUInt32 * bm.bytesPerRow.toUInt32 + (x >>> 3).toUInt16.toUInt32

def blitPlanar2ChunkyStagings (b : BoardInfo) (bm : PlanarBitMap) (x y w h : Int16)
    : List (List Staging) :=
  if w < 1 ∨ h < 1 then
    []
  else
    let lineSize := planarLineBytesPadded w
    let planeSize := lineSize.toUInt32 * h.toInt32.toUInt32
    if !z2StagingFits 0 planeSize bm.depth.toUInt32 then
      []
    else
      stageBitMap lineSize h bm.bytesPerRow (bm.firstByte x y) bm.planeList (z2TemplateOffset b)

/-- The planes only, the palette goes in front of them. -/
def blitPlanar2DirectStagings (b : BoardInfo) (bm : PlanarBitMap) (x y w h : Int16)
    : List (List Staging) :=
  if w < 1 ∨ h < 1 then
    []
  else
    let lineSize := planarLineBytes x w
    let planeSize := lineSize.toUInt32 * h.toInt32.toUInt32
    let colors := (256 : UInt32) <<< 2
    if !z2StagingFits colors planeSize bm.depth.toUInt32 then
      []
    else
      stageBitMap lineSize h bm.bytesPerRow (bm.firstByte x y) bm.planeList
        (z2TemplateOffset b + colors)

end ZZRtg
