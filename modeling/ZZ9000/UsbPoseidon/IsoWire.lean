import ZZ9000.Streams.Memory
import ZZ9000.UsbPoseidon.Iso

/-!
This module contains the wire format of ISO batches from `zzusb_iso.c` and what the firmware writes
into a queued batch before the driver reaps it.
-/

namespace ZZUsb

open Streams

def isoMagic : UInt32 := 0x5a49534f
def isoVersion : UInt16 := 1

namespace IsoHdr

def magic : Nat := 0
def version : Nat := 4
def flags : Nat := 6
def batchId : Nat := 8
def start : Nat := 12
def count : Nat := 14
def dataLen : Nat := 16
def startUframe : Nat := 20

end IsoHdr

namespace IsoPkt

def requested : Nat := 0
def actual : Nat := 2
def status : Nat := 4
def frame : Nat := 6
def data : Nat := 8
def uframe : Nat := 12

end IsoPkt

/-- Where the entry of a packet starts, and where the data area does after the last entry. -/
def isoEntry (index : Nat) : Nat := isoHeaderSize + index * isoPacketSize

def isoMetadataSize (packetCount : Nat) : Nat := isoEntry packetCount

/-- The first loop of `zzusb_iso_build_queue`. -/
def isoTotalData (totalData : Nat) (packetLengths : List UInt16) : Option Nat :=
  match packetLengths with
  | [] => some totalData
  | length :: packetLengths =>
    if totalData + length.toNat > isoDataMax then
      none
    else
      isoTotalData (totalData + length.toNat) packetLengths

def isoWriteHeader (wire : Nat → UInt8) (batchId : UInt32) (flags startFrame : UInt16)
    (startMicroframe : UInt8) (packetCount totalData : Nat) : Nat → UInt8 :=
  let wire := writeBe32 wire IsoHdr.magic isoMagic
  let wire := writeBe16 wire IsoHdr.version isoVersion
  let wire := writeBe16 wire IsoHdr.flags flags
  let wire := writeBe32 wire IsoHdr.batchId batchId
  let wire := writeBe16 wire IsoHdr.start (startFrame &&& 0x07ff)
  let wire := writeBe16 wire IsoHdr.count (UInt16.ofNat packetCount)
  let wire := writeBe32 wire IsoHdr.dataLen (UInt32.ofNat totalData)
  Function.update wire IsoHdr.startUframe startMicroframe

/-- The second loop of `zzusb_iso_build_queue`. -/
def isoWriteEntries (wire : Nat → UInt8) (index totalData : Nat) (packetLengths : List UInt16)
    : Nat → UInt8 :=
  match packetLengths with
  | [] => wire
  | length :: packetLengths =>
    let wire := writeBe16 wire (isoEntry index + IsoPkt.requested) length
    let wire := writeBe32 wire (isoEntry index + IsoPkt.data) (UInt32.ofNat totalData)
    isoWriteEntries wire (index + 1) (totalData + length.toNat) packetLengths

/-- The size of the wire image, 0 if there is none, and the memory of the caller after the call. -/
def isoBuildQueue (wire : Nat → UInt8) (capacity : Nat) (batchId : UInt32)
    (flags startFrame : UInt16) (startMicroframe : UInt8) (packetLengths : List UInt16)
    (payload : Option (Nat → UInt8)) (directionIn : Bool) : Nat × (Nat → UInt8) :=
  if batchId = 0 ∨ packetLengths = [] ∨ packetLengths.length > isoMaxPackets ∨
      startMicroframe > 7 then
    (0, wire)
  else
    match isoTotalData 0 packetLengths with
    | none => (0, wire)
    | some totalData =>
      let metadataSize := isoMetadataSize packetLengths.length
      let wireSize := metadataSize + (if directionIn then 0 else totalData)
      if wireSize > capacity ∨ (directionIn = false ∧ totalData ≠ 0 ∧ payload.isNone) then
        (0, wire)
      else
        let wire := store wire 0 (List.replicate wireSize 0)
        let wire := isoWriteHeader wire batchId flags startFrame startMicroframe
          packetLengths.length totalData
        let wire := isoWriteEntries wire 0 0 packetLengths
        match directionIn, payload with
        | false, some payload => (wireSize, store wire metadataSize (load payload 0 totalData))
        | _, _ => (wireSize, wire)

/-- `struct zzusb_iso_packet_result` -/
structure IsoPacketResult where
  offset : UInt32
  requested : UInt16
  actual : UInt16
  frame : UInt16
  microframe : UInt8
  status : UInt8
deriving DecidableEq, Repr

/-- `struct zzusb_iso_batch_result` -/
structure IsoBatchResult where
  batchId : UInt32
  totalData : UInt32
  startFrame : UInt16
  startMicroframe : UInt8
  packetCount : UInt8
  metadataSize : Nat
deriving DecidableEq, Repr

/-- One round of the loop of `zzusb_iso_parse_reap`. -/
def isoParsePacket (wire : Nat → UInt8) (totalData : UInt32) (index : Nat) (expectedOffset : UInt32)
    : Option IsoPacketResult :=
  let entry := isoEntry index
  let packetStatus := readBe16 wire (entry + IsoPkt.status)
  let packet : IsoPacketResult := {
    offset := readBe32 wire (entry + IsoPkt.data)
    requested := readBe16 wire (entry + IsoPkt.requested)
    actual := readBe16 wire (entry + IsoPkt.actual)
    frame := readBe16 wire (entry + IsoPkt.frame) &&& 0x07ff
    microframe := wire (entry + IsoPkt.uframe)
    status := packetStatus.toUInt8
  }
  if packetStatus > IsoPacket.babble.toUInt16 then
    none
  else if packet.offset ≠ expectedOffset ∨ packet.actual > packet.requested ∨
      packet.offset + packet.requested.toUInt32 > totalData ∨ packet.microframe > 7 then
    none
  else
    some packet

/-- The packets from `index` on and the offset expected after them. -/
def isoParsePackets (wire : Nat → UInt8) (totalData : UInt32) (index : Nat) (expectedOffset : UInt32)
    (remaining : Nat) : Option (List IsoPacketResult × UInt32) :=
  match remaining with
  | 0 => some ([], expectedOffset)
  | remaining + 1 =>
    match isoParsePacket wire totalData index expectedOffset with
    | none => none
    | some packet =>
      match isoParsePackets wire totalData (index + 1)
          (expectedOffset + packet.requested.toUInt32) remaining with
      | none => none
      | some (packets, expectedOffset) => some (packet :: packets, expectedOffset)

def isoParseReap (wire : Nat → UInt8) (wireLength : Nat) (directionIn : Bool) (packetCapacity : Nat)
    : Option (IsoBatchResult × List IsoPacketResult) :=
  if wireLength < isoHeaderSize ∨ readBe32 wire IsoHdr.magic ≠ isoMagic ∨
      readBe16 wire IsoHdr.version ≠ isoVersion then
    none
  else
    let packetCount := (readBe16 wire IsoHdr.count).toNat
    let totalData := readBe32 wire IsoHdr.dataLen
    if packetCount = 0 ∨ packetCount > isoMaxPackets ∨ packetCount > packetCapacity ∨
        totalData.toNat > isoDataMax ∨ wire IsoHdr.startUframe > 7 then
      none
    else
      let metadataSize := isoMetadataSize packetCount
      let expectedSize := metadataSize + (if directionIn then totalData.toNat else 0)
      if wireLength ≠ expectedSize then
        none
      else
        match isoParsePackets wire totalData 0 0 packetCount with
        | none => none
        | some (packets, expectedOffset) =>
          let batch : IsoBatchResult := {
            batchId := readBe32 wire IsoHdr.batchId
            totalData
            startFrame := readBe16 wire IsoHdr.start &&& 0x07ff
            startMicroframe := wire IsoHdr.startUframe
            packetCount := UInt8.ofNat packetCount
            metadataSize
          }
          if expectedOffset ≠ totalData ∨ batch.batchId = 0 then none else some (batch, packets)

def isoLayoutMatches (batch : IsoBatchResult) (packets : List IsoPacketResult)
    (packetLengths : List UInt16) : Bool :=
  decide (batch.packetCount.toNat = packetLengths.length) &&
    decide ((packets.take packetLengths.length).map IsoPacketResult.requested = packetLengths)

/-- What the firmware reports about one packet. -/
structure IsoFill where
  actual : UInt16
  status : UInt16
  frame : UInt16
  microframe : UInt8
deriving DecidableEq, Repr

/-- The firmware fills in the entries from `index` on. -/
def isoFill (wire : Nat → UInt8) (index : Nat) (fills : List IsoFill) : Nat → UInt8 :=
  match fills with
  | [] => wire
  | fill :: fills =>
    let wire := writeBe16 wire (isoEntry index + IsoPkt.actual) fill.actual
    let wire := writeBe16 wire (isoEntry index + IsoPkt.status) fill.status
    let wire := writeBe16 wire (isoEntry index + IsoPkt.frame) fill.frame
    let wire := Function.update wire (isoEntry index + IsoPkt.uframe) fill.microframe
    isoFill wire (index + 1) fills

/-- What the firmware may report about a packet of the given length. -/
structure IsoFill.Fits (fill : IsoFill) (length : UInt16) : Prop where
  actual : fill.actual ≤ length
  status : fill.status ≤ IsoPacket.babble.toUInt16
  microframe : fill.microframe ≤ 7

/-- The reply to a queued batch. `data` is what the firmware appends to it. -/
def isoReply (wire : Nat → UInt8) (fills : List IsoFill) (data : List UInt8) : Nat → UInt8 :=
  store (isoFill wire 0 fills) (isoMetadataSize fills.length) data

/-- The packets of a batch after the firmware filled them in, the first one at `offset`. -/
def isoReaped (offset : Nat) (fills : List IsoFill) (packetLengths : List UInt16)
    : List IsoPacketResult :=
  match fills, packetLengths with
  | fill :: fills, length :: packetLengths =>
    {
      offset := UInt32.ofNat offset
      requested := length
      actual := fill.actual
      frame := fill.frame &&& 0x07ff
      microframe := fill.microframe
      status := fill.status.toUInt8
    } :: isoReaped (offset + length.toNat) fills packetLengths
  | _, _ => []

/-- The packets lie in the data area one after the other, from `offset` to `total`. -/
def IsoPartition (offset total : Nat) (packets : List IsoPacketResult) : Prop :=
  match packets with
  | [] => offset = total
  | packet :: packets =>
    packet.offset.toNat = offset ∧ IsoPartition (offset + packet.requested.toNat) total packets

end ZZUsb
