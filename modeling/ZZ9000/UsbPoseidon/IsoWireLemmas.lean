import ZZ9000.UsbPoseidon.IsoWire

/-!
This module proves that the wire format of ISO batches survives a round trip and that what the
driver accepts can be sliced safely.
-/

namespace ZZUsb

open Streams

attribute [local simp] isoEntry isoMetadataSize isoHeaderSize isoPacketSize
attribute [local simp] IsoHdr.magic IsoHdr.version IsoHdr.flags IsoHdr.batchId IsoHdr.start
attribute [local simp] IsoHdr.count IsoHdr.dataLen IsoHdr.startUframe
attribute [local simp] IsoPkt.requested IsoPkt.actual IsoPkt.status IsoPkt.frame IsoPkt.data
attribute [local simp] IsoPkt.uframe

def isoDataLength (packetLengths : List UInt16) : Nat := (packetLengths.map UInt16.toNat).sum

@[simp] theorem isoDataLength_nil : isoDataLength [] = 0 := rfl

@[simp] theorem isoDataLength_cons (length : UInt16) (packetLengths : List UInt16)
    : isoDataLength (length :: packetLengths) = length.toNat + isoDataLength packetLengths := by
  unfold isoDataLength
  rw [List.map_cons, List.sum_cons]

theorem isoTotalData_eq (packetLengths : List UInt16) {totalData : Nat} (h : totalData ≤ isoDataMax)
    : isoTotalData totalData packetLengths
        = if totalData + isoDataLength packetLengths > isoDataMax then
            none
          else
            some (totalData + isoDataLength packetLengths) := by
  induction packetLengths generalizing totalData with
  | nil =>
    unfold isoTotalData
    rw [isoDataLength_nil, if_neg (by omega), Nat.add_zero]
  | cons length packetLengths ih =>
    unfold isoTotalData
    rw [isoDataLength_cons, ← Nat.add_assoc]
    by_cases hmax : totalData + length.toNat > isoDataMax
    . rw [if_pos hmax, if_pos (by omega)]
    . rw [if_neg hmax]
      apply ih
      omega

section Header

variable {wire wire' : Nat → UInt8} {batchId : UInt32} {flags startFrame : UInt16}
variable {startMicroframe : UInt8} {packetCount totalData : Nat}

/-- The header of a batch is in memory. -/
structure Headed (wire : Nat → UInt8) (batchId : UInt32) (startFrame : UInt16)
    (startMicroframe : UInt8) (packetCount totalData : Nat) : Prop where
  magic : readBe32 wire IsoHdr.magic = isoMagic
  version : readBe16 wire IsoHdr.version = isoVersion
  batchId : readBe32 wire IsoHdr.batchId = batchId
  start : readBe16 wire IsoHdr.start = startFrame
  count : readBe16 wire IsoHdr.count = UInt16.ofNat packetCount
  dataLen : readBe32 wire IsoHdr.dataLen = UInt32.ofNat totalData
  startUframe : wire IsoHdr.startUframe = startMicroframe

theorem isoWriteHeader_of_ge {i : Nat} (h : isoHeaderSize ≤ i)
    : isoWriteHeader wire batchId flags startFrame startMicroframe packetCount totalData i
        = wire i := by
  unfold isoHeaderSize at h
  unfold isoWriteHeader
  simp only [IsoHdr.magic, IsoHdr.version, IsoHdr.flags, IsoHdr.batchId, IsoHdr.start,
    IsoHdr.count, IsoHdr.dataLen, IsoHdr.startUframe]
  rw [Function.update_of_ne (by omega), writeBe32_of_outside _ (by omega)]
  rw [writeBe16_of_outside _ (by omega), writeBe16_of_outside _ (by omega)]
  rw [writeBe32_of_outside _ (by omega), writeBe16_of_outside _ (by omega)]
  rw [writeBe16_of_outside _ (by omega), writeBe32_of_outside _ (by omega)]

theorem isoWriteHeader_congr {i : Nat} (h : wire i = wire' i)
    : isoWriteHeader wire batchId flags startFrame startMicroframe packetCount totalData i
        = isoWriteHeader wire' batchId flags startFrame startMicroframe packetCount totalData i := by
  unfold isoWriteHeader
  apply update_congr
  repeat apply store_congr
  exact h

theorem headed_isoWriteHeader
    : Headed (isoWriteHeader wire batchId flags startFrame startMicroframe packetCount totalData)
        batchId (startFrame &&& 0x07ff) startMicroframe packetCount totalData := by
  constructor <;> unfold isoWriteHeader <;>
    simp (disch := decide) [readBe16_writeBe16_of_apart, readBe16_writeBe32_of_apart,
      readBe32_writeBe16_of_apart, readBe32_writeBe32_of_apart, readBe16_update_of_apart,
      readBe32_update_of_apart]

theorem Headed.congr
    (h : Headed wire batchId startFrame startMicroframe packetCount totalData)
    (hwire : ∀ i, i < isoHeaderSize → wire i = wire' i)
    : Headed wire' batchId startFrame startMicroframe packetCount totalData := by
  have h16 : ∀ address, address + 2 ≤ isoHeaderSize →
      readBe16 wire address = readBe16 wire' address := by
    intro address haddress
    apply readBe16_congr
    intro i _ _
    apply hwire
    omega
  have h32 : ∀ address, address + 4 ≤ isoHeaderSize →
      readBe32 wire address = readBe32 wire' address := by
    intro address haddress
    apply readBe32_congr
    intro i _ _
    apply hwire
    omega
  constructor
  . rw [← h32 _ (by decide), h.magic]
  . rw [← h16 _ (by decide), h.version]
  . rw [← h32 _ (by decide), h.batchId]
  . rw [← h16 _ (by decide), h.start]
  . rw [← h16 _ (by decide), h.count]
  . rw [← h32 _ (by decide), h.dataLen]
  . rw [← hwire _ (by decide), h.startUframe]

end Header

section Entries

variable {wire wire' : Nat → UInt8}

/-- The lengths and offsets of the packets from `index` on are in memory. -/
def Queued (wire : Nat → UInt8) (index offset : Nat) (packetLengths : List UInt16) : Prop :=
  match packetLengths with
  | [] => True
  | length :: packetLengths =>
    readBe16 wire (isoEntry index + IsoPkt.requested) = length ∧
      readBe32 wire (isoEntry index + IsoPkt.data) = UInt32.ofNat offset ∧
      Queued wire (index + 1) (offset + length.toNat) packetLengths

theorem isoEntry_succ (index : Nat) : isoEntry (index + 1) = isoEntry index + 16 := by
  unfold isoEntry isoPacketSize
  omega

theorem Queued.congr {index offset : Nat} {packetLengths : List UInt16}
    (h : Queued wire index offset packetLengths)
    (hwire : ∀ i, isoEntry index ≤ i → i < isoEntry (index + packetLengths.length) →
      wire i = wire' i)
    : Queued wire' index offset packetLengths := by
  induction packetLengths generalizing index offset with
  | nil => trivial
  | cons length packetLengths ih =>
    unfold Queued at h ⊢
    simp only [List.length_cons] at hwire
    have hend : isoEntry index + 16 ≤ isoEntry (index + (packetLengths.length + 1)) := by
      simp
      omega
    refine ⟨?_, ?_, ?_⟩
    . rw [← h.1]
      symm
      apply readBe16_congr
      intro i _ _
      apply hwire <;> simp at * <;> omega
    . rw [← h.2.1]
      symm
      apply readBe32_congr
      intro i _ _
      apply hwire <;> simp at * <;> omega
    . apply ih h.2.2
      intro i hlo hhi
      apply hwire
      . rw [isoEntry_succ] at hlo
        omega
      . rw [Nat.add_right_comm] at hhi
        exact hhi

theorem isoWriteEntries_of_lt {index totalData i : Nat} {packetLengths : List UInt16}
    (h : i < isoEntry index)
    : isoWriteEntries wire index totalData packetLengths i = wire i := by
  induction packetLengths generalizing wire index totalData with
  | nil => rfl
  | cons length packetLengths ih =>
    unfold isoWriteEntries
    simp only
    rw [ih (by rw [isoEntry_succ]; omega)]
    rw [writeBe32_of_outside _ (by omega), writeBe16_of_outside _ (by omega)]

theorem isoWriteEntries_of_ge {index totalData i : Nat} {packetLengths : List UInt16}
    (h : isoEntry (index + packetLengths.length) ≤ i)
    : isoWriteEntries wire index totalData packetLengths i = wire i := by
  induction packetLengths generalizing wire index totalData with
  | nil => rfl
  | cons length packetLengths ih =>
    unfold isoWriteEntries
    simp only
    rw [List.length_cons, ← Nat.add_assoc, Nat.add_right_comm] at h
    rw [ih h]
    have hentry : isoEntry index + 16 ≤ i := by
      simp at h ⊢
      omega
    simp only [IsoPkt.data, IsoPkt.requested]
    rw [writeBe32_of_outside _ (by omega), writeBe16_of_outside _ (by omega)]

theorem isoWriteEntries_congr {index totalData i : Nat} {packetLengths : List UInt16}
    (h : wire i = wire' i)
    : isoWriteEntries wire index totalData packetLengths i
        = isoWriteEntries wire' index totalData packetLengths i := by
  induction packetLengths generalizing wire wire' index totalData with
  | nil => exact h
  | cons length packetLengths ih =>
    unfold isoWriteEntries
    apply ih
    apply store_congr
    apply store_congr
    exact h

theorem queued_isoWriteEntries {index offset : Nat} {packetLengths : List UInt16}
    : Queued (isoWriteEntries wire index offset packetLengths) index offset packetLengths := by
  induction packetLengths generalizing wire index offset with
  | nil => trivial
  | cons length packetLengths ih =>
    unfold Queued isoWriteEntries
    simp only
    refine ⟨?_, ?_, ih⟩
    . rw [readBe16_congr fun i _ _ => isoWriteEntries_of_lt (by simp at *; omega)]
      simp (disch := omega) [readBe16_writeBe32_of_apart]
    . rw [readBe32_congr fun i _ _ => isoWriteEntries_of_lt (by simp at *; omega)]
      simp

end Entries

section Fills

variable {wire wire' : Nat → UInt8}

/-- The entries of the packets from `index` on are in memory, filled in. -/
def Filled (wire : Nat → UInt8) (index offset : Nat) (fills : List IsoFill)
    (packetLengths : List UInt16) : Prop :=
  match fills, packetLengths with
  | fill :: fills, length :: packetLengths =>
    readBe16 wire (isoEntry index + IsoPkt.requested) = length ∧
      readBe16 wire (isoEntry index + IsoPkt.actual) = fill.actual ∧
      readBe16 wire (isoEntry index + IsoPkt.status) = fill.status ∧
      readBe16 wire (isoEntry index + IsoPkt.frame) = fill.frame ∧
      readBe32 wire (isoEntry index + IsoPkt.data) = UInt32.ofNat offset ∧
      wire (isoEntry index + IsoPkt.uframe) = fill.microframe ∧
      Filled wire (index + 1) (offset + length.toNat) fills packetLengths
  | _, _ => True

theorem isoFill_of_lt {index i : Nat} {fills : List IsoFill} (h : i < isoEntry index)
    : isoFill wire index fills i = wire i := by
  induction fills generalizing wire index with
  | nil => rfl
  | cons fill fills ih =>
    unfold isoFill
    simp only
    rw [ih (by rw [isoEntry_succ]; omega)]
    rw [Function.update_of_ne (by omega), writeBe16_of_outside _ (by omega)]
    rw [writeBe16_of_outside _ (by omega), writeBe16_of_outside _ (by omega)]

/-- The lengths and offsets of later packets stand where one packet is filled in. -/
theorem filled_isoFill {index offset : Nat} {fills : List IsoFill} {packetLengths : List UInt16}
    (h : Queued wire index offset packetLengths)
    : Filled (isoFill wire index fills) index offset fills packetLengths := by
  induction fills generalizing wire index offset packetLengths with
  | nil => trivial
  | cons fill fills ih =>
    cases packetLengths with
    | nil => trivial
    | cons length packetLengths =>
      obtain ⟨hrequested, hdata, hrest⟩ := h
      unfold Filled isoFill
      simp only
      have h16 (m : Nat → UInt8) : ∀ field, field + 2 ≤ 16 →
          readBe16 (isoFill m (index + 1) fills) (isoEntry index + field)
            = readBe16 m (isoEntry index + field) := by
        intro field hfield
        apply readBe16_congr
        intro i _ _
        apply isoFill_of_lt
        rw [isoEntry_succ]
        omega
      have h32 (m : Nat → UInt8) : readBe32 (isoFill m (index + 1) fills) (isoEntry index + IsoPkt.data)
          = readBe32 m (isoEntry index + IsoPkt.data) := by
        apply readBe32_congr
        intro i _ hi
        apply isoFill_of_lt
        rw [isoEntry_succ]
        simp only [IsoPkt.data] at hi
        omega
      rw [h16 _ _ (by decide), h16 _ _ (by decide), h16 _ _ (by decide), h16 _ _ (by decide), h32]
      rw [isoFill_of_lt (by rw [isoEntry_succ]; simp)]
      refine ⟨?_, ?_, ?_, ?_, ?_, ?_, ?_⟩
      . rw [← hrequested]
        simp (disch := omega) [readBe16_writeBe16_of_apart, readBe16_update_of_apart]
      . simp (disch := omega) [readBe16_writeBe16_of_apart, readBe16_update_of_apart]
      . simp (disch := omega) [readBe16_writeBe16_of_apart, readBe16_update_of_apart]
      . simp (disch := omega) [readBe16_update_of_apart]
      . rw [← hdata]
        simp (disch := omega) [readBe32_writeBe16_of_apart, readBe32_update_of_apart]
      . apply Function.update_self
      . apply ih
        apply hrest.congr
        intro i hlo _
        rw [isoEntry_succ] at hlo
        simp only [IsoPkt.actual, IsoPkt.status, IsoPkt.frame, IsoPkt.uframe]
        rw [Function.update_of_ne (by omega), writeBe16_of_outside _ (by omega)]
        rw [writeBe16_of_outside _ (by omega), writeBe16_of_outside _ (by omega)]

theorem Filled.congr {index offset : Nat} {fills : List IsoFill} {packetLengths : List UInt16}
    (h : Filled wire index offset fills packetLengths)
    (hwire : ∀ i, i < isoEntry (index + fills.length) → wire i = wire' i)
    : Filled wire' index offset fills packetLengths := by
  induction fills generalizing index offset packetLengths with
  | nil => trivial
  | cons fill fills ih =>
    cases packetLengths with
    | nil => trivial
    | cons length packetLengths =>
      obtain ⟨hrequested, hactual, hstatus, hframe, hdata, huframe, hrest⟩ := h
      simp only [List.length_cons] at hwire
      have hend : isoEntry index + 16 ≤ isoEntry (index + (fills.length + 1)) := by
        simp
        omega
      have h16 : ∀ field, field + 2 ≤ 16 →
          readBe16 wire' (isoEntry index + field) = readBe16 wire (isoEntry index + field) := by
        intro field hfield
        symm
        apply readBe16_congr
        intro i _ _
        apply hwire
        omega
      unfold Filled
      refine ⟨?_, ?_, ?_, ?_, ?_, ?_, ?_⟩
      . rw [h16 _ (by decide), hrequested]
      . rw [h16 _ (by decide), hactual]
      . rw [h16 _ (by decide), hstatus]
      . rw [h16 _ (by decide), hframe]
      . rw [← hdata]
        symm
        apply readBe32_congr
        intro i _ hi
        simp only [IsoPkt.data] at hi
        apply hwire
        omega
      . rw [← huframe]
        symm
        apply hwire
        simp only [IsoPkt.uframe]
        omega
      . apply ih hrest
        intro i hi
        apply hwire
        rw [Nat.add_right_comm] at hi
        exact hi

end Fills

end ZZUsb
