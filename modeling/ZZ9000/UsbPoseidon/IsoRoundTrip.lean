import ZZ9000.UsbPoseidon.IsoWireLemmas

/-!
This module proves that a queued ISO batch comes back from the firmware as it was queued, and that
whatever the driver accepts as a reply can be sliced safely.
-/

namespace ZZUsb

open Streams

/-- What is copied behind the entries of a queued batch. -/
def isoTail (payload : Option (Nat → UInt8)) (directionIn : Bool) (totalData : Nat) : List UInt8 :=
  match directionIn, payload with
  | false, some payload => load payload 0 totalData
  | _, _ => []

section Build

variable {wire built : Nat → UInt8} {capacity n : Nat} {batchId : UInt32} {flags startFrame : UInt16}
variable {startMicroframe : UInt8} {packetLengths : List UInt16} {payload : Option (Nat → UInt8)}
variable {directionIn : Bool}

/-- The image of a queued batch, written over the caller's memory. -/
def isoImage (wire : Nat → UInt8) (batchId : UInt32) (flags startFrame : UInt16)
    (startMicroframe : UInt8) (packetLengths : List UInt16) (tail : List UInt8) : Nat → UInt8 :=
  let metadataSize := isoMetadataSize packetLengths.length
  let wire := store wire 0 (List.replicate (metadataSize + tail.length) 0)
  let wire := isoWriteHeader wire batchId flags startFrame startMicroframe packetLengths.length
    (isoDataLength packetLengths)
  store (isoWriteEntries wire 0 0 packetLengths) metadataSize tail

/-- A batch that is queued. -/
structure Buildable (capacity : Nat) (batchId : UInt32) (startMicroframe : UInt8)
    (packetLengths : List UInt16) (payload : Option (Nat → UInt8)) (directionIn : Bool) : Prop where
  batchId : batchId ≠ 0
  nonempty : packetLengths ≠ []
  count : packetLengths.length ≤ isoMaxPackets
  startMicroframe : startMicroframe ≤ 7
  data : isoDataLength packetLengths ≤ isoDataMax
  size : isoMetadataSize packetLengths.length
    + (if directionIn then 0 else isoDataLength packetLengths) ≤ capacity
  payload : directionIn = false → isoDataLength packetLengths ≠ 0 → payload.isSome

theorem Buildable.length_isoTail
    (h : Buildable capacity batchId startMicroframe packetLengths payload directionIn)
    : (isoTail payload directionIn (isoDataLength packetLengths)).length
        = if directionIn then 0 else isoDataLength packetLengths := by
  unfold isoTail
  cases directionIn with
  | true => rfl
  | false =>
    cases payload with
    | some payload => exact length_load _
    | none =>
      have := h.payload rfl
      simp at this ⊢
      omega

theorem isoBuildQueue_eq
    (h : Buildable capacity batchId startMicroframe packetLengths payload directionIn)
    : isoBuildQueue wire capacity batchId flags startFrame startMicroframe packetLengths payload
          directionIn
        = (isoMetadataSize packetLengths.length
            + (if directionIn then 0 else isoDataLength packetLengths),
          isoImage wire batchId flags startFrame startMicroframe packetLengths
            (isoTail payload directionIn (isoDataLength packetLengths))) := by
  have hcheck : ¬(batchId = 0 ∨ packetLengths = [] ∨ packetLengths.length > isoMaxPackets ∨
      startMicroframe > 7) := by
    rintro (hid | hempty | hcount | hmicroframe)
    . exact h.batchId hid
    . exact h.nonempty hempty
    . exact Nat.not_lt.mpr h.count hcount
    . exact UInt8.not_lt.mpr h.startMicroframe hmicroframe
  have htotal : isoTotalData 0 packetLengths = some (isoDataLength packetLengths) := by
    have hdata := h.data
    rw [isoTotalData_eq _ (by decide), if_neg (by omega), Nat.zero_add]
  have hlength := h.length_isoTail
  have hsize := h.size
  unfold isoBuildQueue
  rw [if_neg hcheck, htotal]
  simp only
  rw [if_neg]
  . unfold isoImage
    rw [hlength]
    cases directionIn with
    | true => rfl
    | false =>
      cases payload with
      | none => rfl
      | some payload => rfl
  . rintro (hover | ⟨hout, hdata, hnone⟩)
    . omega
    . have := h.payload hout hdata
      rw [Option.isNone_iff_eq_none] at hnone
      rw [hnone] at this
      simp at this

theorem isoBuildQueue_of_not
    (h : ¬Buildable capacity batchId startMicroframe packetLengths payload directionIn)
    : isoBuildQueue wire capacity batchId flags startFrame startMicroframe packetLengths payload
        directionIn = (0, wire) := by
  unfold isoBuildQueue
  split
  next => rfl
  next hcheck =>
    rw [isoTotalData_eq _ (by decide), Nat.zero_add]
    by_cases hmax : isoDataLength packetLengths > isoDataMax
    . rw [if_pos hmax]
    . rw [if_neg hmax]
      simp only
      apply if_pos
      simp only [not_or] at hcheck
      by_contra hrefused
      simp only [not_or, not_and] at hrefused
      apply h
      constructor
      . exact hcheck.1
      . exact hcheck.2.1
      . exact Nat.not_lt.mp hcheck.2.2.1
      . exact UInt8.not_lt.mp hcheck.2.2.2
      . exact Nat.not_lt.mp hmax
      . exact Nat.not_lt.mp hrefused.1
      . intro hout hdata
        have := hrefused.2 hout hdata
        cases payload with
        | some payload => rfl
        | none => simp at this

/-- The realtime slots only look at the size of the image. -/
theorem isoBuildQueue_size (hmicroframe : startMicroframe ≤ 7) (hpayload : payload.isSome)
    : (isoBuildQueue wire capacity batchId flags startFrame startMicroframe packetLengths payload
        directionIn).1 = isoBuildQueueSize capacity batchId packetLengths directionIn := by
  have hdata : (packetLengths.map UInt16.toNat).sum = isoDataLength packetLengths := rfl
  have hmetadata : isoHeaderSize + packetLengths.length * isoPacketSize
      = isoMetadataSize packetLengths.length := rfl
  unfold isoBuildQueueSize
  simp only
  rw [hdata, hmetadata]
  by_cases h : Buildable capacity batchId startMicroframe packetLengths payload directionIn
  . have hcount := h.count
    have hmax := h.data
    have hsize := h.size
    rw [isoBuildQueue_eq h]
    symm
    rw [ite_eq_right_iff.mpr]
    . exact if_neg (Nat.not_lt.mpr hsize)
    . rintro (hid | hempty | hmany | hlong)
      . exact absurd hid h.batchId
      . exact absurd hempty h.nonempty
      . omega
      . omega
  . rw [isoBuildQueue_of_not h]
    split
    next => rfl
    next hcheck =>
      simp only [not_or, Nat.not_lt, gt_iff_lt] at hcheck
      rw [if_pos]
      by_contra hsize
      apply h
      exact {
        batchId := hcheck.1
        nonempty := hcheck.2.1
        count := hcheck.2.2.1
        startMicroframe := hmicroframe
        data := hcheck.2.2.2
        size := Nat.not_lt.mp hsize
        payload := fun _ _ => hpayload
      }

end Build

section Image

variable {wire : Nat → UInt8} {batchId : UInt32} {flags startFrame : UInt16}
variable {startMicroframe : UInt8} {packetLengths : List UInt16} {tail : List UInt8}

theorem isoImage_of_ge {i : Nat} (h : isoMetadataSize packetLengths.length + tail.length ≤ i)
    : isoImage wire batchId flags startFrame startMicroframe packetLengths tail i = wire i := by
  unfold isoImage
  rw [store_of_ge h, isoWriteEntries_of_ge (by rw [Nat.zero_add]; unfold isoMetadataSize at h; omega)]
  rw [isoWriteHeader_of_ge (by unfold isoMetadataSize isoEntry at h; omega)]
  rw [store_of_ge (by rw [List.length_replicate]; omega)]

/-- What a batch writes does not depend on what was there before. -/
theorem isoImage_of_lt (wire' : Nat → UInt8) {i : Nat}
    (h : i < isoMetadataSize packetLengths.length + tail.length)
    : isoImage wire' batchId flags startFrame startMicroframe packetLengths tail i
        = isoImage wire batchId flags startFrame startMicroframe packetLengths tail i := by
  unfold isoImage
  apply store_congr
  apply isoWriteEntries_congr
  apply isoWriteHeader_congr
  have hzero := @store_getElem _ wire 0
    (List.replicate (isoMetadataSize packetLengths.length + tail.length) 0) i (by simpa using h)
  have hzero' := @store_getElem _ wire' 0
    (List.replicate (isoMetadataSize packetLengths.length + tail.length) 0) i (by simpa using h)
  rw [Nat.zero_add] at hzero hzero'
  rw [hzero, hzero']

theorem headed_isoImage
    : Headed (isoImage wire batchId flags startFrame startMicroframe packetLengths tail) batchId
        (startFrame &&& 0x07ff) startMicroframe packetLengths.length
        (isoDataLength packetLengths) := by
  unfold isoImage
  apply headed_isoWriteHeader.congr
  . intro i hi
    have hmetadata : isoHeaderSize ≤ isoMetadataSize packetLengths.length := by
      unfold isoMetadataSize isoEntry
      omega
    rw [store_of_lt (by omega), isoWriteEntries_of_lt (by unfold isoEntry; omega)]

theorem queued_isoImage
    : Queued (isoImage wire batchId flags startFrame startMicroframe packetLengths tail) 0 0
        packetLengths := by
  apply queued_isoWriteEntries.congr
  intro i _ hi
  unfold isoImage
  rw [Nat.zero_add] at hi
  symm
  exact store_of_lt hi

end Image

section Parse

variable {wire : Nat → UInt8} {totalData expectedOffset finalOffset : UInt32}

theorem toNat_add_requested (requested : UInt16) (hmax : totalData.toNat ≤ isoDataMax)
    (hexpected : expectedOffset ≤ totalData)
    : (expectedOffset + requested.toUInt32).toNat = expectedOffset.toNat + requested.toNat := by
  have hrequested := requested.toNat_lt
  have hexpected := UInt32.le_iff_toNat_le.mp hexpected
  unfold isoDataMax at hmax
  rw [UInt32.toNat_add, UInt16.toNat_toUInt32]
  omega

/-- What is checked of one packet. -/
theorem isoParsePacket_some {index : Nat} {packet : IsoPacketResult}
    (h : isoParsePacket wire totalData index expectedOffset = some packet)
    : packet.offset = expectedOffset ∧ packet.actual ≤ packet.requested ∧
        packet.offset + packet.requested.toUInt32 ≤ totalData := by
  unfold isoParsePacket at h
  simp only at h
  split at h
  next => simp at h
  next =>
    split at h
    next => simp at h
    next hcheck =>
      rw [Option.some.injEq] at h
      simp only [not_or, ne_eq, not_not] at hcheck
      rw [← h]
      refine ⟨hcheck.1, ?_, ?_⟩
      . exact UInt16.not_lt.mp hcheck.2.1
      . exact UInt32.not_lt.mp hcheck.2.2.1

theorem isoParsePackets_partition {index n : Nat} {packets : List IsoPacketResult}
    (h : isoParsePackets wire totalData index expectedOffset n = some (packets, finalOffset))
    (hmax : totalData.toNat ≤ isoDataMax) (hexpected : expectedOffset ≤ totalData)
    : packets.length = n ∧ IsoPartition expectedOffset.toNat finalOffset.toNat packets ∧
        ∀ packet ∈ packets, packet.actual ≤ packet.requested ∧
          packet.offset.toNat + packet.requested.toNat ≤ totalData.toNat := by
  induction n generalizing index expectedOffset packets with
  | zero =>
    unfold isoParsePackets at h
    simp only [Option.some.injEq, Prod.mk.injEq] at h
    rw [← h.1, ← h.2]
    unfold IsoPartition
    simp
  | succ n ih =>
    unfold isoParsePackets at h
    split at h
    next => simp at h
    next packet hpacket =>
      split at h
      next => simp at h
      next rest final hrest =>
        simp only [Option.some.injEq, Prod.mk.injEq] at h
        obtain ⟨hpackets, hfinal⟩ := h
        obtain ⟨hoffset, hactual, hinside⟩ := isoParsePacket_some hpacket
        rw [hoffset] at hinside
        have hadd := toNat_add_requested packet.requested hmax hexpected
        rw [hfinal] at hrest
        obtain ⟨hlength, hpartition, hevery⟩ := ih hrest hinside
        rw [hadd] at hpartition
        rw [← hpackets]
        refine ⟨?_, ?_, ?_⟩
        . rw [List.length_cons, hlength]
        . unfold IsoPartition
          rw [hoffset]
          exact ⟨rfl, hpartition⟩
        . intro p hp
          cases List.mem_cons.mp hp with
          | inl hp =>
            have := UInt32.le_iff_toNat_le.mp hinside
            rw [hp, hoffset, ← hadd]
            exact ⟨hactual, this⟩
          | inr hp => exact hevery p hp

theorem isoParsePacket_filled {index offset : Nat} {fill : IsoFill} {length : UInt16}
    {fills : List IsoFill} {packetLengths : List UInt16}
    (h : Filled wire index offset (fill :: fills) (length :: packetLengths))
    (hfits : fill.Fits length) (htotal : offset + length.toNat ≤ totalData.toNat)
    : isoParsePacket wire totalData index (UInt32.ofNat offset)
        = some {
            offset := UInt32.ofNat offset
            requested := length
            actual := fill.actual
            frame := fill.frame &&& 0x07ff
            microframe := fill.microframe
            status := fill.status.toUInt8
          } := by
  obtain ⟨hrequested, hactual, hstatus, hframe, hdata, huframe, _⟩ := h
  unfold isoParsePacket
  simp only
  rw [hrequested, hactual, hstatus, hframe, hdata, huframe]
  rw [if_neg (UInt16.not_lt.mpr hfits.status)]
  apply if_neg
  rintro (hoffset | hactual | hinside | hmicroframe)
  . exact hoffset rfl
  . exact UInt16.not_lt.mpr hfits.actual hactual
  . have := UInt32.lt_iff_toNat_lt.mp hinside
    rw [UInt32.toNat_add, UInt16.toNat_toUInt32, UInt32.toNat_ofNat'] at this
    omega
  . exact UInt8.not_lt.mpr hfits.microframe hmicroframe

theorem isoParsePackets_filled {index offset : Nat} {fills : List IsoFill}
    {packetLengths : List UInt16} (h : Filled wire index offset fills packetLengths)
    (hfits : List.Forall₂ IsoFill.Fits fills packetLengths)
    (htotal : offset + isoDataLength packetLengths ≤ totalData.toNat)
    : isoParsePackets wire totalData index (UInt32.ofNat offset) packetLengths.length
        = some (isoReaped offset fills packetLengths,
            UInt32.ofNat (offset + isoDataLength packetLengths)) := by
  induction hfits generalizing index offset with
  | nil => rfl
  | @cons fill length fills packetLengths hfill hfits ih =>
    rw [isoDataLength_cons] at htotal ⊢
    rw [List.length_cons]
    unfold isoParsePackets isoReaped
    rw [isoParsePacket_filled h hfill (by omega)]
    simp only
    have hnext : UInt32.ofNat offset + length.toUInt32 = UInt32.ofNat (offset + length.toNat) := by
      rw [UInt32.ofNat_add]
      congr 1
      apply UInt32.toNat_inj.mp
      have := length.toNat_lt
      rw [UInt16.toNat_toUInt32, UInt32.toNat_ofNat']
      omega
    rw [hnext, ih h.2.2.2.2.2.2 (by omega)]
    rw [Nat.add_assoc]

end Parse

section Reaped

variable {fills : List IsoFill} {packetLengths : List UInt16}

theorem requested_isoReaped (offset : Nat) (h : fills.length = packetLengths.length)
    : (isoReaped offset fills packetLengths).map IsoPacketResult.requested = packetLengths := by
  induction fills generalizing offset packetLengths with
  | nil =>
    symm at h
    rw [List.length_eq_zero_iff.mp h]
    rfl
  | cons fill fills ih =>
    cases packetLengths with
    | nil => simp at h
    | cons length packetLengths =>
      unfold isoReaped
      rw [List.map_cons, ih _ (by simpa using h)]

theorem offset_isoReaped (offset : Nat) (h : fills.length = packetLengths.length)
    (hmax : offset + isoDataLength packetLengths ≤ isoDataMax)
    : (isoReaped offset fills packetLengths).map (fun p => p.offset.toNat)
        = (List.range packetLengths.length).map fun i =>
            offset + isoDataLength (packetLengths.take i) := by
  induction fills generalizing offset packetLengths with
  | nil =>
    symm at h
    rw [List.length_eq_zero_iff.mp h]
    rfl
  | cons fill fills ih =>
    cases packetLengths with
    | nil => simp at h
    | cons length packetLengths =>
      rw [isoDataLength_cons] at hmax
      unfold isoReaped
      rw [List.map_cons, ih _ (by simpa using h) (by omega)]
      rw [List.length_cons, List.range_succ_eq_map, List.map_cons, List.map_map]
      congr 1
      . unfold isoDataMax at hmax
        simp
        omega
      . apply List.map_congr_left
        intro i _
        simp only [Function.comp_apply, List.take_succ_cons, isoDataLength_cons]
        omega

end Reaped

section Reply

variable {built : Nat → UInt8} {batchId : UInt32} {startFrame : UInt16} {startMicroframe : UInt8}
variable {packetLengths : List UInt16}

theorem headed_isoReply (fills : List IsoFill) (data : List UInt8)
    (h : Headed built batchId startFrame startMicroframe packetLengths.length
      (isoDataLength packetLengths))
    : Headed (isoReply built fills data) batchId startFrame startMicroframe packetLengths.length
        (isoDataLength packetLengths) := by
  apply h.congr
  intro i hi
  unfold isoReply
  have hmetadata : isoHeaderSize ≤ isoMetadataSize fills.length := by
    unfold isoMetadataSize isoEntry
    omega
  rw [store_of_lt (by omega), isoFill_of_lt (by unfold isoEntry; omega)]

theorem filled_isoReply (fills : List IsoFill) (data : List UInt8)
    (h : Queued built 0 0 packetLengths)
    : Filled (isoReply built fills data) 0 0 fills packetLengths := by
  apply (filled_isoFill h).congr
  intro i hi
  unfold isoReply
  rw [Nat.zero_add] at hi
  symm
  exact store_of_lt hi

theorem isoParseReap_isoReply {fills : List IsoFill} {data : List UInt8} {packetCapacity : Nat}
    {directionIn : Bool}
    (hheaded : Headed built batchId startFrame startMicroframe packetLengths.length
      (isoDataLength packetLengths))
    (hqueued : Queued built 0 0 packetLengths)
    (hbatchId : batchId ≠ 0) (hnonempty : packetLengths ≠ [])
    (hcount : packetLengths.length ≤ isoMaxPackets) (hmicroframe : startMicroframe ≤ 7)
    (hmax : isoDataLength packetLengths ≤ isoDataMax)
    (hfits : List.Forall₂ IsoFill.Fits fills packetLengths)
    (hdata : data.length = if directionIn then isoDataLength packetLengths else 0)
    (hcapacity : packetLengths.length ≤ packetCapacity)
    : isoParseReap (isoReply built fills data) (isoMetadataSize packetLengths.length + data.length)
          directionIn packetCapacity
        = some ({
            batchId
            totalData := UInt32.ofNat (isoDataLength packetLengths)
            startFrame := startFrame &&& 0x07ff
            startMicroframe
            packetCount := UInt8.ofNat packetLengths.length
            metadataSize := isoMetadataSize packetLengths.length
          }, isoReaped 0 fills packetLengths) := by
  have hreply := headed_isoReply fills data hheaded
  have hfilled := filled_isoReply fills data hqueued
  have hpositive := List.length_pos_iff.mpr hnonempty
  unfold isoMaxPackets at hcount
  unfold isoDataMax at hmax
  have hcountNat : (UInt16.ofNat packetLengths.length).toNat = packetLengths.length := by
    rw [UInt16.toNat_ofNat']
    omega
  have htotalNat : (UInt32.ofNat (isoDataLength packetLengths)).toNat
      = isoDataLength packetLengths := by
    rw [UInt32.toNat_ofNat']
    omega
  have hpackets := isoParsePackets_filled hfilled hfits
    (Nat.le_of_eq ((Nat.zero_add _).trans htotalNat.symm))
  unfold isoParseReap
  rw [hreply.magic, hreply.version, hreply.count, hreply.dataLen, hreply.startUframe]
  rw [hreply.batchId, hreply.start]
  rw [if_neg]
  . simp only
    rw [hcountNat, htotalNat, if_neg]
    . rw [if_neg]
      . rw [Nat.zero_add] at hpackets
        have hzero : UInt32.ofNat 0 = 0 := rfl
        rw [hzero] at hpackets
        rw [hpackets]
        simp [hbatchId]
      . rw [hdata]
        simp
    . rintro (hzero | hmany | hcap | htotal | hframe)
      . omega
      . unfold isoMaxPackets at hmany
        omega
      . omega
      . unfold isoDataMax at htotal
        omega
      . exact UInt8.not_lt.mpr hmicroframe hframe
  . rintro (hshort | hmagic | hversion)
    . unfold isoMetadataSize isoEntry at hshort
      omega
    . exact hmagic rfl
    . exact hversion rfl

end Reply

theorem isoParseReap_partition {wire : Nat → UInt8} {wireLength packetCapacity : Nat}
    {directionIn : Bool} {batch : IsoBatchResult} {packets : List IsoPacketResult}
    (h : isoParseReap wire wireLength directionIn packetCapacity = some (batch, packets))
    : batch.packetCount.toNat = packets.length ∧ IsoPartition 0 batch.totalData.toNat packets ∧
        ∀ packet ∈ packets, packet.actual ≤ packet.requested ∧
          (directionIn = true →
            batch.metadataSize + packet.offset.toNat + packet.requested.toNat ≤ wireLength) := by
  unfold isoParseReap at h
  simp only [Option.ite_none_left_eq_some] at h
  obtain ⟨_, hheader, hsize, h⟩ := h
  simp only [not_or, ne_eq, not_not, Nat.not_lt, gt_iff_lt] at hheader hsize
  obtain ⟨_, hmany, _, hmax, _⟩ := hheader
  split at h
  next => simp at h
  next parsed finalOffset hparsed =>
    simp only [Option.ite_none_left_eq_some, Option.some.injEq, Prod.mk.injEq] at h
    obtain ⟨hfinal, hbatch, hpackets⟩ := h
    simp only [not_or, ne_eq, not_not] at hfinal
    rw [hpackets, hfinal.1] at hparsed
    obtain ⟨hlength, hpartition, hevery⟩ := isoParsePackets_partition hparsed hmax
      (UInt32.le_iff_toNat_le.mpr (Nat.zero_le _))
    rw [← hbatch]
    refine ⟨?_, hpartition, ?_⟩
    . unfold isoMaxPackets at hmany
      simp only [UInt8.toNat_ofNat']
      omega
    . intro packet hpacket
      obtain ⟨hactual, hinside⟩ := hevery packet hpacket
      refine ⟨hactual, ?_⟩
      intro hin
      rw [hsize, hin, if_pos rfl]
      simp only
      omega

theorem isoBuildQueue_exact {wire : Nat → UInt8} {capacity : Nat} {batchId : UInt32}
    {flags startFrame : UInt16} {startMicroframe : UInt8} {packetLengths : List UInt16}
    {payload : Option (Nat → UInt8)} {directionIn : Bool} {n : Nat} {built : Nat → UInt8}
    (h : isoBuildQueue wire capacity batchId flags startFrame startMicroframe packetLengths payload
      directionIn = (n, built))
    : n ≤ capacity ∧ (∀ i, n ≤ i → built i = wire i) ∧
        ∀ wire' i, i < n →
          (isoBuildQueue wire' capacity batchId flags startFrame startMicroframe packetLengths
            payload directionIn).2 i = built i := by
  by_cases hbuild : Buildable capacity batchId startMicroframe packetLengths payload directionIn
  . rw [isoBuildQueue_eq hbuild] at h
    simp only [Prod.mk.injEq] at h
    obtain ⟨hn, hbuilt⟩ := h
    have htail := hbuild.length_isoTail
    rw [← hbuilt, ← hn]
    refine ⟨hbuild.size, ?_, ?_⟩
    . intro i hi
      apply isoImage_of_ge
      omega
    . intro wire' i hi
      rw [isoBuildQueue_eq hbuild]
      apply isoImage_of_lt
      omega
  . rw [isoBuildQueue_of_not hbuild] at h
    simp only [Prod.mk.injEq] at h
    rw [← h.1, ← h.2]
    refine ⟨Nat.zero_le _, ?_, ?_⟩
    . intro i _
      rfl
    . intro wire' i hi
      omega

/--
A call writes as many bytes as it returns, each of them whatever was there before. The reply to a
queued batch is accepted and gives the batch and its packets back. In every accepted reply the packets
lie one after the other and inside of the reply.
-/
theorem isoWire_exact
    : (∀ wire capacity batchId flags startFrame startMicroframe packetLengths payload directionIn
        n built,
        isoBuildQueue wire capacity batchId flags startFrame startMicroframe packetLengths payload
          directionIn = (n, built) →
        n ≤ capacity ∧ (∀ i, n ≤ i → built i = wire i) ∧
        (∀ wire' i, i < n →
          (isoBuildQueue wire' capacity batchId flags startFrame startMicroframe packetLengths
            payload directionIn).2 i = built i) ∧
        (n ≠ 0 → ∀ fills data packetCapacity,
          List.Forall₂ IsoFill.Fits fills packetLengths →
          data.length = (if directionIn then isoDataLength packetLengths else 0) →
          packetLengths.length ≤ packetCapacity →
          ∃ batch packets,
            isoParseReap (isoReply built fills data)
              (isoMetadataSize packetLengths.length + data.length) directionIn packetCapacity
                = some (batch, packets) ∧
            batch.batchId = batchId ∧ batch.packetCount.toNat = packetLengths.length ∧
            isoLayoutMatches batch packets packetLengths = true ∧
            packets.map (fun packet => packet.offset.toNat)
              = (List.range packetLengths.length).map (fun i =>
                  isoDataLength (packetLengths.take i)) ∧
            packets = isoReaped 0 fills packetLengths)) ∧
      (∀ wire wireLength directionIn packetCapacity batch packets,
        isoParseReap wire wireLength directionIn packetCapacity = some (batch, packets) →
        batch.packetCount.toNat = packets.length ∧
        IsoPartition 0 batch.totalData.toNat packets ∧
        ∀ packet ∈ packets, packet.actual ≤ packet.requested ∧
          (directionIn = true →
            batch.metadataSize + packet.offset.toNat + packet.requested.toNat ≤ wireLength)) := by
  refine ⟨?_, ?_⟩
  . intro wire capacity batchId flags startFrame startMicroframe packetLengths payload directionIn
      n built h
    obtain ⟨hsize, hafter, hbefore⟩ := isoBuildQueue_exact h
    refine ⟨hsize, hafter, hbefore, ?_⟩
    intro hn fills data packetCapacity hfits hdata hcapacity
    by_cases hbuild : Buildable capacity batchId startMicroframe packetLengths payload directionIn
    . rw [isoBuildQueue_eq hbuild] at h
      simp only [Prod.mk.injEq] at h
      rw [← h.2]
      have hcount := hbuild.count
      have hlength := hfits.length_eq
      refine ⟨_, _, isoParseReap_isoReply headed_isoImage queued_isoImage hbuild.batchId
        hbuild.nonempty hcount hbuild.startMicroframe hbuild.data hfits hdata hcapacity, rfl, ?_, ?_,
        ?_, rfl⟩
      . unfold isoMaxPackets at hcount
        simp only [UInt8.toNat_ofNat']
        omega
      . unfold isoMaxPackets at hcount
        have hrequested := requested_isoReaped 0 hlength
        unfold isoLayoutMatches
        rw [List.map_take, hrequested, List.take_length]
        simp
        omega
      . have hdata := hbuild.data
        rw [offset_isoReaped 0 hlength (by omega)]
        simp only [Nat.zero_add]
    . rw [isoBuildQueue_of_not hbuild] at h
      simp only [Prod.mk.injEq] at h
      omega
  . intro wire wireLength directionIn packetCapacity batch packets h
    exact isoParseReap_partition h

theorem isoWire_exact_two
    : ∃ batch packets,
        isoParseReap
          (isoReply (isoBuildQueue (fun _ => 0xff) 64 7 1 2047 3 [3, 2] none true).2
            [⟨3, 0, 2047, 3⟩, ⟨1, 2, 2047, 4⟩] [10, 11, 12, 13, 14])
          (isoMetadataSize 2 + 5) true 32 = some (batch, packets) ∧
        batch.batchId = 7 ∧ packets.map (fun packet => packet.offset.toNat) = [0, 3] ∧
        IsoPartition 0 batch.totalData.toNat packets := by
  have hfits : List.Forall₂ IsoFill.Fits [⟨3, 0, 2047, 3⟩, ⟨1, 2, 2047, 4⟩] [3, 2] := by
    refine .cons ⟨?_, ?_, ?_⟩ (.cons ⟨?_, ?_, ?_⟩ .nil) <;> decide
  obtain ⟨batch, packets, hparsed, hid, _, _, hoffsets, _⟩ :=
    (isoWire_exact.1 (fun _ => 0xff) 64 7 1 2047 3 [3, 2] none true _ _ rfl).2.2.2 (by decide)
      [⟨3, 0, 2047, 3⟩, ⟨1, 2, 2047, 4⟩] [10, 11, 12, 13, 14] 32 hfits rfl (by decide)
  refine ⟨batch, packets, hparsed, hid, hoffsets, ?_⟩
  exact (isoWire_exact.2 _ _ _ _ _ _ hparsed).2.1

end ZZUsb
