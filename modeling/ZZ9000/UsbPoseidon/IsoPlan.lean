import ZZ9000.UsbPoseidon.IsoRoundTrip

/-!
This module contains the planning of an ISO transfer and proves that planned batches can be built.
-/

namespace ZZUsb

/-- The loop of `zzusb_iso_plan_simple`. -/
def isoPlanLengths (payload : UInt16) (remaining count : Nat) : List UInt16 :=
  match count with
  | 0 => []
  | count + 1 =>
    let length := if remaining > payload.toNat then payload else UInt16.ofNat remaining
    length :: isoPlanLengths payload (remaining - length.toNat) count

def isoPlanSimple (totalLength : UInt32) (encodedMaxPacket : UInt16) (capacity : Nat)
    : Option (List UInt16) :=
  let payload := isoPayloadSize encodedMaxPacket
  if capacity = 0 ∨ payload = 0 ∨ totalLength.toNat > isoDataMax then
    none
  else
    let count :=
      if totalLength ≠ 0 then (totalLength.toNat + payload.toNat - 1) / payload.toNat else 1
    if count > capacity ∨ count > isoMaxPackets then
      none
    else
      some (isoPlanLengths payload totalLength.toNat count)

section Simple

variable {payload : UInt16} {remaining count : Nat}

theorem length_isoPlanLengths : (isoPlanLengths payload remaining count).length = count := by
  induction count generalizing remaining with
  | zero => rfl
  | succ count ih =>
    unfold isoPlanLengths
    rw [List.length_cons, ih]

theorem toNat_planned (h : ¬remaining > payload.toNat) : (UInt16.ofNat remaining).toNat = remaining := by
  have := payload.toNat_lt
  rw [UInt16.toNat_ofNat']
  omega

theorem isoPlanLengths_le {length : UInt16} (h : length ∈ isoPlanLengths payload remaining count)
    : length ≤ payload := by
  induction count generalizing remaining with
  | zero => simp [isoPlanLengths] at h
  | succ count ih =>
    unfold isoPlanLengths at h
    cases List.mem_cons.mp h with
    | inr h => exact ih h
    | inl h =>
      rw [h]
      apply UInt16.le_iff_toNat_le.mpr
      split
      next => apply Nat.le_refl
      next hfits =>
        rw [toNat_planned hfits]
        omega

theorem isoDataLength_isoPlanLengths (h : remaining ≤ count * payload.toNat)
    : isoDataLength (isoPlanLengths payload remaining count) = remaining := by
  induction count generalizing remaining with
  | zero =>
    rw [Nat.zero_mul] at h
    unfold isoPlanLengths
    rw [isoDataLength_nil]
    omega
  | succ count ih =>
    rw [Nat.succ_mul] at h
    unfold isoPlanLengths
    rw [isoDataLength_cons]
    split
    next hmore =>
      rw [ih (by omega)]
      omega
    next hfits =>
      rw [toNat_planned hfits, ih (by omega)]
      omega

theorem isoDataLength_le {packetLengths : List UInt16}
    (h : ∀ length ∈ packetLengths, length ≤ payload)
    : isoDataLength packetLengths ≤ packetLengths.length * payload.toNat := by
  induction packetLengths with
  | nil => simp
  | cons length packetLengths ih =>
    simp only [List.forall_mem_cons] at h
    have hlength := UInt16.le_iff_toNat_le.mp h.1
    have hrest := ih h.2
    rw [isoDataLength_cons, List.length_cons, Nat.succ_mul]
    omega

end Simple

section RoundedUp

variable {n d q : Nat}

theorem le_roundedUp_mul (h : 0 < d) : n ≤ (n + d - 1) / d * d := by
  have := Nat.lt_div_mul_add (a := n + d - 1) h
  omega

theorem roundedUp_pos (h : 0 < d) (hn : 0 < n) : 0 < (n + d - 1) / d := by
  apply Nat.div_pos
  . omega
  . exact h

theorem roundedUp_le (h : 0 < d) (hn : n ≤ q * d) : (n + d - 1) / d ≤ q := by
  apply Nat.le_of_lt_succ
  apply (Nat.div_lt_iff_lt_mul h).mpr
  rw [Nat.succ_mul]
  omega

end RoundedUp

theorem isoPlanSimple_some {totalLength : UInt32} {encodedMaxPacket : UInt16} {capacity : Nat}
    {packetLengths : List UInt16}
    (h : isoPlanSimple totalLength encodedMaxPacket capacity = some packetLengths)
    : 0 < packetLengths.length ∧ packetLengths.length ≤ min capacity isoMaxPackets ∧
        isoDataLength packetLengths = totalLength.toNat ∧ totalLength.toNat ≤ isoDataMax ∧
        (∀ length ∈ packetLengths, length ≤ isoPayloadSize encodedMaxPacket) ∧
        ∀ others : List UInt16, others ≠ [] → isoDataLength others = totalLength.toNat →
          (∀ length ∈ others, length ≤ isoPayloadSize encodedMaxPacket) →
          packetLengths.length ≤ others.length := by
  unfold isoPlanSimple at h
  simp only [Option.ite_none_left_eq_some, not_or, Nat.not_lt, gt_iff_lt] at h
  obtain ⟨⟨hcapacity, hpayload, hmax⟩, ⟨hcap, hmany⟩, h⟩ := h
  rw [Option.some.injEq] at h
  have hpositive : 0 < (isoPayloadSize encodedMaxPacket).toNat := by
    apply Nat.pos_of_ne_zero
    intro hzero
    apply hpayload
    apply UInt16.toNat_inj.mp
    exact hzero
  rw [← h, length_isoPlanLengths]
  have hcount : 0 < (if totalLength ≠ 0 then
      (totalLength.toNat + (isoPayloadSize encodedMaxPacket).toNat - 1)
        / (isoPayloadSize encodedMaxPacket).toNat else 1) ∧
      totalLength.toNat ≤ (if totalLength ≠ 0 then
        (totalLength.toNat + (isoPayloadSize encodedMaxPacket).toNat - 1)
          / (isoPayloadSize encodedMaxPacket).toNat else 1)
        * (isoPayloadSize encodedMaxPacket).toNat := by
    split
    next hlength =>
      have hlength : 0 < totalLength.toNat := by
        apply Nat.pos_of_ne_zero
        intro hzero
        apply hlength
        apply UInt32.toNat_inj.mp
        exact hzero
      exact ⟨roundedUp_pos hpositive hlength, le_roundedUp_mul hpositive⟩
    next hlength =>
      simp only [ne_eq, not_not] at hlength
      rw [hlength]
      simp
  refine ⟨hcount.1, ?_, ?_, hmax, ?_, ?_⟩
  . omega
  . exact isoDataLength_isoPlanLengths hcount.2
  . intro length hlength
    exact isoPlanLengths_le hlength
  . intro others hothers htotal hevery
    have hle := isoDataLength_le hevery
    rw [htotal] at hle
    split
    next => exact roundedUp_le hpositive hle
    next => exact List.length_pos_iff.mpr hothers

/-- The loop counts the packets that fit after the first `count` ones. -/
theorem isoLimitFrom_spec (wireCapacity : Nat) (packetLengths : List UInt16) (count totalData : Nat)
    : ∃ n, isoLimitFrom wireCapacity count totalData packetLengths = count + n ∧
        n ≤ packetLengths.length ∧
        (0 < n →
          isoMetadataSize (count + n) + (totalData + isoDataLength (packetLengths.take n))
            ≤ wireCapacity) ∧
        ∀ m, 0 < m → m ≤ packetLengths.length →
          isoMetadataSize (count + m) + (totalData + isoDataLength (packetLengths.take m))
            ≤ wireCapacity →
          m ≤ n := by
  induction packetLengths generalizing count totalData with
  | nil =>
    refine ⟨0, rfl, Nat.le_refl _, ?_, ?_⟩
    . intro h
      omega
    . intro m _ hm _
      exact hm
  | cons length packetLengths ih =>
    unfold isoLimitFrom
    simp only
    split
    next hover =>
      refine ⟨0, rfl, Nat.zero_le _, ?_, ?_⟩
      . intro h
        omega
      . intro m hpositive hm hfits
        cases m with
        | zero => omega
        | succ m =>
          rw [List.take_succ_cons, isoDataLength_cons] at hfits
          unfold isoMetadataSize isoEntry isoPacketSize at hfits
          unfold isoPacketSize at hover
          omega
    next hfits =>
      obtain ⟨n, hlimit, hn, hsize, hlargest⟩ := ih (count + 1) (totalData + length.toNat)
      refine ⟨n + 1, ?_, ?_, ?_, ?_⟩
      . rw [hlimit]
        omega
      . rw [List.length_cons]
        omega
      . intro _
        have hassoc : count + (n + 1) = count + 1 + n := by omega
        rw [List.take_succ_cons, isoDataLength_cons, hassoc]
        cases Nat.eq_zero_or_pos n with
        | inl hn =>
          rw [hn, List.take_zero, isoDataLength_nil, Nat.add_zero (count + 1)]
          unfold isoMetadataSize isoEntry
          omega
        | inr hn =>
          have := hsize hn
          omega
      . intro m hpositive hm hfits
        cases m with
        | zero => omega
        | succ m =>
          cases Nat.eq_zero_or_pos m with
          | inl hm => omega
          | inr hpositive =>
            have hassoc : count + (m + 1) = count + 1 + m := by omega
            rw [List.take_succ_cons, isoDataLength_cons, hassoc] at hfits
            rw [List.length_cons] at hm
            have := hlargest m hpositive (by omega) (by omega)
            omega

/-- The size of an OUT batch of the first `n` packets. -/
def isoOutSize (packetLengths : List UInt16) (n : Nat) : Nat :=
  isoMetadataSize n + isoDataLength (packetLengths.take n)

theorem isoLimitPacketCount_spec {packetLengths : List UInt16} {wireCapacity : Nat}
    (h : packetLengths.length ≤ isoMaxPackets)
    : isoLimitPacketCount packetLengths wireCapacity ≤ packetLengths.length ∧
        (0 < isoLimitPacketCount packetLengths wireCapacity →
          isoOutSize packetLengths (isoLimitPacketCount packetLengths wireCapacity)
            ≤ wireCapacity) ∧
        ∀ m, 0 < m → m ≤ packetLengths.length → isoOutSize packetLengths m ≤ wireCapacity →
          m ≤ isoLimitPacketCount packetLengths wireCapacity := by
  obtain ⟨n, hlimit, hspec⟩ := isoLimitFrom_spec wireCapacity packetLengths 0 0
  unfold isoLimitPacketCount isoOutSize
  rw [if_neg (Nat.not_lt.mpr h), hlimit]
  simpa only [Nat.zero_add] using hspec

theorem isoPlanRealtime_some {encodedMaxPacket interval : UInt16} {highSpeed : Bool}
    {capacity duration : Nat} {packetLengths : List UInt16}
    (h : isoPlanRealtime encodedMaxPacket interval highSpeed capacity
      = some (packetLengths, duration))
    : 0 < packetLengths.length ∧ packetLengths.length ≤ min capacity isoMaxPackets ∧
        (∀ length ∈ packetLengths, length = isoPayloadSize encodedMaxPacket) ∧
        packetLengths.length * (isoPayloadSize encodedMaxPacket).toNat ≤ isoDataMax ∧
        duration = packetLengths.length * (interval.toNat * (if highSpeed then 1 else 8)) := by
  unfold isoPlanRealtime at h
  simp only [Option.ite_none_left_eq_some, Option.some.injEq, Prod.mk.injEq] at h
  obtain ⟨_, _, hcount, hlengths, hduration⟩ := h
  rw [← hlengths, List.length_replicate, ← hduration]
  refine ⟨Nat.pos_of_ne_zero hcount, ?_, ?_, ?_, rfl⟩
  . unfold isoRealtimeCount
    simp only
    omega
  . intro length hlength
    exact List.eq_of_mem_replicate hlength
  . apply Nat.le_trans (Nat.mul_le_mul_right _ _) (Nat.div_mul_le_self isoDataMax _)
    unfold isoRealtimeCount
    simp only
    omega

/-- What a planner returned. -/
inductive IsoPlanned : List UInt16 → Prop where
  | simple {totalLength : UInt32} {encodedMaxPacket : UInt16} {capacity : Nat}
    {packetLengths : List UInt16} :
    isoPlanSimple totalLength encodedMaxPacket capacity = some packetLengths →
      IsoPlanned packetLengths
  | realtime {encodedMaxPacket interval : UInt16} {highSpeed : Bool} {capacity duration : Nat}
    {packetLengths : List UInt16} :
    isoPlanRealtime encodedMaxPacket interval highSpeed capacity = some (packetLengths, duration) →
      IsoPlanned packetLengths

theorem IsoPlanned.bounds {packetLengths : List UInt16} (h : IsoPlanned packetLengths)
    : packetLengths.length ≤ isoMaxPackets ∧ isoDataLength packetLengths ≤ isoDataMax := by
  cases h with
  | simple h =>
    obtain ⟨_, hcount, htotal, hmax, _⟩ := isoPlanSimple_some h
    omega
  | realtime h =>
    obtain ⟨_, hcount, hevery, hmax, _⟩ := isoPlanRealtime_some h
    have hle := isoDataLength_le fun length hlength => UInt16.le_of_eq (hevery length hlength)
    omega

theorem isoDataLength_take_le (packetLengths : List UInt16) (n : Nat)
    : isoDataLength (packetLengths.take n) ≤ isoDataLength packetLengths := by
  induction packetLengths generalizing n with
  | nil => simp
  | cons length packetLengths ih =>
    cases n with
    | zero => simp
    | succ n =>
      have := ih n
      rw [List.take_succ_cons, isoDataLength_cons, isoDataLength_cons]
      omega

theorem IsoPlanned.buildable {packetLengths : List UInt16} (h : IsoPlanned packetLengths)
    {wireCapacity capacity : Nat} {batchId : UInt32} {startMicroframe : UInt8}
    (directionIn : Bool) (payload : Nat → UInt8)
    (hlimit : 0 < isoLimitPacketCount packetLengths wireCapacity)
    (hcapacity : wireCapacity ≤ capacity) (hbatchId : batchId ≠ 0) (hmicroframe : startMicroframe ≤ 7)
    : Buildable capacity batchId startMicroframe
        (packetLengths.take (isoLimitPacketCount packetLengths wireCapacity)) (some payload)
        directionIn := by
  obtain ⟨hcount, hdata⟩ := h.bounds
  obtain ⟨hle, hsize, _⟩ := @isoLimitPacketCount_spec _ wireCapacity hcount
  have hsize := hsize hlimit
  have htake := isoDataLength_take_le packetLengths
    (isoLimitPacketCount packetLengths wireCapacity)
  unfold isoOutSize at hsize
  constructor
  . exact hbatchId
  . apply List.ne_nil_of_length_pos
    rw [List.length_take]
    omega
  . rw [List.length_take]
    omega
  . exact hmicroframe
  . omega
  . rw [List.length_take, Nat.min_eq_left hle]
    split <;> omega
  . intro _ _
    rfl

/--
What the planners return keeps their limits, and every non-empty prefix that is limited to a wire
capacity is queued.
-/
theorem isoPlan_buildable
    : (∀ totalLength encodedMaxPacket capacity packetLengths,
        isoPlanSimple totalLength encodedMaxPacket capacity = some packetLengths →
        0 < packetLengths.length ∧ isoDataLength packetLengths = totalLength.toNat ∧
        (∀ length ∈ packetLengths, length ≤ isoPayloadSize encodedMaxPacket) ∧
        ∀ others : List UInt16, others ≠ [] → isoDataLength others = totalLength.toNat →
          (∀ length ∈ others, length ≤ isoPayloadSize encodedMaxPacket) →
          packetLengths.length ≤ others.length) ∧
      (∀ encodedMaxPacket interval highSpeed capacity packetLengths duration,
        isoPlanRealtime encodedMaxPacket interval highSpeed capacity
          = some (packetLengths, duration) →
        0 < packetLengths.length ∧ packetLengths.length ≤ min capacity isoMaxPackets ∧
        packetLengths.length * (isoPayloadSize encodedMaxPacket).toNat ≤ isoDataMax ∧
        duration = packetLengths.length * (interval.toNat * (if highSpeed then 1 else 8))) ∧
      (∀ packetLengths wireCapacity, packetLengths.length ≤ isoMaxPackets →
        isoLimitPacketCount packetLengths wireCapacity ≤ packetLengths.length ∧
        (0 < isoLimitPacketCount packetLengths wireCapacity →
          isoOutSize packetLengths (isoLimitPacketCount packetLengths wireCapacity)
            ≤ wireCapacity) ∧
        ∀ m, 0 < m → m ≤ packetLengths.length → isoOutSize packetLengths m ≤ wireCapacity →
          m ≤ isoLimitPacketCount packetLengths wireCapacity) ∧
      (∀ packetLengths wireCapacity, packetLengths.length > isoMaxPackets →
        isoLimitPacketCount packetLengths wireCapacity = 0) ∧
      (∀ packetLengths wireCapacity wire capacity batchId flags startFrame startMicroframe payload
        directionIn,
        IsoPlanned packetLengths → 0 < isoLimitPacketCount packetLengths wireCapacity →
        wireCapacity ≤ capacity → batchId ≠ 0 → startMicroframe ≤ 7 →
        0 < (isoBuildQueue wire capacity batchId flags startFrame startMicroframe
          (packetLengths.take (isoLimitPacketCount packetLengths wireCapacity)) (some payload)
          directionIn).1) := by
  refine ⟨?_, ?_, ?_, ?_, ?_⟩
  . intro totalLength encodedMaxPacket capacity packetLengths h
    obtain ⟨hpositive, _, htotal, _, hevery, hleast⟩ := isoPlanSimple_some h
    exact ⟨hpositive, htotal, hevery, hleast⟩
  . intro encodedMaxPacket interval highSpeed capacity packetLengths duration h
    obtain ⟨hpositive, hcount, _, hdata, hduration⟩ := isoPlanRealtime_some h
    exact ⟨hpositive, hcount, hdata, hduration⟩
  . intro packetLengths wireCapacity h
    exact isoLimitPacketCount_spec h
  . intro packetLengths wireCapacity h
    exact if_pos h
  . intro packetLengths wireCapacity wire capacity batchId flags startFrame startMicroframe payload
      directionIn h hlimit hcapacity hbatchId hmicroframe
    rw [isoBuildQueue_eq (h.buildable directionIn payload hlimit hcapacity hbatchId hmicroframe)]
    apply Nat.lt_of_lt_of_le _ (Nat.le_add_right _ _)
    unfold isoMetadataSize isoEntry isoHeaderSize
    omega

/-- Five packets are planned and three of them fit. -/
theorem isoPlan_buildable_five
    : isoPlanSimple 290 64 32 = some [64, 64, 64, 64, 34] ∧
      isoLimitPacketCount [64, 64, 64, 64, 34] 300 = 3 ∧
      0 < (isoBuildQueue (fun _ => 0) 300 1 0 0 0 [64, 64, 64] (some fun _ => 1) false).1 := by
  refine ⟨by decide, by decide, ?_⟩
  exact isoPlan_buildable.2.2.2.2 [64, 64, 64, 64, 34] 300 (fun _ => 0) 300 1 0 0 0 (fun _ => 1) false
    (.simple (show isoPlanSimple 290 64 32 = some [64, 64, 64, 64, 34] by decide)) (by decide)
    (by decide) (by decide) (by decide)

/-- A list that is longer than a batch is not limited to its part that fits. -/
theorem isoLimitPacketCount_refuses
    : ¬∀ packetLengths wireCapacity m, 0 < m → m ≤ packetLengths.length →
        isoOutSize packetLengths m ≤ wireCapacity →
        m ≤ isoLimitPacketCount packetLengths wireCapacity := by
  intro h
  have := h (List.replicate 33 8) 1000 1 (by decide) (by decide) (by decide)
  revert this
  decide

end ZZUsb
