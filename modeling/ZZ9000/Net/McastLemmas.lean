import ZZ9000.Net.Mcast
import Mathlib.Data.Fintype.Card
import Mathlib.Tactic.Common

/-!
This module relates the multicast table to the hash register: the table counts the joins of each
address exactly, and the register holds the buckets of its members and no others.
-/

namespace ZZNet

theorem toUInt16_shiftRight_or_lt (x y : UInt8)
    : (x.toUInt16 >>> 6) ||| ((y.toUInt16 &&& (0x0f : UInt16)) <<< 2) < 64
        ∧
      (x.toUInt16 >>> 4) ||| ((y.toUInt16 &&& (0x03 : UInt16)) <<< 4) < 64 := by
  have hx := x.toNat_lt
  have hy15 : y.toNat &&& 15 ≤ 15 := Nat.and_le_right
  have hy3 : y.toNat &&& 3 ≤ 3 := Nat.and_le_right
  rw [UInt16.lt_iff_toNat_lt]
  rw [UInt16.lt_iff_toNat_lt]
  rw [UInt16.toNat_or]
  rw [UInt16.toNat_or]
  constructor
  . apply @Nat.or_lt_two_pow _ _ 6
    . simp [Nat.shiftRight_eq_div_pow]
      omega
    . simp [Nat.shiftLeft_eq]
      omega
  . apply @Nat.or_lt_two_pow _ _ 6
    . simp [Nat.shiftRight_eq_div_pow]
      omega
    . simp [Nat.shiftLeft_eq]
      omega

theorem toUInt16_and_lt (x : UInt8)
    : x.toUInt16 &&& (0x3f : UInt16) < 64 ∧ x.toUInt16 >>> 2 < 64 := by
  have hx := x.toNat_lt
  have hx63 : x.toNat &&& 63 ≤ 63 := Nat.and_le_right
  rw [UInt16.lt_iff_toNat_lt]
  rw [UInt16.lt_iff_toNat_lt]
  constructor
  . simp
    omega
  . simp [Nat.shiftRight_eq_div_pow]
    omega

theorem mcastHashPieces_lt (a : McastAddr) : ∀ piece ∈ mcastHashPieces a, piece < 64 := by
  intro piece hpiece
  simp only [mcastHashPieces, List.mem_cons, List.not_mem_nil, or_false] at hpiece
  rcases hpiece with h | h | h | h | h | h | h | h
  . rw [h]; apply (toUInt16_and_lt _).1
  . rw [h]; apply (toUInt16_shiftRight_or_lt _ _).1
  . rw [h]; apply (toUInt16_shiftRight_or_lt _ _).2
  . rw [h]; apply (toUInt16_and_lt _).2
  . rw [h]; apply (toUInt16_and_lt _).1
  . rw [h]; apply (toUInt16_shiftRight_or_lt _ _).1
  . rw [h]; apply (toUInt16_shiftRight_or_lt _ _).2
  . rw [h]; apply (toUInt16_and_lt _).2

theorem foldl_xor_lt {pieces : List UInt16} (hpieces : ∀ piece ∈ pieces, piece < 64)
    {hash : UInt16} (hhash : hash < 64)
    : pieces.foldl (fun hash piece => hash ^^^ piece) hash < 64 := by
  induction pieces generalizing hash with
  | nil => exact hhash
  | cons piece pieces ih =>
    rw [List.foldl_cons]
    apply ih
    . intro piece h
      apply hpieces
      simp [h]
    . have hpiece := hpieces piece (by simp)
      rw [UInt16.lt_iff_toNat_lt] at *
      rw [UInt16.toNat_xor]
      apply @Nat.xor_lt_two_pow _ _ 6
      . exact hhash
      . exact hpiece

theorem mcastHash_lt (a : McastAddr) : mcastHash a < 64 := by
  unfold mcastHash
  apply foldl_xor_lt
  . exact mcastHashPieces_lt a
  . decide

/-! The register tells the commands apart, since a bucket has six bits. -/

theorem forall_bucket {p : UInt16 → Prop} (h : ∀ bucket : Fin 64, p (UInt16.ofNat bucket))
    {bucket : UInt16} (hbucket : bucket < 64)
    : p bucket := by
  have := h ⟨bucket.toNat, by rwa [UInt16.lt_iff_toNat_lt] at hbucket⟩
  rwa [UInt16.ofNat_toNat] at this

theorem hashRegister_hashSet {bucket : UInt16} (h : bucket < 64) (bits : Finset UInt16)
    : hashRegister.command (EthConfig.hashSet ||| bucket) bits = insert bucket bits := by
  have hset : (EthConfig.hashSet ||| bucket) &&& EthConfig.hashSet ≠ 0 := by
    apply forall_bucket _ h
    decide
  have hbucket : (EthConfig.hashSet ||| bucket) &&& 0x3f = bucket := by
    apply forall_bucket _ h
    decide
  simp [hashRegister, hset, hbucket]

theorem hashRegister_hashClear {bucket : UInt16} (h : bucket < 64) (bits : Finset UInt16)
    : hashRegister.command (EthConfig.hashClear ||| bucket) bits = bits.erase bucket := by
  have hset : (EthConfig.hashClear ||| bucket) &&& EthConfig.hashSet = 0 := by
    apply forall_bucket _ h
    decide
  have hclear : (EthConfig.hashClear ||| bucket) &&& EthConfig.hashClear ≠ 0 := by
    apply forall_bucket _ h
    decide
  have hbucket : (EthConfig.hashClear ||| bucket) &&& 0x3f = bucket := by
    apply forall_bucket _ h
    decide
  simp [hashRegister, hset, hclear, hbucket]

namespace Mcast

/-- The entry `i` is in use and holds `addr`. -/
def Holds (m : Mcast) (i : Fin mcastMax) (addr : McastAddr) : Prop :=
  (m.entry i).refs ≠ 0 ∧ (m.entry i).addr = addr

@[simp]
theorem setEntry_entry (m : Mcast) (i : Fin mcastMax) (entry : McastEntry) (j : Fin mcastMax)
    : (m.setEntry i entry).entry j = if j = i then entry else m.entry j := by
  apply Function.update_apply

@[simp]
theorem setEntry_count (m : Mcast) (i : Fin mcastMax) (entry : McastEntry)
    : (m.setEntry i entry).count = m.count := by
  rfl

theorem isMember_iff (m : Mcast) (dst : McastAddr)
    : m.isMember dst = true ↔ ∃ i, m.Holds i dst := by
  simp [isMember, Holds]

theorem bucketUsed_iff (m : Mcast) (bucket : UInt16)
    : m.bucketUsed bucket = true
        ↔
      ∃ i, (m.entry i).refs ≠ 0 ∧ mcastHash (m.entry i).addr = bucket := by
  simp [bucketUsed]

theorem bucketUsed_count (m : Mcast) (count : UInt16) (bucket : UInt16)
    : ({ m with count } : Mcast).bucketUsed bucket = m.bucketUsed bucket := by
  rfl

theorem scan_holds {m : Mcast} {addr : McastAddr} {indices : List (Fin mcastMax)}
    {freeEntry : Option (Fin mcastMax)} {i : Fin mcastMax}
    (h : (m.scan addr indices freeEntry).2 = some i)
    : m.Holds i addr := by
  induction indices generalizing freeEntry with
  | nil => simp [scan] at h
  | cons j indices ih =>
    unfold scan at h
    split at h
    . exact ih h
    . next hrefs =>
      split at h
      . next haddr =>
        simp only [Option.some.injEq] at h
        rw [← h]
        exact ⟨by simpa using hrefs, haddr⟩
      . exact ih h

theorem scan_not_holds {m : Mcast} {addr : McastAddr} {indices : List (Fin mcastMax)}
    {freeEntry : Option (Fin mcastMax)} (h : (m.scan addr indices freeEntry).2 = none)
    : ∀ i ∈ indices, ¬m.Holds i addr := by
  induction indices generalizing freeEntry with
  | nil => simp
  | cons j indices ih =>
    unfold scan at h
    intro i hi
    rw [List.mem_cons] at hi
    split at h
    . next hrefs =>
      cases hi with
      | inl heq => simp_all [Holds]
      | inr hmem => exact ih h i hmem
    . split at h
      . contradiction
      . next haddr =>
        cases hi with
        | inl heq => simp_all [Holds]
        | inr hmem => exact ih h i hmem

theorem scan_free {m : Mcast} {addr : McastAddr} {indices : List (Fin mcastMax)}
    {freeEntry : Option (Fin mcastMax)} {i : Fin mcastMax}
    (hfree : ∀ j, freeEntry = some j → (m.entry j).refs = 0)
    (h : (m.scan addr indices freeEntry).1 = some i)
    : (m.entry i).refs = 0 := by
  induction indices generalizing freeEntry with
  | nil => exact hfree i h
  | cons j indices ih =>
    unfold scan at h
    split at h
    . next hrefs =>
      apply ih _ h
      intro k hk
      cases freeEntry with
      | none => simp_all
      | some l => exact hfree k (by simpa using hk)
    . split at h
      . exact hfree i h
      . exact ih hfree h

variable {ε : Type}

/-- What an update does to the table and to the window. -/
inductive UpdateEffect (m : Mcast) (io : McastIo ε) (window : ε) (addr : McastAddr)
    : Bool → McastOutcome ε → Prop where
  | failed (add : Bool) (err : S2Err) : UpdateEffect m io window addr add ⟨some err, m, window⟩
  | rejoined (i : Fin mcastMax) (h : m.Holds i addr) (hrefs : (m.entry i).refs ≠ 0xffff) :
    UpdateEffect m io window addr true
      ⟨none, m.setEntry i { m.entry i with refs := (m.entry i).refs + 1 }, window⟩
  | joined (i : Fin mcastMax) (hfree : (m.entry i).refs = 0) (h : ∀ j, ¬m.Holds j addr) :
    UpdateEffect m io window addr true
      ⟨none,
       { m.setEntry i ⟨addr, 1⟩ with count := m.count + 1 },
       if m.bucketUsed (mcastHash addr) then
         window
       else
         io.command (EthConfig.hashSet ||| mcastHash addr) window⟩
  | left (i : Fin mcastMax) (h : m.Holds i addr) (hrefs : (m.entry i).refs ≠ 1) :
    UpdateEffect m io window addr false
      ⟨none, m.setEntry i { m.entry i with refs := (m.entry i).refs - 1 }, window⟩
  | leftLast (i : Fin mcastMax) (h : m.Holds i addr) (hrefs : (m.entry i).refs = 1) :
    UpdateEffect m io window addr false
      ⟨none,
       { m.setEntry i McastEntry.zero with count := m.count - 1 },
       if (m.setEntry i McastEntry.zero).bucketUsed (mcastHash addr) then
         window
       else
         io.command (EthConfig.hashClear ||| mcastHash addr) window⟩

theorem UpdateEffect.of_failed {m : Mcast} {io : McastIo ε} {window : ε} {addr : McastAddr}
    {add : Bool} {outcome : McastOutcome ε} {err : S2Err}
    (h : m.UpdateEffect io window addr add outcome) (hret : outcome.ret = some err)
    : outcome.mcast = m ∧ outcome.window = window := by
  cases h with
  | failed => exact ⟨rfl, rfl⟩
  | _ => contradiction

theorem join_effect (m : Mcast) (io : McastIo ε) (window : ε) (addr : McastAddr)
    {freeEntry slot : Option (Fin mcastMax)}
    (hslot : ∀ i, slot = some i → m.Holds i addr)
    (hnone : slot = none → ∀ i, ¬m.Holds i addr)
    (hfree : ∀ i, freeEntry = some i → (m.entry i).refs = 0)
    : m.UpdateEffect io window addr true (m.join io window addr freeEntry slot) := by
  unfold join
  split
  . next i =>
    split
    . apply UpdateEffect.failed
    . next hrefs =>
      apply UpdateEffect.rejoined
      . exact hslot i rfl
      . simpa using hrefs
  . split
    . apply UpdateEffect.failed
    . next i =>
      split
      . apply UpdateEffect.failed
      . have heffect : m.UpdateEffect io window addr true _ :=
          UpdateEffect.joined i (hfree i rfl) (hnone rfl)
        cases hused : m.bucketUsed (mcastHash addr) with
        | false => simpa [hused] using heffect
        | true => simpa [hused] using heffect

theorem leave_effect (m : Mcast) (io : McastIo ε) (window : ε) (addr : McastAddr)
    {slot : Option (Fin mcastMax)} (hslot : ∀ i, slot = some i → m.Holds i addr)
    : m.UpdateEffect io window addr false (m.leave io window slot) := by
  unfold leave
  split
  . apply UpdateEffect.failed
  . next i =>
    have hholds := hslot i rfl
    dsimp only
    split
    . next hrefs =>
      rw [hholds.2]
      have hone : (m.entry i).refs = 1 := by
        simp only [beq_iff_eq] at hrefs
        rw [UInt16.sub_eq_iff_eq_add] at hrefs
        simpa using hrefs
      have heffect : m.UpdateEffect io window addr false _ :=
        UpdateEffect.leftLast i hholds hone
      rw [bucketUsed_count, setEntry_count]
      cases hused : (m.setEntry i McastEntry.zero).bucketUsed (mcastHash addr) with
      | false => simpa only [hused, Bool.false_eq_true, if_false] using heffect
      | true => simpa only [hused, if_true] using heffect
    . next hrefs =>
      have hone : (m.entry i).refs ≠ 1 := by
        intro hone
        simp [hone] at hrefs
      apply UpdateEffect.left i hholds hone

theorem update_effect (m : Mcast) (io : McastIo ε) (window : ε) (addr : McastAddr) (add : Bool)
    : m.UpdateEffect io window addr add (m.update io window addr add) := by
  have hslot : ∀ i, (m.scan addr (List.finRange mcastMax) none).2 = some i → m.Holds i addr := by
    intro i
    apply scan_holds
  have hnone : (m.scan addr (List.finRange mcastMax) none).2 = none → ∀ i, ¬m.Holds i addr := by
    intro h i
    exact scan_not_holds h i (List.mem_finRange i)
  have hfree : ∀ i, (m.scan addr (List.finRange mcastMax) none).1 = some i →
      (m.entry i).refs = 0 := by
    intro i
    apply scan_free
    simp
  unfold update
  generalize m.scan addr (List.finRange mcastMax) none = found at *
  cases add with
  | true => exact join_effect m io window addr hslot hnone hfree
  | false => exact leave_effect m io window addr hslot

end Mcast

/-- No address has two entries, the members are counted, and their buckets are the set bits. -/
structure Mcast.Coherent (m : Mcast) (bits : Finset UInt16) : Prop where
  eq_of_addr_eq : ∀ i j, (m.entry i).refs ≠ 0 → (m.entry j).refs ≠ 0 →
    (m.entry i).addr = (m.entry j).addr → i = j
  count_eq : m.count.toNat = (Finset.univ.filter fun i => (m.entry i).refs ≠ 0).card
  mem_bits_iff : ∀ bucket, bucket ∈ bits
    ↔ ∃ i, (m.entry i).refs ≠ 0 ∧ mcastHash (m.entry i).addr = bucket

namespace Mcast

variable {m m' : Mcast} {bits : Finset UInt16} {addr : McastAddr} {i : Fin mcastMax}

theorem Coherent.count_le (h : m.Coherent bits) : m.count.toNat ≤ 32 := by
  rw [h.count_eq]
  rw [← Fintype.card_fin 32]
  apply Finset.card_le_univ

theorem coherent_zero : zero.Coherent ∅ where
  eq_of_addr_eq := by
    intro i j h
    exact absurd rfl h
  count_eq := by
    simp [zero, McastEntry.zero]
  mem_bits_iff := by
    simp [zero, McastEntry.zero]

/-- Only the references of members were changed. -/
theorem Coherent.setEntry_refs (h : m.Coherent bits) (hi : (m.entry i).refs ≠ 0) {refs : UInt16}
    (hrefs : refs ≠ 0)
    : (m.setEntry i { m.entry i with refs }).Coherent bits := by
  have hused (j : Fin mcastMax)
      : ((m.setEntry i { m.entry i with refs }).entry j).refs ≠ 0 ↔ (m.entry j).refs ≠ 0 := by
    rw [setEntry_entry]
    split
    . next heq => simp [heq, hi, hrefs]
    . rfl
  have haddr (j : Fin mcastMax)
      : ((m.setEntry i { m.entry i with refs }).entry j).addr = (m.entry j).addr := by
    rw [setEntry_entry]
    split
    . next heq => rw [heq]
    . rfl
  constructor
  . simp only [hused, haddr]
    exact h.eq_of_addr_eq
  . simp only [hused, setEntry_count]
    exact h.count_eq
  . simp only [hused, haddr]
    exact h.mem_bits_iff

theorem Coherent.joined (h : m.Coherent bits) (hfree : (m.entry i).refs = 0)
    (hnew : ∀ j, ¬m.Holds j addr)
    : Coherent { m.setEntry i ⟨addr, 1⟩ with count := m.count + 1 }
        (if m.bucketUsed (mcastHash addr) then bits
         else hashRegister.command (EthConfig.hashSet ||| mcastHash addr) bits) where
  eq_of_addr_eq := by
    intro j k hj hk hjk
    simp only [setEntry_entry] at hj hk hjk
    have hnewj := hnew j
    have hnewk := hnew k
    have := h.eq_of_addr_eq j k
    unfold Holds at hnewj hnewk
    split at hjk <;> split at hjk <;> simp_all
  count_eq := by
    have hcount := h.count_le
    have hfilter : (Finset.univ.filter fun j => ((m.setEntry i ⟨addr, 1⟩).entry j).refs ≠ 0)
        = insert i (Finset.univ.filter fun j => (m.entry j).refs ≠ 0) := by
      ext j
      by_cases heq : j = i
      . simp [heq]
      . simp [heq]
    dsimp only
    rw [hfilter]
    rw [Finset.card_insert_of_notMem]
    . rw [← h.count_eq]
      rw [UInt16.toNat_add]
      simp
      omega
    . simp [hfree]
  mem_bits_iff := by
    intro bucket
    have hbits : bucket ∈ (if m.bucketUsed (mcastHash addr) then bits
        else hashRegister.command (EthConfig.hashSet ||| mcastHash addr) bits)
          ↔ mcastHash addr = bucket ∨ bucket ∈ bits := by
      split
      . next hused =>
        rw [bucketUsed_iff, ← h.mem_bits_iff] at hused
        constructor
        . exact Or.inr
        . intro hor
          cases hor with
          | inl heq => rwa [← heq]
          | inr hmem => exact hmem
      . rw [hashRegister_hashSet (mcastHash_lt addr)]
        rw [Finset.mem_insert]
        rw [eq_comm]
    rw [hbits, h.mem_bits_iff]
    simp only [setEntry_entry]
    constructor
    . intro hor
      cases hor with
      | inl heq =>
        exists i
        simp [heq]
      | inr hex =>
        cases hex with
        | intro j hj =>
          exists j
          rw [if_neg]
          . exact hj
          . intro heq
            simp_all
    . intro hex
      cases hex with
      | intro j hj =>
        split at hj
        . exact Or.inl hj.2
        . exact Or.inr ⟨j, hj⟩

theorem Coherent.leftLast (h : m.Coherent bits) (hi : m.Holds i addr)
    : Coherent { m.setEntry i McastEntry.zero with count := m.count - 1 }
        (if (m.setEntry i McastEntry.zero).bucketUsed (mcastHash addr) then bits
         else hashRegister.command (EthConfig.hashClear ||| mcastHash addr) bits) where
  eq_of_addr_eq := by
    intro j k hj hk hjk
    simp only [setEntry_entry] at hj hk hjk
    have := h.eq_of_addr_eq j k
    split at hj <;> split at hk <;> simp_all [McastEntry.zero]
  count_eq := by
    have hmem : i ∈ Finset.univ.filter fun j => (m.entry j).refs ≠ 0 := by
      simpa using hi.1
    have hpos := Finset.card_pos.mpr ⟨i, hmem⟩
    have hfilter : (Finset.univ.filter fun j => ((m.setEntry i McastEntry.zero).entry j).refs ≠ 0)
        = (Finset.univ.filter fun j => (m.entry j).refs ≠ 0).erase i := by
      ext j
      by_cases heq : j = i
      . simp [heq, McastEntry.zero]
      . simp [heq]
    dsimp only
    rw [hfilter]
    rw [Finset.card_erase_of_mem hmem]
    rw [← h.count_eq] at hpos ⊢
    rw [UInt16.toNat_sub_of_le]
    . rfl
    . rw [UInt16.le_iff_toNat_le]
      exact hpos
  mem_bits_iff := by
    intro bucket
    have hleft : (∃ j, ((m.setEntry i McastEntry.zero).entry j).refs ≠ 0
        ∧ mcastHash ((m.setEntry i McastEntry.zero).entry j).addr = bucket)
          ↔ ∃ j, j ≠ i ∧ (m.entry j).refs ≠ 0 ∧ mcastHash (m.entry j).addr = bucket := by
      apply exists_congr
      intro j
      by_cases heq : j = i
      . simp [heq, McastEntry.zero]
      . simp [heq]
    dsimp only
    split
    . next hused =>
      rw [h.mem_bits_iff]
      constructor
      . intro hex
        cases hex with
        | intro j hj =>
          by_cases heq : j = i
          . rw [heq, hi.2] at hj
            rw [bucketUsed_iff, hj.2] at hused
            exact hused
          . rw [hleft]
            exact ⟨j, heq, hj⟩
      . intro hex
        rw [hleft] at hex
        cases hex with
        | intro j hj => exact ⟨j, hj.2⟩
    . next hused =>
      rw [hashRegister_hashClear (mcastHash_lt addr)]
      rw [Finset.mem_erase]
      rw [h.mem_bits_iff]
      rw [bucketUsed_iff] at hused
      constructor
      . intro hand
        cases hand.2 with
        | intro j hj =>
          rw [hleft]
          refine ⟨j, ?_, hj⟩
          intro heq
          rw [heq, hi.2] at hj
          exact hand.1 hj.2.symm
      . intro hex
        constructor
        . intro heq
          rw [heq] at hex
          exact hused hex
        . rw [hleft] at hex
          cases hex with
          | intro j hj => exact ⟨j, hj.2⟩

end Mcast

/-- The references of each address are its balance. -/
structure Counts (m : Mcast) (balance : McastAddr → Int) : Prop where
  refs_eq : ∀ i, (m.entry i).refs ≠ 0 →
    ((m.entry i).refs.toNat : Int) = balance (m.entry i).addr
  eq_zero : ∀ addr, (∀ i, ¬m.Holds i addr) → balance addr = 0

section Counts

variable {m : Mcast} {bits : Finset UInt16} {balance : McastAddr → Int} {addr : McastAddr}
  {i : Fin mcastMax}

theorem Counts.setEntry_refs (h : Counts m balance) (hm : m.Coherent bits) (hi : m.Holds i addr)
    {refs : UInt16} (hrefs : refs ≠ 0) {delta : Int}
    (hdelta : (refs.toNat : Int) = (m.entry i).refs.toNat + delta)
    : Counts (m.setEntry i { m.entry i with refs })
        (fun addr' => if addr = addr' then balance addr' + delta else balance addr') where
  refs_eq := by
    intro j hj
    rw [Mcast.setEntry_entry] at hj ⊢
    split at hj
    . next heq =>
      rw [if_pos heq]
      dsimp only
      rw [if_pos hi.2.symm]
      rw [hdelta, h.refs_eq i hi.1]
    . next hne =>
      rw [if_neg hne]
      have hother : addr ≠ (m.entry j).addr := by
        intro heq
        exact hne (hm.eq_of_addr_eq j i hj hi.1 (by rw [← heq, hi.2]))
      rw [if_neg hother]
      exact h.refs_eq j hj
  eq_zero := by
    intro addr' hnone
    have hother : addr ≠ addr' := by
      intro heq
      apply hnone i
      simp [Mcast.Holds, hrefs, hi.2, heq]
    rw [if_neg hother]
    apply h.eq_zero
    intro j hj
    apply hnone j
    unfold Mcast.Holds at hj ⊢
    rw [Mcast.setEntry_entry]
    split
    . next heq => exact ⟨hrefs, by rw [← heq]; exact hj.2⟩
    . exact hj

theorem Counts.joined (h : Counts m balance) (hfree : (m.entry i).refs = 0)
    (hnew : ∀ j, ¬m.Holds j addr) (count : UInt16)
    : Counts { m.setEntry i ⟨addr, 1⟩ with count }
        (fun addr' => if addr = addr' then balance addr' + 1 else balance addr') where
  refs_eq := by
    intro j hj
    dsimp only at hj ⊢
    rw [Mcast.setEntry_entry] at hj ⊢
    split
    . rw [if_pos rfl]
      rw [h.eq_zero addr hnew]
      rfl
    . next hne =>
      rw [if_neg hne] at hj
      have hother : addr ≠ (m.entry j).addr := by
        intro heq
        exact hnew j ⟨hj, heq.symm⟩
      rw [if_neg hother]
      exact h.refs_eq j hj
  eq_zero := by
    intro addr' hnone
    have hother : addr ≠ addr' := by
      intro heq
      apply hnone i
      simp [Mcast.Holds, heq]
    rw [if_neg hother]
    apply h.eq_zero
    intro j hj
    apply hnone j
    unfold Mcast.Holds at hj ⊢
    dsimp only
    rw [Mcast.setEntry_entry]
    split
    . next heq => exact absurd (heq ▸ hfree) hj.1
    . exact hj

theorem Counts.leftLast (h : Counts m balance) (hm : m.Coherent bits) (hi : m.Holds i addr)
    (hone : (m.entry i).refs = 1) (count : UInt16)
    : Counts { m.setEntry i McastEntry.zero with count }
        (fun addr' => if addr = addr' then balance addr' - 1 else balance addr') where
  refs_eq := by
    intro j hj
    dsimp only at hj ⊢
    rw [Mcast.setEntry_entry] at hj ⊢
    split
    . next heq => simp [heq, McastEntry.zero] at hj
    . next hne =>
      rw [if_neg hne] at hj
      have hother : addr ≠ (m.entry j).addr := by
        intro heq
        exact hne (hm.eq_of_addr_eq j i hj hi.1 (by rw [← heq, hi.2]))
      rw [if_neg hother]
      exact h.refs_eq j hj
  eq_zero := by
    intro addr' hnone
    split
    . next heq =>
      rw [← heq, ← hi.2, ← h.refs_eq i hi.1, hone]
      rfl
    . next hother =>
      apply h.eq_zero
      intro j hj
      apply hnone j
      unfold Mcast.Holds at hj ⊢
      dsimp only
      rw [Mcast.setEntry_entry]
      split
      . next heq => exact absurd (by rw [← hi.2, ← heq, hj.2]) hother
      . exact hj

end Counts

namespace McastRun

structure Coherent (r : McastRun (Finset UInt16)) : Prop where
  mcast : r.state.mcast.Coherent r.state.window
  counts : Counts r.state.mcast r.balance

theorem coherent_step_reset (r : McastRun (Finset UInt16))
    : Coherent (r.step hashRegister .reset) where
  mcast := Mcast.coherent_zero
  counts := by
    constructor
    . intro i h
      exact absurd rfl h
    . intro addr h
      rfl

theorem Coherent.step_update {m : Mcast} {bits : Finset UInt16} {balance : McastAddr → Int}
    {addr : McastAddr} {outcome : McastOutcome (Finset UInt16)} {add : Bool}
    (h : Coherent ⟨⟨m, bits⟩, balance⟩)
    (heffect : m.UpdateEffect hashRegister bits addr add outcome)
    : Coherent
        ⟨⟨outcome.mcast, outcome.window⟩,
         fun addr' => (if add then McastOp.join addr else .leave addr).balance outcome.ret addr'
           (balance addr')⟩ := by
  have hm : m.Coherent bits := h.mcast
  have hcounts : Counts m balance := h.counts
  cases heffect with
  | failed add err =>
    cases add with
    | false => exact ⟨hm, hcounts⟩
    | true => exact ⟨hm, hcounts⟩
  | rejoined i hi hmax =>
    have hlt := (m.entry i).refs.toNat_lt
    have hmax : (m.entry i).refs.toNat ≠ 65535 := by
      intro heq
      exact hmax (UInt16.toNat_inj.mp heq)
    have hadd : ((m.entry i).refs + 1).toNat = (m.entry i).refs.toNat + 1 := by
      rw [UInt16.toNat_add]
      simp
      omega
    have hnonzero : (m.entry i).refs + 1 ≠ 0 := by
      intro heq
      simp [heq] at hadd
    refine ⟨hm.setEntry_refs hi.1 hnonzero, hcounts.setEntry_refs hm hi hnonzero ?_⟩
    rw [hadd]
    rfl
  | joined i hfree hnew => exact ⟨hm.joined hfree hnew, hcounts.joined hfree hnew _⟩
  | left i hi hone =>
    have hpos : (m.entry i).refs.toNat ≠ 0 := by
      intro heq
      exact hi.1 (UInt16.toNat_inj.mp heq)
    have hsub : ((m.entry i).refs - 1).toNat = (m.entry i).refs.toNat - 1 := by
      rw [UInt16.toNat_sub_of_le]
      . rfl
      . rw [UInt16.le_iff_toNat_le]
        simp
        omega
    have hnonzero : (m.entry i).refs - 1 ≠ 0 := by
      intro heq
      rw [UInt16.sub_eq_iff_eq_add] at heq
      exact hone heq
    refine ⟨hm.setEntry_refs hi.1 hnonzero, hcounts.setEntry_refs hm hi hnonzero ?_⟩
    rw [hsub]
    omega
  | leftLast i hi hone => exact ⟨hm.leftLast hi, hcounts.leftLast hm hi hone _⟩

theorem Coherent.step {r : McastRun (Finset UInt16)} (h : r.Coherent) (op : McastOp)
    : (r.step hashRegister op).Coherent := by
  cases op with
  | join addr =>
    exact Coherent.step_update h (r.state.mcast.update_effect hashRegister r.state.window addr true)
  | leave addr =>
    exact Coherent.step_update h (r.state.mcast.update_effect hashRegister r.state.window addr false)
  | reset => apply coherent_step_reset

theorem Coherent.run {r : McastRun (Finset UInt16)} (h : r.Coherent) (ops : List McastOp)
    : (r.run hashRegister ops).Coherent := by
  induction ops generalizing r with
  | nil => exact h
  | cons op ops ih =>
    apply ih
    apply h.step

end McastRun

theorem rxPlan_selectReader (m : Mcast) (dst : McastAddr)
    : (Mcast.rxPlan (some m) dst).selectReader = true
        ↔
      ((dst 0 &&& 1) = 0 ∨ (∀ i, dst i = 0xff) ∨ ∃ i, m.Holds i dst) := by
  rw [← Mcast.isMember_iff]
  unfold Mcast.rxPlan mcastMembershipRequired mcastIsBroadcast
  by_cases hgroup : (dst 0 &&& 1) = 0
  . simp [hgroup]
  . by_cases hbroadcast : ∀ i, dst i = 0xff
    . simp [hbroadcast]
    . simp [hgroup, hbroadcast]

theorem apply_of_failed {ε : Type} {io : McastIo ε} {op : McastOp} {s : McastState ε} {err : S2Err}
    (h : (op.apply io s).ret = some err)
    : (op.apply io s).mcast = s.mcast ∧ (op.apply io s).window = s.window := by
  cases op with
  | join addr => exact (s.mcast.update_effect io s.window addr true).of_failed h
  | leave addr => exact (s.mcast.update_effect io s.window addr false).of_failed h
  | reset =>
    simp only [McastOp.apply, Mcast.reset] at h
    split at h <;> contradiction

/-- The table, the register and the delivery decision agree after every sequence of updates. -/
theorem mcastRun_tracks (r : McastRun (Finset UInt16)) (ops : List McastOp)
    : let r := (r.step hashRegister .reset).run hashRegister ops
      let m := r.state.mcast
      m.Coherent r.state.window
        ∧ Counts m r.balance
        ∧ (∀ dst, (Mcast.rxPlan (some m) dst).selectReader = true
            ↔ ((dst 0 &&& 1) = 0 ∨ (∀ i, dst i = 0xff) ∨ ∃ i, m.Holds i dst))
        ∧ (∀ (op : McastOp) (err : S2Err), (op.apply hashRegister r.state).ret = some err →
            (op.apply hashRegister r.state).mcast = m
              ∧ (op.apply hashRegister r.state).window = r.state.window) := by
  intro r m
  have hr : r.Coherent := (McastRun.coherent_step_reset _).run ops
  refine ⟨hr.mcast, hr.counts, ?_, ?_⟩
  . intro dst
    apply rxPlan_selectReader
  . intro op err h
    exact apply_of_failed h

end ZZNet
