import ZZ9000.SdBoot.Range
import ZZ9000.SdBoot.Scsi

/-!
This module contains which requests of `SD_PerformSCSI` stay inside the buffer of the caller and the
bytes of the command.
-/

namespace ZZSd

open Streams

/-- The accesses that a request allows. -/
def ScsiAccess.Allowed (scsi : ScsiCmd) (x : ScsiAccess) : Prop :=
  match x with
  | .command i => i < scsi.cmdLength.toNat
  | .store i => scsi.data ≠ none ∧ i < scsi.length.toNat
  | .load _ => scsi.data ≠ none
  | .transfer blocks => scsi.data ≠ none ∧ 512 * blocks.toNat ≤ scsi.length.toNat

/-- The property of a request with its outcome. -/
structure ScsiSafe {σ : Type} (scsi : ScsiCmd) (before : Nat → UInt8)
    (o : ScsiResult × ScsiRun σ) : Prop where
  accesses : ∀ x ∈ o.2.accesses, x.Allowed scsi
  memory : ∀ a, a < scsi.address ∨ scsi.address + scsi.length.toNat ≤ a
    → o.2.bus.memory a = before a
  actual : o.1 = .done → o.2.scsi.actual ≤ scsi.length

/-- What the checks at the entry of `SD_PerformSCSI` let through. -/
structure ScsiCmd.Accepted (scsi : ScsiCmd) (command : Nat → UInt8) : Prop where
  command : scsi.command = some command
  cmdLength : 6 ≤ scsi.cmdLength
  data : 0 < scsi.length → scsi.data ≠ none

def scsiPage (command : Nat → UInt8) : UInt16 :=
  ((command 2).toUInt16 <<< 8) ||| (command 3).toUInt16

/-- `MODE SENSE` has room for its header, and for its page if it has one. -/
def ScsiCmd.Fits (scsi : ScsiCmd) (command : Nat → UInt8) : Prop :=
  command 0 = 0x1a → 12 ≤ scsi.length
    ∧ (scsiPage command = 0x0300 ∨ scsiPage command = 0x0400 → 34 ≤ scsi.length)

section Rules

variable {σ α β : Type}

/-- From where `I` holds, `J` holds after the step. -/
structure Keeps (I : ScsiRun σ → Prop) (m : ScsiM σ α) (J : α → ScsiRun σ → Prop) : Prop where
  run : ∀ r, I r → J (m r).1 (m r).2

variable {I : ScsiRun σ → Prop} {m : ScsiM σ α} {J : α → ScsiRun σ → Prop}

theorem keeps_bind {f : α → ScsiM σ β} {K : β → ScsiRun σ → Prop} (hm : Keeps I m J)
    (hf : ∀ a, Keeps (J a) (f a) K)
    : Keeps I (m >>= f) K := by
  constructor
  intro r hr
  exact (hf _).run _ (hm.run r hr)

theorem keeps_pure {a : α} (h : ∀ r, I r → J a r)
    : Keeps I (pure a : ScsiM σ α) J := by
  constructor
  intro r hr
  exact h r hr

theorem keeps_get {J : ScsiRun σ → ScsiRun σ → Prop} (h : ∀ r, I r → J r r)
    : Keeps I (get : ScsiM σ (ScsiRun σ)) J := by
  constructor
  intro r hr
  exact h r hr

theorem keeps_ite {p : Prop} [Decidable p] {m' : ScsiM σ α} (hm : p → Keeps I m J)
    (hm' : ¬p → Keeps I m' J)
    : Keeps I (if p then m else m') J := by
  split
  . next h => exact hm h
  . next h => exact hm' h

theorem keeps_of_pre {I' : ScsiRun σ → Prop} (hm : Keeps I' m J) (h : ∀ r, I r → I' r)
    : Keeps I m J := by
  constructor
  intro r hr
  exact hm.run r (h r hr)

theorem keeps_of_fact {p : Prop} (hp : ∀ r, I r → p) (hm : p → Keeps I m J)
    : Keeps I m J := by
  constructor
  intro r hr
  exact (hm (hp r hr)).run r hr

/-- The loop keeps what each of its stores keeps. -/
theorem keeps_fill {first : UInt32} {val : UInt32 → UInt8} (n : Nat) (i : UInt32)
    (h : ∀ j < n, ∀ v, Keeps I (scsiStore (first + (i + UInt32.ofNat j)) v) (fun _ => I))
    : Keeps I (scsiFill first val i n) (fun _ => I) := by
  induction n generalizing i with
  | zero =>
    apply keeps_pure
    intro r hr
    exact hr
  | succ n ih =>
    unfold scsiFill
    apply keeps_bind (J := fun _ => I)
    . have hfirst := h 0 (by omega) (val i)
      have hzero : UInt32.ofNat 0 = 0 := rfl
      rw [hzero, UInt32.add_zero] at hfirst
      exact hfirst
    . intro _
      apply ih
      intro j hj v
      have hnext := h (1 + j) (by omega) v
      have hone : UInt32.ofNat 1 = 1 := rfl
      rw [UInt32.ofNat_add, ← UInt32.add_assoc i, hone] at hnext
      exact hnext

end Rules

section Within

variable {σ : Type} (scsi : ScsiCmd) (before : Nat → UInt8)

/-- What is true while a request that fits is carried out. -/
structure Within (r : ScsiRun σ) : Prop where
  data : r.scsi.data = scsi.data
  length : r.scsi.length = scsi.length
  cmdLength : r.scsi.cmdLength = scsi.cmdLength
  accesses : ∀ x ∈ r.accesses, x.Allowed scsi
  memory : ∀ a, a < scsi.address ∨ scsi.address + scsi.length.toNat ≤ a → r.bus.memory a = before a

/-- The same with the result. -/
structure Answered (result : ScsiResult) (r : ScsiRun σ) : Prop where
  within : Within scsi before r
  actual : result = .done → r.scsi.actual ≤ scsi.length

variable {scsi before}

theorem Within.address {r : ScsiRun σ} (h : Within scsi before r)
    : r.scsi.address = scsi.address := by
  unfold ScsiCmd.address
  rw [h.data]

theorem Within.access {r : ScsiRun σ} {x : ScsiAccess} (h : Within scsi before r)
    (hx : x.Allowed scsi)
    : Within scsi before { r with accesses := r.accesses ++ [x] } where
  data := h.data
  length := h.length
  cmdLength := h.cmdLength
  accesses := by
    intro y hy
    cases List.mem_append.mp hy with
    | inl hold => exact h.accesses y hold
    | inr hnew =>
      rw [List.mem_singleton.mp hnew]
      exact hx
  memory := h.memory

theorem Within.write {r : ScsiRun σ} {bus : Bus σ} (h : Within scsi before r)
    (hbus : ∀ a, a < scsi.address ∨ scsi.address + scsi.length.toNat ≤ a
      → bus.memory a = r.bus.memory a)
    : Within scsi before { r with bus } where
  data := h.data
  length := h.length
  cmdLength := h.cmdLength
  accesses := h.accesses
  memory := by
    intro a ha
    rw [hbus a ha]
    exact h.memory a ha

theorem keeps_byte {command : Nat → UInt8} {i : Nat} (hi : i < scsi.cmdLength.toNat)
    : Keeps (Within (σ := σ) scsi before) (scsiByte command i) (fun _ => Within scsi before) := by
  constructor
  intro r hr
  exact hr.access hi

/-- The fields of the request are as they were at first. -/
theorem keeps_fields {α : Type} {m : ScsiRun σ → ScsiM σ α} {J : α → ScsiRun σ → Prop}
    (h : ∀ s, Within scsi before s → Keeps (Within scsi before) (m s) J)
    : Keeps (Within scsi before) (get >>= m) J := by
  constructor
  intro r hr
  exact (h r hr).run r hr

theorem keeps_store {i : UInt32} {value : UInt8} (hdata : 0 < scsi.length → scsi.data ≠ none)
    (hi : i.toNat < scsi.length.toNat)
    : Keeps (Within (σ := σ) scsi before) (scsiStore i value) (fun _ => Within scsi before) := by
  constructor
  intro r hr
  have hpos : 0 < scsi.length := by
    rw [UInt32.lt_iff_toNat_lt]
    exact Nat.zero_lt_of_lt hi
  have hx : (ScsiAccess.store i.toNat).Allowed scsi := ⟨hdata hpos, hi⟩
  have hwrite : Within scsi before { r with bus := { r.bus with
      memory := Function.update r.bus.memory (r.scsi.address + i.toNat) value } } := by
    apply hr.write
    intro a ha
    dsimp only
    rw [hr.address]
    apply Function.update_of_ne
    omega
  exact hwrite.access hx

theorem keeps_actual (result : ScsiResult) {actual : UInt32} (h : actual ≤ scsi.length)
    : Keeps (Within (σ := σ) scsi before) (scsiActual actual)
        (fun _ => Answered scsi before result) := by
  constructor
  intro r hr
  constructor
  . exact ⟨hr.data, hr.length, hr.cmdLength, hr.accesses, hr.memory⟩
  . intro _
    exact h

/-- A case that only answers. -/
theorem keeps_done {actual : UInt32} (h : actual ≤ scsi.length)
    : Keeps (Within (σ := σ) scsi before)
        (do scsiActual actual; return ScsiResult.done) (Answered scsi before) := by
  apply keeps_bind (keeps_actual .done h)
  intro _
  apply keeps_pure
  intro r hr
  exact hr

theorem keeps_failed {result : ScsiResult} (h : result ≠ .done)
    : Keeps (Within (σ := σ) scsi before) (pure result) (Answered scsi before) := by
  apply keeps_pure
  intro r hr
  exact ⟨hr, fun hdone => absurd hdone h⟩

theorem keeps_fill_within (hdata : 0 < scsi.length → scsi.data ≠ none) {first : UInt32}
    {val : UInt32 → UInt8} {n : Nat} (hn : first.toNat + n ≤ scsi.length.toNat)
    : Keeps (Within (σ := σ) scsi before) (scsiFill first val 0 n)
        (fun _ => Within scsi before) := by
  apply keeps_fill
  intro j hj v
  apply keeps_store hdata
  have hlength := scsi.length.toNat_lt
  rw [UInt32.zero_add, UInt32.toNat_add, UInt32.toNat_ofNat']
  omega

end Within

section Cases

variable {σ : Type} (card : Card σ) (dev : SDBase) (maxblocks : UInt32) {scsi : ScsiCmd}
  {before : Nat → UInt8} {command : Nat → UInt8}

theorem keeps_requestSense (hscsi : scsi.Accepted command)
    : Keeps (Within (σ := σ) scsi before) scsiRequestSense (Answered scsi before) := by
  unfold scsiRequestSense
  apply keeps_fields
  intro s hs
  rw [hs.length]
  have hle : (if scsi.length < 18 then scsi.length else 18) ≤ scsi.length := by
    split
    . exact UInt32.le_refl _
    . next h => exact UInt32.not_lt.mp h
  apply keeps_bind
  . apply keeps_fill_within hscsi.data
    have hzero : (0 : UInt32).toNat = 0 := rfl
    rw [hzero, Nat.zero_add]
    exact UInt32.le_iff_toNat_le.mp hle
  . intro _
    exact keeps_done hle

theorem keeps_inquiry (hscsi : scsi.Accepted command)
    : Keeps (Within (σ := σ) scsi before) scsiInquiry (Answered scsi before) := by
  unfold scsiInquiry
  apply keeps_fields
  intro s hs
  rw [hs.length]
  apply keeps_bind
  . apply keeps_fill_within hscsi.data
    have hzero : (0 : UInt32).toNat = 0 := rfl
    rw [hzero, Nat.zero_add]
  . intro _
    exact keeps_done (UInt32.le_refl _)

/-- No try writes outside of the blocks that are asked for. -/
theorem retryTransfer_outside {isWrite : Bool} {data : Nat} {block blocks : UInt32}
    (hblocks : 512 * blocks.toNat < 2 ^ 32) {a : Nat}
    (ha : a < data ∨ data + 512 * blocks.toNat ≤ a) (retries : Nat) (bus : Bus σ)
    : (retryTransfer card (fun bus => narrowStatus (sdTransfer card isWrite data block blocks bus))
        retries bus).bus.memory a = bus.memory a := by
  have htry (bus : Bus σ)
      : (sdTransfer card isWrite data block blocks bus).bus.memory a = bus.memory a := by
    apply (sdTransfer_moved card isWrite data block blocks hblocks bus).memory_of_outside
    omega
  induction retries generalizing bus with
  | zero =>
    unfold retryTransfer
    dsimp only
    split
    . exact htry bus
    . exact htry bus
  | succ retries ih =>
    unfold retryTransfer
    dsimp only
    split
    . exact htry bus
    . dsimp only
      rw [ih]
      exact htry bus

theorem keeps_retry {isWrite : Bool} {block blocks : UInt32} (hdata : scsi.data ≠ none)
    (hblocks : 512 * blocks.toNat ≤ scsi.length.toNat)
    : Keeps (Within (σ := σ) scsi before) (scsiRetry card isWrite block blocks)
        (fun _ => Within scsi before) := by
  constructor
  intro r hr
  have hlength := scsi.length.toNat_lt
  have hbus : ∀ a, a < scsi.address ∨ scsi.address + scsi.length.toNat ≤ a
      → (retryTransfer card
          (fun bus => narrowStatus (sdTransfer card isWrite r.scsi.address block blocks bus))
          (sdRetry - 1) r.bus).bus.memory a = r.bus.memory a := by
    intro a ha
    apply retryTransfer_outside
    . omega
    . rw [hr.address]
      omega
  have hx : (ScsiAccess.transfer blocks).Allowed scsi := ⟨hdata, hblocks⟩
  exact (hr.write hbus).access hx

theorem keeps_move {isWrite : Bool} {block blocks actual : UInt32}
    (hsmall : blocks.toNat < 2 ^ 16)
    (hactual : 512 * blocks.toNat ≤ scsi.length.toNat → actual ≤ scsi.length)
    : Keeps (Within (σ := σ) scsi before) (scsiMove card dev maxblocks isWrite block blocks actual)
        (Answered scsi before) := by
  unfold scsiMove
  apply keeps_fields
  intro s hs
  dsimp only
  rw [hs.length, hs.data]
  apply keeps_ite
  . intro _
    exact keeps_failed (by simp)
  . intro _
    apply keeps_ite
    . intro _
      exact keeps_failed (by simp)
    . intro hlong
      rw [UInt32.lt_iff_toNat_lt, toNat_shiftBlocks hsmall] at hlong
      apply keeps_ite
      . intro _
        exact keeps_failed (by simp)
      . intro hdata
        apply keeps_bind (keeps_retry card hdata (by omega))
        intro r1
        apply keeps_ite
        . intro _
          exact keeps_failed (by simp)
        . intro _
          exact keeps_done (hactual (by omega))

theorem keeps_move6 (hscsi : scsi.Accepted command) (isWrite : Bool)
    : Keeps (Within (σ := σ) scsi before) (scsiMove6 card dev maxblocks command isWrite)
        (Answered scsi before) := by
  have hlength := UInt16.le_iff_toNat_le.mp hscsi.cmdLength
  have hsix : (6 : UInt16).toNat = 6 := rfl
  unfold scsiMove6
  apply keeps_bind (keeps_byte (by omega))
  intro high
  apply keeps_bind (keeps_byte (by omega))
  intro middle
  apply keeps_bind (keeps_byte (by omega))
  intro low
  apply keeps_bind (keeps_byte (by omega))
  intro blocks
  apply keeps_fields
  intro s hs
  rw [hs.length]
  apply keeps_move
  . rw [UInt8.toNat_toUInt32]
    have := blocks.toNat_lt
    omega
  . intro _
    exact UInt32.le_refl _

theorem keeps_move10 (hscsi : scsi.Accepted command)
    : Keeps (Within (σ := σ) scsi before) (scsiMove10 card dev maxblocks command)
        (Answered scsi before) := by
  have hlength := UInt16.le_iff_toNat_le.mp hscsi.cmdLength
  have hsix : (6 : UInt16).toNat = 6 := rfl
  unfold scsiMove10
  apply keeps_bind (keeps_byte (by omega))
  intro op
  apply keeps_fields
  intro s hs
  rw [hs.cmdLength]
  apply keeps_ite
  . intro _
    exact keeps_failed (by simp)
  . intro hten
    rw [UInt16.not_lt, UInt16.le_iff_toNat_le] at hten
    have hten' : (10 : UInt16).toNat = 10 := rfl
    apply keeps_bind (keeps_byte (by omega))
    intro b0
    apply keeps_bind (keeps_byte (by omega))
    intro b1
    apply keeps_bind (keeps_byte (by omega))
    intro b2
    apply keeps_bind (keeps_byte (by omega))
    intro b3
    apply keeps_bind (keeps_byte (by omega))
    intro high
    apply keeps_bind (keeps_byte (by omega))
    intro low
    apply keeps_ite
    . intro _
      exact keeps_done UInt32.zero_le
    . intro _
      have hhigh : high.toUInt32.toNat < 2 ^ 8 := by
        rw [UInt8.toNat_toUInt32]
        exact high.toNat_lt
      have hsmall := toNat_appendByte_lt hhigh low
      apply keeps_move card dev maxblocks hsmall
      intro hfits
      rw [UInt32.le_iff_toNat_le, toNat_shiftBlocks hsmall]
      exact hfits

theorem keeps_storeLong {i : UInt32} {value : UInt32} (hscsi : scsi.Accepted command)
    (hi : i.toNat + 4 ≤ scsi.length.toNat)
    : Keeps (Within (σ := σ) scsi before) (scsiStoreLong i value)
        (fun _ => Within scsi before) := by
  have hlength := scsi.length.toNat_lt
  have hone : (1 : UInt32).toNat = 1 := rfl
  have htwo : (2 : UInt32).toNat = 2 := rfl
  have hthree : (3 : UInt32).toNat = 3 := rfl
  unfold scsiStoreLong
  apply keeps_bind (keeps_store hscsi.data (by omega))
  intro _
  apply keeps_bind
  . apply keeps_store hscsi.data
    rw [UInt32.toNat_add, hone]
    omega
  . intro _
    apply keeps_bind
    . apply keeps_store hscsi.data
      rw [UInt32.toNat_add, htwo]
      omega
    . intro _
      apply keeps_store hscsi.data
      rw [UInt32.toNat_add, hthree]
      omega

theorem keeps_readCapacity (hscsi : scsi.Accepted command)
    : Keeps (Within (σ := σ) scsi before) (scsiReadCapacity maxblocks command)
        (Answered scsi before) := by
  have hlength := UInt16.le_iff_toNat_le.mp hscsi.cmdLength
  have hsix : (6 : UInt16).toNat = 6 := rfl
  unfold scsiReadCapacity
  apply keeps_fields
  intro s hs
  rw [hs.cmdLength]
  apply keeps_ite
  . intro _
    exact keeps_failed (by simp)
  . intro hten
    rw [UInt16.not_lt, UInt16.le_iff_toNat_le] at hten
    have hten' : (10 : UInt16).toNat = 10 := rfl
    apply keeps_bind (keeps_byte (by omega))
    intro b0
    apply keeps_bind (keeps_byte (by omega))
    intro b1
    apply keeps_bind (keeps_byte (by omega))
    intro b2
    apply keeps_bind (keeps_byte (by omega))
    intro b3
    apply keeps_bind (keeps_byte (by omega))
    intro pmi
    apply keeps_ite
    . intro _
      exact keeps_failed (by simp)
    . intro _
      apply keeps_fields
      intro s hs
      rw [hs.length]
      apply keeps_ite
      . intro _
        exact keeps_failed (by simp)
      . intro height
        rw [UInt32.not_lt] at height
        have hroom := UInt32.le_iff_toNat_le.mp height
        have hzero : (0 : UInt32).toNat = 0 := rfl
        have hfour : (4 : UInt32).toNat = 4 := rfl
        have height' : (8 : UInt32).toNat = 8 := rfl
        apply keeps_bind (keeps_storeLong hscsi (by omega))
        intro _
        apply keeps_bind (keeps_storeLong hscsi (by omega))
        intro _
        exact keeps_done height

theorem keeps_modeHeader (hscsi : scsi.Accepted command) (hroom : 12 ≤ scsi.length)
    : Keeps (Within (σ := σ) scsi before) (scsiModeHeader maxblocks)
        (fun _ => Within scsi before) := by
  have hstore (i : UInt32) (value : UInt8) (hi : i < 12)
      : Keeps (Within (σ := σ) scsi before) (scsiStore i value) (fun _ => Within scsi before) := by
    apply keeps_store hscsi.data
    rw [UInt32.lt_iff_toNat_lt] at hi
    rw [UInt32.le_iff_toNat_le] at hroom
    omega
  unfold scsiModeHeader
  apply keeps_bind (hstore 0 _ (by decide))
  intro _
  apply keeps_bind (hstore 1 _ (by decide))
  intro _
  apply keeps_bind (hstore 2 _ (by decide))
  intro _
  apply keeps_bind (hstore 3 _ (by decide))
  intro _
  apply keeps_bind (hstore 4 _ (by decide))
  intro _
  apply keeps_bind (hstore 5 _ (by decide))
  intro _
  apply keeps_bind (hstore 6 _ (by decide))
  intro _
  apply keeps_bind (hstore 7 _ (by decide))
  intro _
  apply keeps_bind (hstore 8 _ (by decide))
  intro _
  apply keeps_bind (hstore 9 _ (by decide))
  intro _
  apply keeps_bind (hstore 10 _ (by decide))
  intro _
  exact hstore 11 _ (by decide)

/-- The buffer begins with the length of the answer to `MODE SENSE`. -/
structure Headed (scsi : ScsiCmd) (r : ScsiRun σ) : Prop where
  address : r.scsi.address = scsi.address
  length : r.scsi.length = scsi.length
  first : r.bus.memory scsi.address = 33

theorem headed_store {i : UInt32} {value : UInt8} (hi : i ≠ 0)
    : Keeps (Headed (σ := σ) scsi) (scsiStore i value) (fun _ => Headed scsi) := by
  constructor
  intro r hr
  refine ⟨hr.address, hr.length, ?_⟩
  have hplace : scsi.address ≠ r.scsi.address + i.toNat := by
    have hpos : i.toNat ≠ 0 := fun hzero => hi (UInt32.toNat_inj.mp hzero)
    rw [hr.address]
    omega
  exact (Function.update_of_ne hplace _ _).trans hr.first

theorem headed_modeHeader
    : Keeps (fun r : ScsiRun σ => r.scsi.address = scsi.address ∧ r.scsi.length = scsi.length)
        (scsiModeHeader maxblocks) (fun _ => Headed scsi) := by
  unfold scsiModeHeader
  apply keeps_bind (J := fun _ => Headed scsi)
  . constructor
    intro r hr
    refine ⟨hr.1, hr.2, ?_⟩
    rw [← hr.1]
    exact Function.update_self _ _ _
  . intro _
    apply keeps_bind (headed_store (by decide))
    intro _
    apply keeps_bind (headed_store (by decide))
    intro _
    apply keeps_bind (headed_store (by decide))
    intro _
    apply keeps_bind (headed_store (by decide))
    intro _
    apply keeps_bind (headed_store (by decide))
    intro _
    apply keeps_bind (headed_store (by decide))
    intro _
    apply keeps_bind (headed_store (by decide))
    intro _
    apply keeps_bind (headed_store (by decide))
    intro _
    apply keeps_bind (headed_store (by decide))
    intro _
    apply keeps_bind (headed_store (by decide))
    intro _
    exact headed_store (by decide)

/-- A page is answered with the length of the header and the page, however short the buffer is. -/
theorem headed_modePage (hroom : 12 ≤ scsi.length) (val : UInt32 → UInt8)
    : Keeps (Headed (σ := σ) scsi) (scsiModePage val)
        (fun result r => result = .done ∧ r.scsi.actual = 34) := by
  unfold scsiModePage
  apply keeps_bind (J := fun s r => Headed scsi r ∧ s.scsi.length = scsi.length)
  . apply keeps_get
    intro r hr
    exact ⟨hr, hr.length⟩
  . intro s
    apply keeps_of_fact (fun r hr => hr.2)
    intro hs
    apply keeps_of_pre _ (fun r hr => hr.1)
    rw [hs]
    apply keeps_bind (J := fun _ => Headed scsi)
    . apply keeps_fill
      intro j hj v
      apply headed_store
      intro hzero
      have hlength := scsi.length.toNat_lt
      have hsub := UInt32.toNat_sub_of_le _ _ hroom
      have hplace := congrArg UInt32.toNat hzero
      have htwelve : (12 : UInt32).toNat = 12 := rfl
      have hzero' : (0 : UInt32).toNat = 0 := rfl
      rw [UInt32.zero_add, UInt32.toNat_add, UInt32.toNat_ofNat'] at hplace
      omega
    . intro _
      apply keeps_bind (J := fun first _ => first = 33)
      . constructor
        intro r hr
        have hfirst := hr.first
        rw [← hr.address] at hfirst
        exact hfirst
      . intro first
        constructor
        intro r hr
        refine ⟨rfl, ?_⟩
        rw [hr]
        rfl

theorem keeps_modePage (hscsi : scsi.Accepted command) (hroom : 12 ≤ scsi.length)
    (val : UInt32 → UInt8)
    : Keeps (Within (σ := σ) scsi before) (scsiModePage val) (fun _ => Within scsi before) := by
  have hsub := UInt32.toNat_sub_of_le _ _ hroom
  have hlong := UInt32.le_iff_toNat_le.mp hroom
  have htwelve : (12 : UInt32).toNat = 12 := rfl
  have hzero : (0 : UInt32).toNat = 0 := rfl
  unfold scsiModePage
  apply keeps_fields
  intro s hs
  rw [hs.length]
  apply keeps_bind (keeps_fill_within hscsi.data (by omega))
  intro _
  apply keeps_bind (J := fun _ => Within scsi before)
  . constructor
    intro r hr
    have hpos : 0 < scsi.length := by
      rw [UInt32.lt_iff_toNat_lt]
      omega
    have hx : (ScsiAccess.load 0).Allowed scsi := hscsi.data hpos
    exact hr.access hx
  . intro first
    constructor
    intro r hr
    exact ⟨hr.data, hr.length, hr.cmdLength, hr.accesses, hr.memory⟩

theorem keeps_and {α : Type} {I I' : ScsiRun σ → Prop} {m : ScsiM σ α}
    {J J' : α → ScsiRun σ → Prop} (h : Keeps I m J) (h' : Keeps I' m J')
    : Keeps (fun r => I r ∧ I' r) m (fun a r => J a r ∧ J' a r) := by
  constructor
  intro r hr
  exact ⟨h.run r hr.1, h'.run r hr.2⟩

theorem Within.headed {r : ScsiRun σ} (h : Within scsi before r)
    : r.scsi.address = scsi.address ∧ r.scsi.length = scsi.length := ⟨h.address, h.length⟩

theorem keeps_modeSense (hscsi : scsi.Accepted command) (hroom : 12 ≤ scsi.length)
    (hpage : scsiPage command = 0x0300 ∨ scsiPage command = 0x0400 → 34 ≤ scsi.length)
    : Keeps (Within (σ := σ) scsi before) (scsiModeSense maxblocks command)
        (Answered scsi before) := by
  have hlength := UInt16.le_iff_toNat_le.mp hscsi.cmdLength
  have hsix : (6 : UInt16).toNat = 6 := rfl
  have hanswer (val : UInt32 → UInt8) (hlong : 34 ≤ scsi.length)
      : Keeps (fun r : ScsiRun σ => Within scsi before r ∧ Headed scsi r) (scsiModePage val)
          (Answered scsi before) := by
    constructor
    intro r hr
    have hkept := (keeps_and (keeps_modePage hscsi hroom val) (headed_modePage hroom val)).run r hr
    refine ⟨hkept.1, fun _ => ?_⟩
    rw [hkept.2.2]
    exact hlong
  unfold scsiModeSense
  apply keeps_bind (J := fun _ r => Within scsi before r ∧ Headed scsi r)
  . apply keeps_of_pre
      (keeps_and (keeps_modeHeader maxblocks hscsi hroom) (headed_modeHeader maxblocks))
    intro r hr
    exact ⟨hr, hr.headed⟩
  . intro _
    apply keeps_bind (J := fun b r => (Within scsi before r ∧ Headed scsi r) ∧ b = command 2)
    . constructor
      intro r hr
      have hx : (ScsiAccess.command 2).Allowed scsi := Nat.lt_of_lt_of_le (by omega) hlength
      exact ⟨⟨hr.1.access hx, ⟨hr.2.address, hr.2.length, hr.2.first⟩⟩, rfl⟩
    . intro page
      apply keeps_bind (J := fun b r => (Within scsi before r ∧ Headed scsi r) ∧ page = command 2
        ∧ b = command 3)
      . constructor
        intro r hr
        have hx : (ScsiAccess.command 3).Allowed scsi := Nat.lt_of_lt_of_le (by omega) hlength
        exact ⟨⟨hr.1.1.access hx, ⟨hr.1.2.address, hr.1.2.length, hr.1.2.first⟩⟩, hr.2, rfl⟩
      . intro subpage
        apply keeps_of_fact (fun r hr => hr.2)
        intro hbytes
        rw [hbytes.1, hbytes.2]
        apply keeps_of_pre _ (fun r hr => hr.1)
        apply keeps_ite
        . intro hformat
          exact hanswer _ (hpage (.inl hformat))
        . intro _
          apply keeps_ite
          . intro hgeometry
            exact hanswer _ (hpage (.inr hgeometry))
          . intro _
            apply keeps_of_pre _ (fun r hr => hr.1)
            exact keeps_failed (by simp)

end Cases

section Recorded

variable {σ : Type} (maxblocks : UInt32) {x : ScsiAccess}

/-- An access has been made. -/
def Recorded (x : ScsiAccess) (r : ScsiRun σ) : Prop := x ∈ r.accesses

theorem recorded_byte (command : Nat → UInt8) (i : Nat)
    : Keeps (Recorded (σ := σ) x) (scsiByte command i) (fun _ => Recorded x) := by
  constructor
  intro r hr
  exact List.mem_append_left _ hr

theorem recorded_store (i : UInt32) (value : UInt8)
    : Keeps (Recorded (σ := σ) x) (scsiStore i value) (fun _ => Recorded x) := by
  constructor
  intro r hr
  exact List.mem_append_left _ hr

theorem recorded_modePage (val : UInt32 → UInt8)
    : Keeps (Recorded (σ := σ) x) (scsiModePage val) (fun _ => Recorded x) := by
  unfold scsiModePage
  apply keeps_bind (J := fun _ => Recorded x)
  . exact keeps_get fun r hr => hr
  . intro s
    apply keeps_bind (J := fun _ => Recorded x)
    . apply keeps_fill
      intro j hj v
      exact recorded_store _ v
    . intro _
      apply keeps_bind (J := fun _ => Recorded x)
      . constructor
        intro r hr
        exact List.mem_append_left _ hr
      . intro first
        constructor
        intro r hr
        exact hr

/-- The header has been written to its end before anything is checked. -/
theorem recorded_modeSense (command : Nat → UInt8)
    : Keeps (fun _ : ScsiRun σ => True) (scsiModeSense maxblocks command)
        (fun _ => Recorded (.store 11)) := by
  unfold scsiModeSense
  apply keeps_bind (J := fun _ => Recorded (.store 11))
  . constructor
    intro r _
    exact List.mem_append_right _ (List.mem_singleton.mpr rfl)
  . intro _
    apply keeps_bind (recorded_byte command 2)
    intro page
    apply keeps_bind (recorded_byte command 3)
    intro subpage
    apply keeps_ite
    . intro _
      exact recorded_modePage _
    . intro _
      apply keeps_ite
      . intro _
        exact recorded_modePage _
      . intro _
        exact keeps_pure fun r hr => hr

/-- A page that is known is answered with 34 bytes. -/
theorem headed_modeSense {scsi : ScsiCmd} {command : Nat → UInt8} (hroom : 12 ≤ scsi.length)
    (hpage : scsiPage command = 0x0300 ∨ scsiPage command = 0x0400)
    : Keeps (fun r : ScsiRun σ => r.scsi.address = scsi.address ∧ r.scsi.length = scsi.length)
        (scsiModeSense maxblocks command) (fun result r => result = .done ∧ r.scsi.actual = 34) := by
  unfold scsiModeSense
  apply keeps_bind (headed_modeHeader maxblocks)
  intro _
  apply keeps_bind (J := fun b r => Headed scsi r ∧ b = command 2)
  . constructor
    intro r hr
    exact ⟨⟨hr.address, hr.length, hr.first⟩, rfl⟩
  . intro page
    apply keeps_bind (J := fun b r => Headed scsi r ∧ page = command 2 ∧ b = command 3)
    . constructor
      intro r hr
      exact ⟨⟨hr.1.address, hr.1.length, hr.1.first⟩, hr.2, rfl⟩
    . intro subpage
      apply keeps_of_fact (fun r hr => hr.2)
      intro hbytes
      rw [hbytes.1, hbytes.2]
      apply keeps_of_pre _ (fun r hr => hr.1)
      apply keeps_ite
      . intro _
        exact headed_modePage hroom _
      . intro hformat
        apply keeps_ite
        . intro _
          exact headed_modePage hroom _
        . intro hgeometry
          exact absurd hpage (not_or.mpr ⟨hformat, hgeometry⟩)

end Recorded

section Switch

variable {σ : Type} (card : Card σ) (dev : SDBase) {scsi : ScsiCmd} {command : Nat → UInt8}

theorem keeps_switch (maxblocks : UInt32) {before : Nat → UInt8} (hscsi : scsi.Accepted command)
    (hfits : scsi.Fits command)
    : Keeps (fun r : ScsiRun σ => Within scsi before r ∧ r.scsi.actual = 0)
        (scsiSwitch card dev maxblocks command) (Answered scsi before) := by
  have hlength := UInt16.le_iff_toNat_le.mp hscsi.cmdLength
  have hsix : (6 : UInt16).toNat = 6 := rfl
  -- the commands that are always answered with success
  have hnothing : Keeps (fun r : ScsiRun σ => Within scsi before r ∧ r.scsi.actual = 0)
      (pure .done) (Answered scsi before) := by
    apply keeps_pure
    intro r hr
    refine ⟨hr.1, fun _ => ?_⟩
    rw [hr.2]
    exact UInt32.zero_le
  unfold scsiSwitch
  apply keeps_bind (J := fun op r => (Within scsi before r ∧ r.scsi.actual = 0) ∧ op = command 0)
  . constructor
    intro r hr
    have hx : (ScsiAccess.command 0).Allowed scsi := Nat.lt_of_lt_of_le (by omega) hlength
    exact ⟨⟨hr.1.access hx, hr.2⟩, rfl⟩
  . intro op
    apply keeps_of_fact (fun r hr => hr.2)
    intro hop
    apply keeps_of_pre _ (fun r hr => hr.1)
    apply keeps_ite (fun _ => hnothing)
    intro _
    apply keeps_ite (fun _ => keeps_of_pre (keeps_requestSense hscsi) fun r hr => hr.1)
    intro _
    apply keeps_ite (fun _ => hnothing)
    intro _
    apply keeps_of_pre _ (fun r (hr : _ ∧ _) => hr.1)
    apply keeps_ite (fun _ => keeps_inquiry hscsi)
    intro _
    apply keeps_ite (fun _ => keeps_move6 card dev maxblocks hscsi false)
    intro _
    apply keeps_ite (fun _ => keeps_move6 card dev maxblocks hscsi true)
    intro _
    apply keeps_ite (fun _ => keeps_readCapacity maxblocks hscsi)
    intro _
    apply keeps_ite (fun _ => keeps_move10 card dev maxblocks hscsi)
    intro _
    apply keeps_ite
    . intro hsense
      have hroom := hfits (hop.symm.trans hsense)
      exact keeps_modeSense maxblocks hscsi hroom.1 hroom.2
    . intro _
      exact keeps_failed (by simp)

/-- The `switch` reads the command byte and takes the case of it. -/
theorem scsiSwitch_run (maxblocks : UInt32) (r : ScsiRun σ)
    : scsiSwitch card dev maxblocks command r
        =
      (if command 0 = 0x00 then
        return .done
      else if command 0 = 0x03 then
        scsiRequestSense
      else if command 0 = 0x1b then
        return .done
      else if command 0 = 0x12 then
        scsiInquiry
      else if command 0 = 0x08 then
        scsiMove6 card dev maxblocks command false
      else if command 0 = 0x0a then
        scsiMove6 card dev maxblocks command true
      else if command 0 = 0x25 then
        scsiReadCapacity maxblocks command
      else if command 0 = 0x28 ∨ command 0 = 0x2a then
        scsiMove10 card dev maxblocks command
      else if command 0 = 0x1a then
        scsiModeSense maxblocks command
      else
        return .noCmd : ScsiM σ ScsiResult) { r with accesses := r.accesses ++ [.command 0] } := rfl

theorem scsiSwitch_of_modeSense (maxblocks : UInt32) (hop : command 0 = 0x1a) (r : ScsiRun σ)
    : scsiSwitch card dev maxblocks command r
        =
      scsiModeSense maxblocks command { r with accesses := r.accesses ++ [.command 0] } := by
  rw [scsiSwitch_run, hop]
  rfl

theorem scsiSwitch_of_move6 (maxblocks : UInt32) (isWrite : Bool)
    (hop : command 0 = if isWrite then 0x0a else 0x08) (r : ScsiRun σ)
    : scsiSwitch card dev maxblocks command r
        =
      scsiMove6 card dev maxblocks command isWrite
        { r with accesses := r.accesses ++ [.command 0] } := by
  rw [scsiSwitch_run, hop]
  cases isWrite with
  | true => rfl
  | false => rfl

theorem scsiSwitch_of_move10 (maxblocks : UInt32) (hop : command 0 = 0x28 ∨ command 0 = 0x2a)
    (r : ScsiRun σ)
    : scsiSwitch card dev maxblocks command r
        =
      scsiMove10 card dev maxblocks command { r with accesses := r.accesses ++ [.command 0] } := by
  rw [scsiSwitch_run]
  cases hop with
  | inl hread =>
    rw [hread]
    rfl
  | inr hwrite =>
    rw [hwrite]
    rfl

theorem scsiPerform_of_accepted (capacity : UInt32) (h : scsi.Accepted command) (bus : Bus σ)
    : scsiPerform card dev capacity scsi bus
        =
      scsiSwitch card dev (dev.maxblocks capacity) command
        { scsi := scsi.defaults, bus, accesses := [] } := by
  have hlength : ¬scsi.cmdLength < 6 := UInt16.not_lt.mpr h.cmdLength
  have hdata : ¬(scsi.length > 0 ∧ scsi.data = none) := fun hnull => h.data hnull.1 hnull.2
  unfold scsiPerform
  dsimp only
  rw [if_neg hlength, h.command]
  dsimp only
  rw [if_neg hdata]
  rfl

/-- Which requests stay inside the buffer of the caller. -/
theorem scsiPerform_safe_iff (capacity : UInt32) (h : scsi.Accepted command) (bus : Bus σ)
    : ScsiSafe scsi bus.memory (scsiPerform card dev capacity scsi bus) ↔ scsi.Fits command := by
  rw [scsiPerform_of_accepted card dev capacity h]
  constructor
  . intro hsafe hop
    rw [scsiSwitch_of_modeSense card dev _ hop] at hsafe
    have hroom : 12 ≤ scsi.length := by
      have hstored := (recorded_modeSense (dev.maxblocks capacity) command).run
        { scsi := scsi.defaults, bus, accesses := [.command 0] } trivial
      have hin := (hsafe.accesses _ hstored).2
      rw [UInt32.le_iff_toNat_le]
      exact hin
    refine ⟨hroom, ?_⟩
    intro hpage
    have htold := (headed_modeSense (dev.maxblocks capacity) hroom hpage).run
      { scsi := scsi.defaults, bus, accesses := [.command 0] } ⟨rfl, rfl⟩
    have hactual := hsafe.actual htold.1
    dsimp only [List.nil_append] at hactual
    rw [htold.2] at hactual
    exact hactual
  . intro hfits
    have hstart : Within scsi bus.memory ({ scsi := scsi.defaults, bus, accesses := [] }
        : ScsiRun σ) := by
      refine ⟨rfl, rfl, rfl, ?_, fun _ _ => rfl⟩
      intro x hx
      cases hx
    have hanswered := (keeps_switch card dev (dev.maxblocks capacity) h hfits).run
      { scsi := scsi.defaults, bus, accesses := [] } ⟨hstart, rfl⟩
    exact ⟨hanswered.within.accesses, hanswered.within.memory, hanswered.actual⟩

end Switch

section Agreement

variable {σ : Type} (card : Card σ) (dev : SDBase) (maxblocks : UInt32) {io : IORequest}

def ScsiResult.ofError (error : Option IoError) : ScsiResult :=
  match error with
  | none => .done
  | some error => .failed error

/-- The two models of a command that moves blocks come to the same end. -/
structure Agrees (o : Outcome σ) (p : ScsiResult × ScsiRun σ) : Prop where
  result : p.1 = .ofError o.error
  bus : p.2.bus = o.bus
  scsi : o.io.scsi = some p.2.scsi

theorem scsiMove_agrees (isWrite : Bool) (block blocks actual : UInt32) (r : ScsiRun σ)
    : Agrees (scsiTransfer card dev maxblocks io r.scsi isWrite block blocks actual r.bus)
        (scsiMove card dev maxblocks isWrite block blocks actual r) := by
  have hmove : scsiMove card dev maxblocks isWrite block blocks actual r
      = (if block + blocks > maxblocks then
          return .failed .badAddress
        else if r.scsi.length < blocks <<< sdSectorShift then
          return .failed .badLength
        else if r.scsi.data = none then
          return .failed .badAddress
        else do
          let r1 ← scsiRetry card isWrite (block + dev.baseOffset) blocks
          if r1 ≠ 0 then
            return .failed .badStatus
          else
            scsiActual actual
            return .done : ScsiM σ ScsiResult) r := rfl
  rw [hmove]
  unfold scsiTransfer
  split
  . exact ⟨rfl, rfl, rfl⟩
  . split
    . exact ⟨rfl, rfl, rfl⟩
    . split
      . next hdata =>
        rw [if_pos hdata]
        exact ⟨rfl, rfl, rfl⟩
      . next data hdata =>
        have hsome : ¬r.scsi.data = none := by
          rw [hdata]
          simp
        have haddress : data = r.scsi.address := by
          unfold ScsiCmd.address
          rw [hdata]
          rfl
        rw [if_neg hsome, haddress]
        dsimp only
        by_cases hstatus : (retryTransfer card
            (fun bus => narrowStatus ((if isWrite then zzsdWriteBlocks card
              else zzsdReadBlocks card) r.scsi.address (block + dev.baseOffset) blocks bus))
            (sdRetry - 1) r.bus).status ≠ 0
        . rw [if_pos hstatus]
          have hrun : (do
              let r1 ← scsiRetry card isWrite (block + dev.baseOffset) blocks
              if r1 ≠ 0 then
                return .failed .badStatus
              else
                scsiActual actual
                return .done : ScsiM σ ScsiResult) r
              = (pure (.failed .badStatus) : ScsiM σ ScsiResult)
                (scsiRetry card isWrite (block + dev.baseOffset) blocks r).2 := by
            show (if _ then _ else _ : ScsiM σ ScsiResult) _ = _
            rw [if_pos hstatus]
            rfl
          rw [hrun]
          exact ⟨rfl, rfl, rfl⟩
        . rw [if_neg hstatus]
          have hrun : (do
              let r1 ← scsiRetry card isWrite (block + dev.baseOffset) blocks
              if r1 ≠ 0 then
                return .failed .badStatus
              else
                scsiActual actual
                return .done : ScsiM σ ScsiResult) r
              = (do scsiActual actual; return .done : ScsiM σ ScsiResult)
                (scsiRetry card isWrite (block + dev.baseOffset) blocks r).2 := by
            show (if _ then _ else _ : ScsiM σ ScsiResult) _ = _
            rw [if_neg hstatus]
            rfl
          rw [hrun]
          exact ⟨rfl, rfl, rfl⟩

/-- The command bytes that a case has read are all that it adds before its checks. -/
theorem scsiMove6_agrees (command : Nat → UInt8) (isWrite : Bool) (r : ScsiRun σ)
    : Agrees (scsiReadWrite6 card dev maxblocks io r.scsi command isWrite r.bus)
        (scsiMove6 card dev maxblocks command isWrite r) :=
  scsiMove_agrees card dev maxblocks isWrite (scsiBlock6 command) (scsiBlocks6 command)
    r.scsi.length { r with accesses := r.accesses ++ [.command 1] ++ [.command 2] ++ [.command 3]
      ++ [.command 4] }

theorem scsiMove10_agrees (command : Nat → UInt8) (r : ScsiRun σ)
    : Agrees (scsiReadWrite10 card dev maxblocks io r.scsi command (command 0 = 0x2a) r.bus)
        (scsiMove10 card dev maxblocks command r) := by
  have hmove : scsiMove10 card dev maxblocks command r
      = (if r.scsi.cmdLength < 10 then
          return .failed .badStatus
        else do
          let b0 ← scsiByte command 2
          let b1 ← scsiByte command 3
          let b2 ← scsiByte command 4
          let b3 ← scsiByte command 5
          let block :=
            (b0.toUInt32 <<< 24) ||| (b1.toUInt32 <<< 16) ||| (b2.toUInt32 <<< 8) ||| b3.toUInt32
          let high ← scsiByte command 7
          let low ← scsiByte command 8
          let blocks := (high.toUInt32 <<< 8) ||| low.toUInt32
          if blocks = 0 then
            scsiActual 0
            return .done
          else
            scsiMove card dev maxblocks (command 0 = 0x2a) block blocks (blocks <<< sdSectorShift)
          : ScsiM σ ScsiResult) { r with accesses := r.accesses ++ [.command 0] } := rfl
  rw [hmove]
  unfold scsiReadWrite10
  dsimp only
  split
  . exact ⟨rfl, rfl, rfl⟩
  . have hread (r : ScsiRun σ) : (do
          let b0 ← scsiByte command 2
          let b1 ← scsiByte command 3
          let b2 ← scsiByte command 4
          let b3 ← scsiByte command 5
          let block :=
            (b0.toUInt32 <<< 24) ||| (b1.toUInt32 <<< 16) ||| (b2.toUInt32 <<< 8) ||| b3.toUInt32
          let high ← scsiByte command 7
          let low ← scsiByte command 8
          let blocks := (high.toUInt32 <<< 8) ||| low.toUInt32
          if blocks = 0 then
            scsiActual 0
            return .done
          else
            scsiMove card dev maxblocks (command 0 = 0x2a) block blocks (blocks <<< sdSectorShift)
          : ScsiM σ ScsiResult) r
        = (if scsiBlocks10 command = 0 then
            (do scsiActual 0; return .done)
          else
            scsiMove card dev maxblocks (command 0 = 0x2a) (scsiBlock10 command)
              (scsiBlocks10 command) (scsiBlocks10 command <<< sdSectorShift)
          : ScsiM σ ScsiResult) { r with accesses := r.accesses ++ [.command 2] ++ [.command 3]
            ++ [.command 4] ++ [.command 5] ++ [.command 7] ++ [.command 8] } := rfl
    rw [hread]
    split
    . exact ⟨rfl, rfl, rfl⟩
    . exact scsiMove_agrees card dev maxblocks _ _ _ _ { r with accesses := r.accesses
        ++ [.command 0] ++ [.command 2] ++ [.command 3] ++ [.command 4] ++ [.command 5]
        ++ [.command 7] ++ [.command 8] }

/-- Where a request moves blocks, this model and the one of the block transfers agree. -/
theorem scsiPerform_agrees (capacity : UInt32) {scsi : ScsiCmd} {bus : Bus σ} {o : Outcome σ}
    (hscsi : io.scsi = some scsi) (h : sdPerformScsi card dev capacity io bus = some o)
    : Agrees o (scsiPerform card dev capacity scsi bus) := by
  cases scsi with | mk data length actual field cmdLength cmdActual status senseActual =>
  unfold sdPerformScsi at h
  rw [hscsi] at h
  unfold scsiPerform
  dsimp only at h ⊢
  split at h
  . next hshort =>
    rw [if_pos hshort]
    cases h
    exact ⟨rfl, rfl, hscsi⟩
  . next hlong =>
    rw [if_neg hlong]
    cases field with
    | none =>
      cases h
      exact ⟨rfl, rfl, hscsi⟩
    | some command =>
      dsimp only at h ⊢
      split at h
      . next hnull =>
        rw [if_pos hnull]
        cases h
        exact ⟨rfl, rfl, hscsi⟩
      . next hdata =>
        rw [if_neg hdata]
        split at h
        . next hread =>
          cases h
          rw [scsiSwitch_of_move6 card dev _ false hread]
          exact scsiMove6_agrees card dev _ command false (.mk _ bus [.command 0])
        . split at h
          . next hwrite =>
            cases h
            rw [scsiSwitch_of_move6 card dev _ true hwrite]
            exact scsiMove6_agrees card dev _ command true (.mk _ bus [.command 0])
          . split at h
            . next hten =>
              cases h
              rw [scsiSwitch_of_move10 card dev _ hten]
              exact scsiMove10_agrees card dev _ command (.mk _ bus [.command 0])
            . cases h

end Agreement

section Requests

/-- `MODE SENSE` for all pages. -/
def modeSenseAll (i : Nat) : UInt8 :=
  [0x1a, 0, 0x3f, 0, 4, 0].getD i 0

/-- A caller that wants the header of four bytes alone. -/
def headerRequest (length : UInt32) : ScsiCmd where
  data := some 4096
  length := length
  actual := 0
  command := some modeSenseAll
  cmdLength := 6
  cmdActual := 0
  status := 0
  senseActual := 0

theorem headerRequest_accepted (length : UInt32)
    : (headerRequest length).Accepted modeSenseAll where
  command := rfl
  cmdLength := UInt16.le_refl 6
  data := by simp [headerRequest]

/-- A buffer of twelve bytes has room for the whole header. -/
theorem scsiPerform_safe_iff_twelve
    : ScsiSafe (headerRequest 12) readyBus.memory
        (scsiPerform readyCard smallImage 0 (headerRequest 12) readyBus) := by
  apply (scsiPerform_safe_iff readyCard smallImage 0 (headerRequest_accepted 12) readyBus).mpr
  intro _
  exact ⟨by decide, by decide⟩

/-- The header is written past the end of a buffer of four bytes. -/
theorem scsiPerform_overruns
    : (headerRequest 4).Accepted modeSenseAll
        ∧ ¬ScsiSafe (headerRequest 4) readyBus.memory
          (scsiPerform readyCard smallImage 0 (headerRequest 4) readyBus) := by
  refine ⟨headerRequest_accepted 4, ?_⟩
  intro hsafe
  have hstored : ScsiAccess.store 11
      ∈ (scsiPerform readyCard smallImage 0 (headerRequest 4) readyBus).2.accesses := by
    decide
  have hin := (hsafe.accesses _ hstored).2
  exact absurd hin (by decide)

end Requests

end ZZSd
