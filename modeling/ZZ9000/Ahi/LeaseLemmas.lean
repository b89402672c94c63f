import ZZ9000.Ahi.Lease

/-!
This module contains the verification of the staging for a lease: the ring and the accumulator
together have whole mixed periods.
-/

namespace ZZAhi

open Streams

/-- A period with the bytes of its samples exchanged. -/
def swapPairs (bytes : List UInt8) : List UInt8 :=
  match bytes with
  | a :: b :: bytes => b :: a :: swapPairs bytes
  | bytes => bytes

section Swap

theorem swab16_high (hi lo : UInt8)
    : (swab16 (hi.toUInt16 <<< 8 ||| lo.toUInt16) >>> 8).toUInt8 = lo := by
  unfold swab16
  rw [← UInt8.toBitVec_inj]
  apply BitVec.eq_of_getLsbD_eq
  intro i hi
  simp
  interval_cases i <;> simp

theorem swab16_low (hi lo : UInt8)
    : (swab16 (hi.toUInt16 <<< 8 ||| lo.toUInt16)).toUInt8 = hi := by
  unfold swab16
  rw [← UInt8.toBitVec_inj]
  apply BitVec.eq_of_getLsbD_eq
  intro i hi
  simp
  interval_cases i <;> simp

variable (buffer : Nat → UInt8)

theorem swapWord_eq (i : Nat)
    : swapWord buffer i = store buffer (2 * i) [buffer (2 * i + 1), buffer (2 * i)] := by
  unfold swapWord writeBe16 readBe16
  rw [swab16_high, swab16_low]

/-- The loop over the first `n` words, by induction on them. -/
theorem swapWords_eq (n : Nat)
    : (∀ i < n, (List.range n).foldl swapWord buffer (2 * i) = buffer (2 * i + 1)
          ∧ (List.range n).foldl swapWord buffer (2 * i + 1) = buffer (2 * i))
        ∧ ∀ j, 2 * n ≤ j → (List.range n).foldl swapWord buffer j = buffer j := by
  induction n with
  | zero =>
    constructor
    . intro i hi
      omega
    . intro j _
      rfl
  | succ n ih =>
    have rest (j : Nat) := @store_of_lt _ ((List.range n).foldl swapWord buffer) (2 * n) j
    have here (j : Nat) := @store_getElem _ ((List.range n).foldl swapWord buffer) (2 * n)
      [(List.range n).foldl swapWord buffer (2 * n + 1),
        (List.range n).foldl swapWord buffer (2 * n)] j
    rw [List.range_succ, List.foldl_append, List.foldl_cons, List.foldl_nil, swapWord_eq]
    constructor
    . intro i hi
      by_cases last : i = n
      . rw [last]
        constructor
        . have first := here 0 (by simp)
          exact first.trans (ih.2 (2 * n + 1) (by omega))
        . rw [here 1 (by simp)]
          exact ih.2 (2 * n) (by omega)
      . rw [rest _ (by omega), rest _ (by omega)]
        exact ih.1 i (by omega)
    . intro j hj
      rw [store_of_ge (by simp; omega)]
      exact ih.2 j (by omega)

theorem load_eq_swapPairs {swapped : Nat → UInt8} (n a : Nat)
    (h : ∀ i < n, swapped (a + 2 * i) = buffer (a + 2 * i + 1)
      ∧ swapped (a + 2 * i + 1) = buffer (a + 2 * i))
    : load swapped a (2 * n) = swapPairs (load buffer a (2 * n)) := by
  induction n generalizing a with
  | zero => rfl
  | succ n ih =>
    have first := h 0 (by omega)
    have later := ih (a + 2) (by
      intro i hi
      have next := h (i + 1) (by omega)
      have place : a + 2 * (i + 1) = a + 2 + 2 * i := by omega
      rw [place] at next
      exact next)
    have two (memory : Nat → UInt8) : load memory a 2 = [memory a, memory (a + 1)] := rfl
    have split : 2 * (n + 1) = 2 + 2 * n := by omega
    rw [split, load_add, load_add, two, two]
    rw [Nat.mul_zero, Nat.add_zero] at first
    rw [first.1, first.2, later]
    rfl

theorem load_fabricSwapPeriodLe (bytes : UInt32) (even : bytes.toNat % 2 = 0)
    : load (fabricSwapPeriodLe buffer bytes) 0 bytes.toNat
        = swapPairs (load buffer 0 bytes.toNat) := by
  have words : (bytes / 2).toNat = bytes.toNat / 2 := by
    rw [UInt32.toNat_div]
    rfl
  have whole : bytes.toNat = 2 * (bytes.toNat / 2) := by omega
  have swapped := (swapWords_eq buffer (bytes.toNat / 2)).1
  unfold fabricSwapPeriodLe
  rw [words]
  have loaded := load_eq_swapPairs buffer (bytes.toNat / 2) 0
    (by
      intro i hi
      rw [Nat.zero_add]
      exact swapped i hi)
  rw [← whole] at loaded
  exact loaded

end Swap

/-- What the pump relies on in the library: a write that fits appends, nothing else moves bytes, and
the grant keeps its rate. -/
structure AudioRing.Lawful {ρ : Type} (ring : AudioRing ρ) (contents : ρ → List UInt8) : Prop where
  write_all : ∀ r bytes, bytes.length ≤ (ring.freeBytes r).toNat
    → (ring.write r bytes).1.toNat = bytes.length
  contents_write : ∀ r bytes, bytes.length ≤ (ring.freeBytes r).toNat
    → contents (ring.write r bytes).2 = contents r ++ bytes
  contents_takeCredits : ∀ r, contents (ring.takeCredits r).2 = contents r
  contents_publish : ∀ r, contents (ring.publish r) = contents r
  contents_resume : ∀ r, contents (ring.resume r) = contents r
  rate_write : ∀ r bytes, ring.sourceRate (ring.write r bytes).2 = ring.sourceRate r
  rate_takeCredits : ∀ r, ring.sourceRate (ring.takeCredits r).2 = ring.sourceRate r
  rate_publish : ∀ r, ring.sourceRate (ring.publish r) = ring.sourceRate r
  rate_resume : ∀ r, ring.sourceRate (ring.resume r) = ring.sourceRate r

/-- The bytes of a mixed period as the lease takes them. -/
def periodBytes (sourceBe : Bool) (p : Pass) : List UInt8 :=
  let bytes := load p.mixed 0 (p.buffSamples <<< 2).toNat
  if sourceBe then bytes else swapPairs bytes

namespace Lease

variable {ρ : Type} {ring : AudioRing ρ} {contents : ρ → List UInt8}

/-- The bytes in the ring and behind them those in the accumulator. -/
def staged (contents : ρ → List UInt8) (z : Lease ρ) : List UInt8 :=
  contents z.session ++ load z.accum 0 z.fill.toNat

def period (ring : AudioRing ρ) (z : Lease ρ) : UInt32 :=
  leasePeriodOf (ring.sourceRate z.session)

/-- The accumulator has whole periods, and no more than fit. -/
structure Aligned (leasePeriod : UInt32) (z : Lease ρ) : Prop where
  fits : z.fill ≤ bounceBufsz
  whole : leasePeriod.toNat ∣ z.fill.toNat

/-- A part of the pump that stages nothing new. -/
structure Quiet (ring : AudioRing ρ) (contents : ρ → List UInt8) (z z' : Lease ρ) : Prop where
  rate : ring.sourceRate z'.session = ring.sourceRate z.session
  sourceBe : z'.sourceBe = z.sourceBe
  aligned : z.Aligned (z.period ring) → z'.Aligned (z.period ring)
  bytes : z'.staged contents = z.staged contents

/-- A part of the pump that has put the mix of pass `p` behind the staged bytes, or has not. -/
structure Staged (ring : AudioRing ρ) (contents : ρ → List UInt8) (p : Pass) (z z' : Lease ρ)
    : Prop where
  rate : ring.sourceRate z'.session = ring.sourceRate z.session
  sourceBe : z'.sourceBe = z.sourceBe
  aligned : z.Aligned (z.period ring) → z'.Aligned (z.period ring)
  bytes : z'.staged contents = z.staged contents
    ∨ (periodBytes z.sourceBe p).length = (z.period ring).toNat
      ∧ z'.staged contents = z.staged contents ++ periodBytes z.sourceBe p

section Steps

variable {z z' z'' : Lease ρ} {p : Pass}

theorem Quiet.refl (z : Lease ρ)
    : Quiet ring contents z z :=
  ⟨rfl, rfl, id, rfl⟩

theorem Quiet.period_eq (quiet : Quiet ring contents z z')
    : z'.period ring = z.period ring := by
  unfold period
  rw [quiet.rate]

theorem Staged.period_eq (staged : Staged ring contents p z z')
    : z'.period ring = z.period ring := by
  unfold period
  rw [staged.rate]

theorem Quiet.staged (quiet : Quiet ring contents z z')
    : Staged ring contents p z z' :=
  ⟨quiet.rate, quiet.sourceBe, quiet.aligned, .inl quiet.bytes⟩

theorem Quiet.trans_staged (first : Quiet ring contents z z')
    (second : Staged ring contents p z' z'')
    : Staged ring contents p z z'' := by
  have same := first.period_eq
  constructor
  . rw [second.rate, first.rate]
  . rw [second.sourceBe, first.sourceBe]
  . intro aligned
    have later := first.aligned aligned
    rw [← same] at later ⊢
    exact second.aligned later
  . rw [← first.bytes, ← same, ← first.sourceBe]
    exact second.bytes

theorem Staged.trans_quiet (first : Staged ring contents p z z')
    (second : Quiet ring contents z' z'')
    : Staged ring contents p z z'' := by
  constructor
  . rw [second.rate, first.rate]
  . rw [second.sourceBe, first.sourceBe]
  . intro aligned
    have later := first.aligned aligned
    rw [← first.period_eq] at later ⊢
    exact second.aligned later
  . rw [second.bytes]
    exact first.bytes

/-- A call of the library that moves no bytes. -/
theorem quiet_session (session : ρ) (rate : ring.sourceRate session = ring.sourceRate z.session)
    (bytes : contents session = contents z.session)
    : Quiet ring contents z { z with session } := by
  refine ⟨rate, rfl, fun aligned => ⟨aligned.fits, aligned.whole⟩, ?_⟩
  unfold Lease.staged
  rw [bytes]

end Steps

/-- One turn of the draining loop moves a period from the accumulator to the ring. -/
theorem quiet_drain (lawful : ring.Lawful contents) (leasePeriod : UInt32) (z : Lease ρ)
    (enough : z.fill ≥ leasePeriod)
    (free : (load z.accum 0 leasePeriod.toNat).length ≤ (ring.freeBytes z.session).toNat)
    (aligned : z.Aligned leasePeriod)
    : ({ z with
        session := (ring.write z.session (load z.accum 0 leasePeriod.toNat)).2
        accum := store z.accum 0 (load z.accum leasePeriod.toNat (z.fill - leasePeriod).toNat)
        fill := z.fill - leasePeriod } : Lease ρ).Aligned leasePeriod
      ∧ ({ z with
        session := (ring.write z.session (load z.accum 0 leasePeriod.toNat)).2
        accum := store z.accum 0 (load z.accum leasePeriod.toNat (z.fill - leasePeriod).toNat)
        fill := z.fill - leasePeriod } : Lease ρ).staged contents = z.staged contents := by
  have fill : (z.fill - leasePeriod).toNat = z.fill.toNat - leasePeriod.toNat :=
    UInt32.toNat_sub_of_le _ _ enough
  have order := UInt32.le_iff_toNat_le.mp enough
  have fits := UInt32.le_iff_toNat_le.mp aligned.fits
  constructor
  . constructor
    . rw [UInt32.le_iff_toNat_le, fill]
      omega
    . rw [fill]
      exact Nat.dvd_sub aligned.whole (Nat.dvd_refl _)
  . unfold staged
    dsimp only
    rw [lawful.contents_write _ _ free, List.append_assoc]
    congr 1
    -- the moved rest of the accumulator reads like the rest behind the period
    have moved := @load_store _ z.accum 0
      (load z.accum leasePeriod.toNat (z.fill - leasePeriod).toNat)
    rw [length_load] at moved
    have split : z.fill.toNat = leasePeriod.toNat + (z.fill.toNat - leasePeriod.toNat) := by omega
    rw [moved, fill]
    conv => rhs; rw [split, load_add, Nat.zero_add]

/-- Draining, by induction on the turns left. -/
theorem flushLoop_spec (lawful : ring.Lawful contents) (leasePeriod : UInt32) (fuel : Nat)
    (z : Lease ρ) (aligned : z.Aligned leasePeriod)
    : (flushLoop ring leasePeriod fuel z).Aligned leasePeriod
        ∧ ring.sourceRate (flushLoop ring leasePeriod fuel z).session = ring.sourceRate z.session
        ∧ (flushLoop ring leasePeriod fuel z).sourceBe = z.sourceBe
        ∧ (flushLoop ring leasePeriod fuel z).staged contents = z.staged contents := by
  induction fuel generalizing z with
  | zero => exact ⟨aligned, rfl, rfl, rfl⟩
  | succ fuel ih =>
    unfold flushLoop
    split
    next go =>
      have free : (load z.accum 0 leasePeriod.toNat).length
          ≤ (ring.freeBytes z.session).toNat := by
        rw [length_load]
        exact UInt32.le_iff_toNat_le.mp go.2
      have written : (ring.write z.session (load z.accum 0 leasePeriod.toNat)).1 = leasePeriod := by
        rw [← UInt32.toNat_inj, lawful.write_all _ _ free, length_load]
      have drained := quiet_drain lawful leasePeriod z go.1 free aligned
      have rest := ih _ drained.1
      dsimp only
      rw [if_neg (not_not.mpr written)]
      refine ⟨rest.1, rest.2.1.trans ?_, rest.2.2.1, rest.2.2.2.trans drained.2⟩
      exact lawful.rate_write _ _
    next stop => exact ⟨aligned, rfl, rfl, rfl⟩

theorem quiet_flush (lawful : ring.Lawful contents) (z : Lease ρ)
    (aligned : z.Aligned (z.period ring))
    : Quiet ring contents z (fabricLeaseFlushAccum ring (z.period ring) z) := by
  have flushed := flushLoop_spec lawful (z.period ring) z.fill.toNat z aligned
  exact ⟨flushed.2.1, flushed.2.2.1, fun _ => flushed.1, flushed.2.2.2⟩

theorem load_audioBuf (p : Pass) (sourceBe : Bool) (even : (p.buffSamples <<< 2).toNat % 2 = 0)
    : load (if sourceBe then p.mixed else fabricSwapPeriodLe p.mixed (p.buffSamples <<< 2)) 0
          (p.buffSamples <<< 2).toNat
        = periodBytes sourceBe p := by
  unfold periodBytes
  cases sourceBe with
  | true => rfl
  | false => exact load_fabricSwapPeriodLe p.mixed (p.buffSamples <<< 2) even

/-- The mixed period is staged as a whole, or not at all. -/
theorem stageMixed_spec (p : Pass) (z : Lease ρ) (aligned : z.Aligned (z.period ring))
    : Staged ring contents p z (stageMixed (z.period ring) p z) := by
  unfold stageMixed
  dsimp only
  split
  next taken =>
    have fits := UInt32.le_iff_toNat_le.mp aligned.fits
    have room := UInt32.le_iff_toNat_le.mp taken.2.2
    rw [UInt32.toNat_sub_of_le _ _ aligned.fits] at room
    have fill : (z.fill + p.buffSamples <<< 2).toNat
        = z.fill.toNat + (p.buffSamples <<< 2).toNat := by
      have size : bounceBufsz.toNat = 3840 := rfl
      rw [UInt32.toNat_add, Nat.mod_eq_of_lt (by omega)]
    have even : (p.buffSamples <<< 2).toNat % 2 = 0 := by
      rw [UInt32.toNat_shiftLeft]
      have : (2 : UInt32).toNat % 32 = 2 := rfl
      rw [this, Nat.shiftLeft_eq]
      omega
    have bytes := load_audioBuf p z.sourceBe even
    have length : (periodBytes z.sourceBe p).length = (p.buffSamples <<< 2).toNat := by
      rw [← bytes, length_load]
    rw [bytes]
    refine ⟨rfl, rfl, fun _ => ⟨?_, ?_⟩, .inr ⟨?_, ?_⟩⟩
    . rw [UInt32.le_iff_toNat_le, fill]
      omega
    . rw [fill, taken.2.1]
      exact Nat.dvd_add aligned.whole (Nat.dvd_refl _)
    . rw [length, taken.2.1]
    . unfold staged
      dsimp only
      rw [fill, List.append_assoc, load_add, Nat.zero_add]
      congr 2
      . apply load_congr
        intro i hi
        rw [Nat.zero_add]
        exact store_of_lt hi
      . rw [← length]
        exact load_store
  next dropped => exact (Quiet.refl z).staged

theorem leaseMix_spec (lawful : ring.Lawful contents) (p : Pass) (z : Lease ρ)
    (aligned : z.Aligned (z.period ring))
    : Staged ring contents p z (leaseMix ring p z) := by
  unfold leaseMix
  dsimp only
  split
  next mixes =>
    have fold_ : leasePeriodOf (ring.sourceRate z.session) = z.period ring := rfl
    rw [fold_]
    -- drain, stage, drain, and then resume
    have first := quiet_flush lawful z aligned
    generalize fabricLeaseFlushAccum ring (z.period ring) z = z₁ at first ⊢
    have second : Staged ring contents p z
        (if p.preTimer then z₁ else stageMixed (z.period ring) p z₁) := by
      split
      . exact first.staged
      . rw [← first.period_eq]
        apply first.trans_staged
        apply stageMixed_spec
        rw [first.period_eq]
        exact first.aligned aligned
    generalize (if p.preTimer then z₁ else stageMixed (z.period ring) p z₁) = z₂ at second ⊢
    have third := quiet_flush lawful z₂ (by rw [second.period_eq]; exact second.aligned aligned)
    rw [second.period_eq] at third
    have drained := second.trans_quiet third
    split
    . exact drained.trans_quiet
        (quiet_session _ (lawful.rate_resume _) (lawful.contents_resume _))
    . exact drained
  next idle => exact (Quiet.refl z).staged

/-- One pass of the pump. -/
theorem pump_spec (lawful : ring.Lawful contents) (p : Pass) (z z' : Lease ρ)
    (aligned : z.Aligned (z.period ring)) (h : fabricLeasePump ring p z = some z')
    : Staged ring contents p z z' := by
  have credited : Quiet ring contents z { z with session := (ring.takeCredits z.session).2 } :=
    quiet_session _ (lawful.rate_takeCredits _) (lawful.contents_takeCredits _)
  unfold fabricLeasePump at h
  dsimp only at h
  split at h
  . cases h
  . split at h
    . cases h
      exact credited.staged
    . cases h
      have aligned' := credited.aligned aligned
      have mixed := leaseMix_spec lawful p { z with session := (ring.takeCredits z.session).2 }
        (by
          unfold period at aligned' ⊢
          rw [lawful.rate_takeCredits]
          exact aligned')
      apply credited.trans_staged
      exact mixed.trans_quiet
        (quiet_session _ (lawful.rate_publish _) (lawful.contents_publish _))

/-- The run, by induction on the passes. -/
theorem runLease_spec (lawful : ring.Lawful contents) (passes : List Pass) (z z' : Lease ρ)
    (aligned : z.Aligned (z.period ring)) (h : runLease ring passes z = some z')
    : z'.Aligned (z.period ring)
        ∧ ∃ kept : List Pass, kept.Sublist passes
          ∧ (∀ p ∈ kept, (periodBytes z.sourceBe p).length = (z.period ring).toNat)
          ∧ z'.staged contents = z.staged contents ++ kept.flatMap (periodBytes z.sourceBe) := by
  induction passes generalizing z with
  | nil =>
    cases h
    exact ⟨aligned, [], List.Sublist.slnil, by simp, by simp⟩
  | cons p passes ih =>
    unfold runLease at h
    cases hz₁ : fabricLeasePump ring p z with
    | none =>
      rw [hz₁] at h
      cases h
    | some z₁ =>
      rw [hz₁] at h
      have first := pump_spec lawful p z z₁ aligned hz₁
      have aligned₁ := first.aligned aligned
      rw [← first.period_eq] at aligned₁
      have later := ih z₁ aligned₁ h
      rw [first.period_eq, first.sourceBe] at later
      obtain ⟨aligned', kept, sub, whole, bytes⟩ := later
      refine ⟨aligned', ?_⟩
      cases first.bytes with
      | inl dropped =>
        rw [dropped] at bytes
        exact ⟨kept, List.Sublist.cons p sub, whole, bytes⟩
      | inr mixed =>
        refine ⟨p :: kept, List.Sublist.cons_cons p sub, ?_, ?_⟩
        . intro q hq
          cases List.mem_cons.mp hq with
          | inl here => rw [here]; exact mixed.1
          | inr there => exact whole q there
        . rw [bytes, mixed.2, List.flatMap_cons, List.append_assoc]

/-- The staging of a lease from its grant on. -/
theorem runLease_staged (lawful : ring.Lawful contents) (passes : List Pass) (z z' : Lease ρ)
    (granted : z.fill = 0) (h : runLease ring passes z = some z')
    : z'.fill ≤ bounceBufsz
        ∧ (leasePeriodOf (ring.sourceRate z.session)).toNat ∣ z'.fill.toNat
        ∧ ∃ kept : List Pass, kept.Sublist passes
          ∧ (∀ p ∈ kept, (periodBytes z.sourceBe p).length
            = (leasePeriodOf (ring.sourceRate z.session)).toNat)
          ∧ contents z'.session ++ load z'.accum 0 z'.fill.toNat
            = contents z.session ++ kept.flatMap (periodBytes z.sourceBe) := by
  have aligned : z.Aligned (z.period ring) := by
    constructor
    . rw [granted]
      decide
    . rw [granted]
      exact Nat.dvd_zero _
  have run := runLease_spec lawful passes z z' aligned h
  obtain ⟨aligned', kept, sub, whole, bytes⟩ := run
  have empty : z.staged contents = contents z.session := by
    unfold staged
    rw [granted]
    exact List.append_nil _
  rw [empty] at bytes
  exact ⟨aligned'.fits, aligned'.whole, kept, sub, whole, bytes⟩

end Lease

/-- A ring that takes six bytes and frees none. -/
def smallRing : AudioRing (List UInt8) where
  freeBytes := fun written => UInt32.ofNat (6 - written.length)
  write := fun written bytes =>
    if bytes.length ≤ 6 - written.length then
      (UInt32.ofNat bytes.length, written ++ bytes)
    else
      (0, written)
  takeCredits := fun written => (false, written)
  publish := id
  sourceRate := fun _ => 50
  paused := fun _ => false
  runway := fun _ => 0
  resume := id

theorem smallRing_lawful
    : smallRing.Lawful id := by
  have free (written bytes : List UInt8)
      (h : bytes.length ≤ (smallRing.freeBytes written).toNat)
      : bytes.length ≤ 6 - written.length ∧ bytes.length < 2 ^ 32 := by
    unfold smallRing at h
    dsimp only at h
    rw [UInt32.toNat_ofNat', Nat.mod_eq_of_lt (by omega)] at h
    omega
  constructor
  . intro written bytes h
    have fits := free written bytes h
    unfold smallRing
    dsimp only
    rw [if_pos fits.1, UInt32.toNat_ofNat', Nat.mod_eq_of_lt fits.2]
  . intro written bytes h
    have fits := free written bytes h
    unfold smallRing
    dsimp only
    rw [if_pos fits.1]
    rfl
  . intro written
    rfl
  . intro written
    rfl
  . intro written
    rfl
  . intro written bytes
    rfl
  . intro written
    rfl
  . intro written
    rfl
  . intro written
    rfl

def shortPass (mixed : Nat → UInt8) : Pass where
  buffSamples := 1
  playStop := false
  disableCnt := 0
  hooks := true
  preTimer := false
  mixed := mixed

def grantedLease : Lease (List UInt8) where
  session := []
  accum := fun _ => 0
  fill := 0
  sourceBe := false

/-- Two periods for a ring that has room for one: the other waits in the accumulator. -/
theorem runLease_staged_two
    : ∃ z', runLease smallRing [shortPass UInt8.ofNat, shortPass UInt8.ofNat] grantedLease
          = some z'
        ∧ z'.fill ≤ bounceBufsz ∧ z'.session = [1, 0, 3, 2]
        ∧ load z'.accum 0 z'.fill.toNat = [1, 0, 3, 2] := by
  refine ⟨_, rfl, ?_, ?_, ?_⟩
  . have staged := Lease.runLease_staged smallRing_lawful
      [shortPass UInt8.ofNat, shortPass UInt8.ofNat] grantedLease _ rfl rfl
    exact staged.1
  . decide
  . decide

end ZZAhi
