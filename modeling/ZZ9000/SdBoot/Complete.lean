import ZZ9000.SdBoot.Range

/-!
This module contains what a request that succeeds has moved, and which requests report it.
-/

namespace ZZSd

open Streams

namespace IORequest

def buffer (io : IORequest) : Option Nat :=
  if io.command = .hdScsicmd then io.scsi.bind ScsiCmd.data else io.data

/-- The count that the caller gets: `io_Actual` or `scsi_Actual`. -/
def reported (io : IORequest) : UInt32 :=
  if io.command = .hdScsicmd then (io.scsi.map ScsiCmd.actual).getD 0 else io.actual

end IORequest

def Outcome.lastAttempt {σ : Type} (o : Outcome σ) : List Command :=
  o.attempts.getLast?.getD []

/-- The last try has moved the blocks of the request, and the caller is told how many bytes. -/
structure Complete {σ : Type} (dev : SDBase) (io : IORequest) (before : Nat → UInt8)
    (o : Outcome σ) : Prop where
  commands : ∀ c ∈ o.lastAttempt, c.write = io.isWrite ∧ c.done = true ∧ 1 ≤ c.count.toNat
    ∧ c.count.toNat ≤ 48 ∧ c.bytes.length = 512 * c.count.toNat
  sectors : (o.lastAttempt.flatMap Command.sectors).map (fun s => (s.1.toNat, s.2))
    = (List.range io.span.2).map fun j =>
      (dev.baseOffset.toNat + io.span.1 + j,
        load o.bus.memory (io.buffer.getD 0 + 512 * j) 512)
  untouched : ∀ a, a < io.buffer.getD 0 ∨ io.buffer.getD 0 + 512 * io.span.2 ≤ a
    → o.bus.memory a = before a
  unwritten : io.isWrite = true → o.bus.memory = before
  reported : o.io.reported.toNat = 512 * io.span.2

/-- The property of a request with its outcome: what is not complete has an error. -/
def Honest {σ : Type} (dev : SDBase) (io : IORequest) (before : Nat → UInt8) (o : Outcome σ)
    : Prop :=
  o.error = none → Complete dev io before o

/-- The blocks have numbers of 32 bits. -/
def SDBase.Addresses (dev : SDBase) (first n : Nat) : Prop :=
  n = 0 ∨ dev.baseOffset.toNat + first + n ≤ 2 ^ 32

def ScsiCmd.Exact6 (dev : SDBase) (maxblocks : UInt32) (scsi : ScsiCmd) (command : Nat → UInt8)
    : Prop :=
  scsi.Accepts maxblocks (scsiBlock6 command) (scsiBlocks6 command) →
    scsi.length.toNat = 512 * (scsiBlocks6 command).toNat
      ∧ dev.Addresses (scsiBlock6 command).toNat (scsiBlocks6 command).toNat

def ScsiCmd.Exact10 (dev : SDBase) (maxblocks : UInt32) (scsi : ScsiCmd) (command : Nat → UInt8)
    : Prop :=
  10 ≤ scsi.cmdLength → scsi.Accepts maxblocks (scsiBlock10 command) (scsiBlocks10 command) →
    dev.Addresses (scsiBlock10 command).toNat (scsiBlocks10 command).toNat

/-- The requests whose success is complete and told as it is. -/
def IORequest.Exact (dev : SDBase) (capacity : UInt32) (io : IORequest) : Prop :=
  (dev.enabled = false ∨ io.aborted = true)
    ∨ if io.command = .hdScsicmd then
        ∀ scsi command, io.scsi = some scsi → scsi.command = some command → ¬ scsi.Refused
          → (command 0 = 0x08 ∨ command 0 = 0x0a
              → scsi.Exact6 dev (dev.maxblocks capacity) command)
            ∧ (command 0 = 0x28 ∨ command 0 = 0x2a
              → scsi.Exact10 dev (dev.maxblocks capacity) command)
      else
        io.data = none ∨ io.length.toNat < 512
          ∨ (512 ∣ io.length.toNat ∧ dev.Addresses io.span.1 io.span.2)

/-- The numbers of the blocks in order are those of the request where none is beyond 32 bits. -/
theorem toNat_blocks_iff {block : UInt32} {start n : Nat} (hblock : block.toNat = start % 2 ^ 32)
    (hn : n < 2 ^ 32)
    : (∀ j < n, (block + UInt32.ofNat j).toNat = start + j) ↔ (n = 0 ∨ start + n ≤ 2 ^ 32) := by
  constructor
  . intro all
    by_cases none : n = 0
    . exact .inl none
    . have last := all (n - 1) (by omega)
      have width := (block + UInt32.ofNat (n - 1)).toNat_lt
      exact .inr (by omega)
  . intro fits j hj
    rw [UInt32.toNat_add, UInt32.toNat_ofNat', hblock]
    omega

section Tries

variable {σ : Type} {card : Card σ} {isWrite : Bool} {data : Nat} {block n : UInt32}
    {retries : Nat} {bus : Bus σ}

/-- What stands after a success, whatever the tries before it have done to the buffer. -/
structure Placed (isWrite : Bool) (data : Nat) (block : UInt32) (n : Nat) (before : Nat → UInt8)
    (last : List Command) (memory : Nat → UInt8) : Prop where
  commands : ∀ c ∈ last, c.write = isWrite ∧ c.done = true ∧ 1 ≤ c.count.toNat
    ∧ c.count.toNat ≤ 48 ∧ c.bytes.length = 512 * c.count.toNat
  sectors : last.flatMap Command.sectors = (List.range n).map fun j =>
    (block + UInt32.ofNat j, load memory (data + 512 * j) 512)
  untouched : ∀ a, a < data ∨ data + 512 * n ≤ a → memory a = before a
  unwritten : isWrite = true → memory = before

theorem placed_of_retryTransfer (transfer : Bus σ → Attempt σ) (hn : 512 * n.toNat < 2 ^ 32)
    (htransfer : ∀ bus,
      (transfer bus).commands = (sdTransfer card isWrite data block n bus).commands
      ∧ (transfer bus).bus = (sdTransfer card isWrite data block n bus).bus
      ∧ ((transfer bus).status = 0 ↔ (sdTransfer card isWrite data block n bus).status = 0))
    (h : (retryTransfer card transfer retries bus).status = 0)
    : Placed isWrite data block n.toNat bus.memory
        ((retryTransfer card transfer retries bus).attempts.getLast?.getD [])
        (retryTransfer card transfer retries bus).bus.memory := by
  have moved := sdTransfer_moved card isWrite data block n hn
  -- every try leaves the rest of the memory alone, and a write leaves all of it
  have ends := retryTransfer_success
    (fun memory => (∀ a, a < data ∨ data + 512 * n.toNat ≤ a → memory a = bus.memory a)
      ∧ (isWrite = true → memory = bus.memory))
    (by
      intro bus' kept
      rw [(htransfer bus').2.1]
      constructor
      . intro a ha
        rw [← kept.1 a ha]
        exact (moved bus').memory_of_outside a (by omega)
      . intro hwrite
        have written := moved bus'
        rw [← kept.2 hwrite]
        rw [hwrite] at written ⊢
        exact written.memory_of_write)
    ⟨fun _ _ => rfl, fun _ => rfl⟩ h
  cases ends with | intro bus' last =>
  have ok := (htransfer bus').2.2.mp last.2.1
  have whole := moved bus'
  rw [last.2.2.1, last.2.2.2, (htransfer bus').1, (htransfer bus').2.1, Option.getD_some]
  constructor
  . intro c hc
    have count := whole.count_of_mem c hc
    have done := whole.done_of_mem ok c hc
    exact ⟨count.1, done.1, count.2.1, count.2.2, done.2⟩
  . have sectors := whole.sectors_eq ok
    rw [Nat.sub_zero] at sectors
    rw [sectors]
    simp only [Nat.zero_add]
  . intro a ha
    rw [whole.memory_of_outside a (by omega)]
    exact last.1.1 a ha
  . intro hwrite
    rw [← last.1.2 hwrite]
    rw [hwrite] at whole ⊢
    exact whole.memory_of_write

/-- Where everything is in its place, completeness is a matter of the count and of the numbers. -/
theorem complete_iff {dev : SDBase} {io : IORequest} {before : Nat → UInt8} {o : Outcome σ}
    (block : UInt32) {told : Nat} (htold : o.io.reported.toNat = told)
    (placed : Placed io.isWrite (io.buffer.getD 0) block io.span.2 before o.lastAttempt
      o.bus.memory)
    (hblock : block.toNat = (dev.baseOffset.toNat + io.span.1) % 2 ^ 32)
    (hn : io.span.2 < 2 ^ 32)
    : Complete dev io before o
        ↔ told = 512 * io.span.2 ∧ dev.Addresses io.span.1 io.span.2 := by
  have numbers := toNat_blocks_iff hblock hn
  constructor
  . intro complete
    refine ⟨htold.symm.trans complete.reported, numbers.mp ?_⟩
    have sectors := complete.sectors
    rw [placed.sectors, List.map_map, List.map_inj_left] at sectors
    intro j hj
    have pair := sectors j (List.mem_range.mpr hj)
    exact (Prod.mk.inj pair).1
  . intro fits
    constructor
    . exact placed.commands
    . rw [placed.sectors, List.map_map, List.map_inj_left]
      intro j hj
      dsimp only [Function.comp]
      rw [numbers.mpr fits.2 j (List.mem_range.mp hj)]
    . exact placed.untouched
    . exact placed.unwritten
    . exact htold.trans fits.1

end Tries

section Ready

theorem transferBlocks_readyCard (write : Bool) (data : Nat) (block len : UInt32) (fuel : Nat)
    (i : UInt32) (bus : Bus Unit)
    : (transferBlocks readyCard write data block len fuel i bus).status = 0 := by
  induction fuel generalizing i bus with
  | zero => rfl
  | succ fuel ih =>
    unfold transferBlocks
    split
    . exact ih _ _
    . rfl

theorem sdTransfer_readyCard (isWrite : Bool) (data : Nat) (block len : UInt32) (bus : Bus Unit)
    : (sdTransfer readyCard isWrite data block len bus).status = 0 := by
  cases isWrite with
  | true => exact transferBlocks_readyCard _ _ _ _ _ _ _
  | false => exact transferBlocks_readyCard _ _ _ _ _ _ _

theorem retryTransfer_of_ok {σ : Type} {card : Card σ} {transfer : Bus σ → Attempt σ}
    {retries : Nat} {bus : Bus σ} (h : (transfer bus).status = 0)
    : (retryTransfer card transfer retries bus).status = 0 := by
  unfold retryTransfer
  dsimp only
  rw [if_pos h]

end Ready

section Transfers

variable {dev : SDBase} {io : IORequest}

theorem buffer_of_transfer (hcommand : io.command ≠ .hdScsicmd)
    : io.buffer = io.data := by
  unfold IORequest.buffer
  rw [if_neg hcommand]

theorem span_of_transfer (hcommand : io.command ≠ .hdScsicmd)
    : io.span = (io.byteOffset / 512, io.length.toNat / 512) := by
  unfold IORequest.span
  rw [if_neg hcommand]

theorem honest_refuse {σ : Type} {before : Nat → UInt8} {error : IoError} {bus : Bus σ}
    {io' : IORequest}
    : Honest dev io before (refuse error io' bus) := by
  intro h
  simp [refuse] at h

/-- A transfer that `SD_ReadWrite` does not refuse, with its end. -/
theorem sdReadWrite_complete_iff {σ : Type} (card : Card σ) {bus : Bus σ} {data : Nat}
    (hcommand : io.command ≠ .hdScsicmd) (hdata : io.data = some data)
    (hlen : 512 ≤ io.length.toNat)
    (h : (sdReadWrite card dev io io.offset io.offsetHi io.isWrite bus).error = none)
    : Complete dev io bus.memory (sdReadWrite card dev io io.offset io.offsetHi io.isWrite bus)
        ↔ 512 ∣ io.length.toNat ∧ dev.Addresses io.span.1 io.span.2 := by
  have blocks := toNat_lengthBlocks io.length
  have small := io.length.toNat_lt
  have count : 512 * (io.length >>> sdSectorShift).toNat < 2 ^ 32 := by omega
  have span := span_of_transfer hcommand
  rw [sdReadWrite_of_data card dev bus hdata hlen] at h ⊢
  unfold sdFinish at h ⊢
  split at h
  . cases h
  next ok =>
    rw [if_neg ok]
    rw [Classical.not_not] at ok
    have placed := placed_of_retryTransfer _ count (fun _ => ⟨rfl, rfl, Iff.rfl⟩) ok
    rw [blocks] at placed
    have same : io.span.2 = io.length.toNat / 512 := by rw [span]
    have whole : 512 * (io.length.toNat / 512) = io.length.toNat ↔ 512 ∣ io.length.toNat := by
      omega
    rw [← whole, eq_comm, ← same]
    apply complete_iff
    . unfold IORequest.reported
      rw [if_neg hcommand]
    . rw [buffer_of_transfer hcommand, hdata, same]
      exact placed
    . rw [UInt32.toNat_add, toNat_blockOfOffset, span]
      unfold IORequest.byteOffset
      omega
    . omega

theorem sdReadWrite_of_refused {σ : Type} (card : Card σ) (bus : Bus σ) (isWrite : Bool)
    (offset offsetHi : UInt32) (h : io.data = none ∨ io.length.toNat < 512)
    : ∃ error io', sdReadWrite card dev io offset offsetHi isWrite bus = refuse error io' bus := by
  unfold sdReadWrite
  split
  next none => exact ⟨_, _, rfl⟩
  next data some =>
    have short : io.length < sdSectorBytes := by
      rw [UInt32.lt_iff_toNat_lt]
      have : sdSectorBytes.toNat = 512 := rfl
      rw [some] at h
      simp at h
      omega
    dsimp only
    rw [if_pos short]
    exact ⟨_, _, rfl⟩

theorem sdReadWrite_readyCard (dev : SDBase) (offsetHi : UInt32) {data : Nat}
    (hdata : io.data = some data) (hlen : 512 ≤ io.length.toNat) (offset : UInt32)
    (isWrite : Bool)
    : (sdReadWrite readyCard dev io offset offsetHi isWrite readyBus).error = none := by
  rw [sdReadWrite_of_data readyCard dev readyBus hdata hlen]
  unfold sdFinish
  rw [if_neg]
  rw [Classical.not_not]
  apply retryTransfer_of_ok
  apply sdTransfer_readyCard

theorem sdReadWrite_honest_iff (hcommand : io.command ≠ .hdScsicmd)
    : (∀ (σ : Type) (card : Card σ) (bus : Bus σ), Honest dev io bus.memory
          (sdReadWrite card dev io io.offset io.offsetHi io.isWrite bus))
        ↔ (io.data = none ∨ io.length.toNat < 512
          ∨ (512 ∣ io.length.toNat ∧ dev.Addresses io.span.1 io.span.2)) := by
  rw [← or_assoc]
  by_cases refused : io.data = none ∨ io.length.toNat < 512
  . constructor
    . intro _
      exact .inl refused
    . intro _ σ card bus
      cases sdReadWrite_of_refused card bus io.isWrite io.offset io.offsetHi
        refused with | intro error ho =>
      cases ho with | intro io' ho =>
      rw [ho]
      exact honest_refuse
  . rw [or_iff_right refused]
    rw [not_or, Nat.not_lt] at refused
    obtain ⟨data, hdata⟩ := Option.ne_none_iff_exists'.mp refused.1
    constructor
    . intro honest
      have ok := sdReadWrite_readyCard dev io.offsetHi hdata refused.2 io.offset io.isWrite
      have complete := honest Unit readyCard readyBus ok
      exact (sdReadWrite_complete_iff readyCard hcommand hdata refused.2 ok).mp complete
    . intro exact_ σ card bus ok
      exact (sdReadWrite_complete_iff card hcommand hdata refused.2 ok).mpr exact_

end Transfers

section Scsi

variable {dev : SDBase} {maxblocks : UInt32} {io : IORequest} {scsi : ScsiCmd}
    {command : Nat → UInt8} {block blocks actual : UInt32}

theorem buffer_of_scsi (hio : io.command = .hdScsicmd) (hscsi : io.scsi = some scsi)
    : io.buffer = scsi.data := by
  unfold IORequest.buffer
  rw [if_pos hio, hscsi]
  rfl

theorem scsiTransfer_complete_iff {σ : Type} (card : Card σ) {bus : Bus σ}
    (hio : io.command = .hdScsicmd) (hscsi : io.scsi = some scsi)
    (hspan : io.span = (block.toNat, blocks.toNat)) (hblocks : blocks.toNat < 2 ^ 16)
    (accepts : scsi.Accepts maxblocks block blocks)
    (h : (scsiTransfer card dev maxblocks io scsi.prepared io.isWrite block blocks actual
      bus).error = none)
    : Complete dev io bus.memory
          (scsiTransfer card dev maxblocks io scsi.prepared io.isWrite block blocks actual bus)
        ↔ actual.toNat = 512 * blocks.toNat ∧ dev.Addresses block.toNat blocks.toNat := by
  have count : 512 * blocks.toNat < 2 ^ 32 := by omega
  cases scsiTransfer_of_accepts card dev bus maxblocks io scsi.prepared io.isWrite block blocks
    actual hblocks accepts with | intro data finish =>
  rw [finish.2] at h ⊢
  unfold scsiFinish at h ⊢
  split at h
  . cases h
  next ok =>
    rw [if_neg ok]
    rw [Classical.not_not] at ok
    have same := narrowStatus_sdTransfer card io.isWrite data (block + dev.baseOffset) blocks count
    have placed := placed_of_retryTransfer
      (fun bus =>
        narrowStatus (sdTransfer card io.isWrite data (block + dev.baseOffset) blocks bus))
      count (fun bus => ⟨rfl, rfl, same bus⟩) ok
    have first : io.span.1 = block.toNat := by rw [hspan]
    have number : io.span.2 = blocks.toNat := by rw [hspan]
    rw [← first, ← number]
    apply complete_iff
    . unfold IORequest.reported
      rw [if_pos hio]
      rfl
    . have place : scsi.data = some data := finish.1
      rw [buffer_of_scsi hio hscsi, place, number]
      exact placed
    . rw [UInt32.toNat_add, first, Nat.add_comm]
    . omega

theorem scsiTransfer_readyCard (dev : SDBase) (io : IORequest) (actual : UInt32)
    (hblocks : blocks.toNat < 2 ^ 16) (accepts : scsi.Accepts maxblocks block blocks)
    (isWrite : Bool)
    : (scsiTransfer readyCard dev maxblocks io scsi.prepared isWrite block blocks actual
        readyBus).error = none := by
  have count : 512 * blocks.toNat < 2 ^ 32 := by omega
  cases scsiTransfer_of_accepts readyCard dev readyBus maxblocks io scsi.prepared isWrite block
    blocks actual hblocks accepts with | intro data finish =>
  rw [finish.2]
  unfold scsiFinish
  rw [if_neg]
  rw [Classical.not_not]
  apply retryTransfer_of_ok
  rw [narrowStatus_sdTransfer readyCard isWrite data _ blocks count]
  apply sdTransfer_readyCard

/-- A case of `SD_PerformSCSI` that reports `actual`. -/
theorem scsiTransfer_honest_iff (hio : io.command = .hdScsicmd) (hscsi : io.scsi = some scsi)
    (hspan : io.span = (block.toNat, blocks.toNat)) (hblocks : blocks.toNat < 2 ^ 16)
    : (∀ (σ : Type) (card : Card σ) (bus : Bus σ), Honest dev io bus.memory
          (scsiTransfer card dev maxblocks io scsi.prepared io.isWrite block blocks actual bus))
        ↔ (scsi.Accepts maxblocks block blocks →
          actual.toNat = 512 * blocks.toNat ∧ dev.Addresses block.toNat blocks.toNat) := by
  by_cases accepts : scsi.Accepts maxblocks block blocks
  . constructor
    . intro honest _
      have ok := scsiTransfer_readyCard dev io actual hblocks accepts io.isWrite
      have complete := honest Unit readyCard readyBus ok
      exact (scsiTransfer_complete_iff readyCard hio hscsi hspan hblocks accepts ok).mp complete
    . intro exact_ σ card bus ok
      exact (scsiTransfer_complete_iff card hio hscsi hspan hblocks accepts ok).mpr
        (exact_ accepts)
  . constructor
    . intro _ other
      exact absurd other accepts
    . intro _ σ card bus ok
      have refused := scsiTransfer_of_not_accepts card dev bus maxblocks io scsi.prepared
        io.isWrite block blocks actual hblocks accepts
      exact absurd ok refused.1

theorem scsiReadWrite6_honest_iff (hio : io.command = .hdScsicmd) (hscsi : io.scsi = some scsi)
    (hcommand : scsi.command = some command) (six : command 0 = 0x08 ∨ command 0 = 0x0a)
    : (∀ (σ : Type) (card : Card σ) (bus : Bus σ), Honest dev io bus.memory
          (scsiReadWrite6 card dev maxblocks io scsi.prepared command io.isWrite bus))
        ↔ scsi.Exact6 dev maxblocks command := by
  have span := span_of_scsi hio hscsi hcommand
  have blocks := toNat_scsiBlocks6_lt command
  rw [if_pos six] at span
  exact scsiTransfer_honest_iff hio hscsi span (by omega)

theorem scsiReadWrite10_honest_iff (hio : io.command = .hdScsicmd) (hscsi : io.scsi = some scsi)
    (hcommand : scsi.command = some command) (ten : command 0 = 0x28 ∨ command 0 = 0x2a)
    : (∀ (σ : Type) (card : Card σ) (bus : Bus σ), Honest dev io bus.memory
          (scsiReadWrite10 card dev maxblocks io scsi.prepared command io.isWrite bus))
        ↔ scsi.Exact10 dev maxblocks command := by
  have span := span_of_scsi hio hscsi hcommand
  have blocks := toNat_scsiBlocks10_lt command
  rw [if_neg (not_six_of_ten ten)] at span
  have reported := toNat_shiftBlocks blocks
  unfold ScsiCmd.Exact10 scsiReadWrite10
  by_cases short : scsi.cmdLength < 10
  . constructor
    . intro _ long
      exact absurd short (UInt16.not_lt.mpr long)
    . intro _ σ card bus
      have short' : scsi.prepared.cmdLength < 10 := short
      rw [if_pos short']
      exact honest_refuse
  . have long : ¬ scsi.prepared.cmdLength < 10 := short
    simp only [if_neg long]
    by_cases none : scsiBlocks10 command = 0
    . have zero : (scsiBlocks10 command).toNat = 0 := by
        rw [none]
        rfl
      constructor
      . intro _ _ _
        exact .inl zero
      . intro _ σ card bus _
        rw [if_pos none]
        rw [zero] at span
        -- nothing is asked for, nothing is moved
        constructor
        . intro c hc
          simp [Outcome.lastAttempt] at hc
        . rw [span]
          rfl
        . intro a _
          rfl
        . intro _
          rfl
        . rw [span]
          unfold IORequest.reported
          dsimp only
          rw [if_pos hio]
          rfl
    . simp only [if_neg none]
      rw [scsiTransfer_honest_iff hio hscsi span blocks, reported]
      constructor
      . intro exact_ _ accepts
        exact (exact_ accepts).2
      . intro exact_ accepts
        exact ⟨rfl, exact_ (UInt16.not_lt.mp short) accepts⟩

end Scsi

section Dispatch

variable {dev : SDBase} {io : IORequest}

/-- The cards that a request may meet, for one outcome of the dispatch. -/
theorem honest_of_eq {f g : ∀ (σ : Type) (_ : Card σ) (_ : Bus σ), Option (Outcome σ)}
    (h : ∀ (σ : Type) (card : Card σ) (bus : Bus σ), f σ card bus = g σ card bus)
    : (∀ (σ : Type) (card : Card σ) (bus : Bus σ) (o : Outcome σ), f σ card bus = some o
          → Honest dev io bus.memory o)
        ↔ ∀ (σ : Type) (card : Card σ) (bus : Bus σ) (o : Outcome σ), g σ card bus = some o
          → Honest dev io bus.memory o := by
  simp only [h]

theorem honest_some {g : ∀ (σ : Type) (_ : Card σ) (_ : Bus σ), Outcome σ}
    : (∀ (σ : Type) (card : Card σ) (bus : Bus σ) (o : Outcome σ), some (g σ card bus) = some o
          → Honest dev io bus.memory o)
        ↔ ∀ (σ : Type) (card : Card σ) (bus : Bus σ), Honest dev io bus.memory (g σ card bus) := by
  constructor
  . intro h σ card bus
    exact h σ card bus _ rfl
  . intro h σ card bus o ho
    cases ho
    exact h σ card bus

theorem sdPerformScsi_honest_iff (capacity : UInt32) (hio : io.command = .hdScsicmd)
    : (∀ (σ : Type) (card : Card σ) (bus : Bus σ) (o : Outcome σ),
          sdPerformScsi card dev capacity io bus = some o → Honest dev io bus.memory o)
        ↔ ∀ scsi command, io.scsi = some scsi → scsi.command = some command → ¬ scsi.Refused
          → (command 0 = 0x08 ∨ command 0 = 0x0a
              → scsi.Exact6 dev (dev.maxblocks capacity) command)
            ∧ (command 0 = 0x28 ∨ command 0 = 0x2a
              → scsi.Exact10 dev (dev.maxblocks capacity) command) := by
  by_cases refused : ∀ scsi command, io.scsi = some scsi → scsi.command = some command
      → scsi.Refused
  . constructor
    . intro _ scsi command hscsi hcommand running
      exact absurd (refused scsi command hscsi hcommand) running
    . intro _ σ card bus o h
      cases sdPerformScsi_of_refused card capacity io bus refused with | intro error ho =>
      rw [ho] at h
      cases h
      exact honest_refuse
  . simp only [not_forall] at refused
    obtain ⟨scsi, command, hscsi, hcommand, running⟩ := refused
    rw [honest_of_eq fun σ card bus =>
      sdPerformScsi_eq card capacity hio hscsi hcommand running bus]
    have only (P : ScsiCmd → (Nat → UInt8) → Prop)
        : (∀ scsi' command', io.scsi = some scsi' → scsi'.command = some command'
            → ¬ scsi'.Refused → P scsi' command') ↔ P scsi command := by
      constructor
      . intro all
        exact all scsi command hscsi hcommand running
      . intro this scsi' command' hscsi' hcommand' _
        rw [hscsi] at hscsi'
        cases hscsi'
        rw [hcommand] at hcommand'
        cases hcommand'
        exact this
    rw [only]
    by_cases six : command 0 = 0x08 ∨ command 0 = 0x0a
    . have notTen : ¬ (command 0 = 0x28 ∨ command 0 = 0x2a) := fun ten => not_six_of_ten ten six
      simp only [if_pos six]
      rw [honest_some, scsiReadWrite6_honest_iff hio hscsi hcommand six]
      constructor
      . intro exact_
        exact ⟨fun _ => exact_, fun ten => absurd ten notTen⟩
      . intro exact_
        exact exact_.1 six
    . simp only [if_neg six]
      by_cases ten : command 0 = 0x28 ∨ command 0 = 0x2a
      . simp only [if_pos ten]
        rw [honest_some, scsiReadWrite10_honest_iff hio hscsi hcommand ten]
        constructor
        . intro exact_
          exact ⟨fun other => absurd other six, fun _ => exact_⟩
        . intro exact_
          exact exact_.2 ten
      . simp only [if_neg ten]
        constructor
        . intro _
          exact ⟨fun other => absurd other six, fun other => absurd other ten⟩
        . intro _ σ card bus o h
          cases h

/-- Which requests are complete and honest with every card. -/
theorem sdPerformIO_honest_iff (dev : SDBase) (capacity : UInt32) (io : IORequest)
    : (∀ (σ : Type) (card : Card σ) (bus : Bus σ) (o : Outcome σ),
          sdPerformIO card dev capacity io bus = some o → Honest dev io bus.memory o)
        ↔ io.Exact dev capacity := by
  unfold IORequest.Exact
  by_cases refused : dev.enabled = false ∨ io.aborted = true
  . constructor
    . intro _
      exact .inl refused
    . intro _ σ card bus o h
      cases sdPerformIO_of_refused card capacity io bus refused with | intro error ho =>
      rw [ho] at h
      cases h
      exact honest_refuse
  . rw [or_iff_right refused]
    rw [honest_of_eq fun σ card bus => sdPerformIO_eq card capacity io bus refused]
    by_cases scsi : io.command = .hdScsicmd
    . simp only [if_pos scsi]
      exact sdPerformScsi_honest_iff capacity scsi
    . simp only [if_neg scsi]
      rw [honest_some]
      exact sdReadWrite_honest_iff scsi

/-- A read of one block and one byte: one block is moved, 513 bytes are reported. -/
theorem sdPerformIO_reports_length
    : ∃ o, sdPerformIO readyCard smallImage 0 (readRequest 0 513) readyBus = some o
        ∧ ¬ Honest smallImage (readRequest 0 513) readyBus.memory o := by
  refine ⟨_, rfl, ?_⟩
  intro honest
  have complete := honest rfl
  exact absurd complete.reported (by decide)

end Dispatch

end ZZSd
