import ZZ9000.SdBoot.Transfers

/-!
This module contains which blocks of the card a request reaches: the image is the range of
`sd_PartBlocks` blocks from `sd_BaseOffset` on.
-/

namespace ZZSd

open Streams

namespace IORequest

/-- `io_Actual` has the high half of the offset for the commands of 64 bits. -/
def offsetHi (io : IORequest) : UInt32 :=
  match io.command with
  | .tdRead64 | .tdWrite64 | .tdFormat64 | .nscmdTdRead64 | .nscmdTdWrite64 | .nscmdTdFormat64 =>
    io.actual
  | .cmdRead | .cmdWrite | .tdFormat | .hdScsicmd => 0

def byteOffset (io : IORequest) : Nat := io.offsetHi.toNat * 2 ^ 32 + io.offset.toNat

def isWrite (io : IORequest) : Bool :=
  match io.command with
  | .cmdWrite | .tdFormat | .tdWrite64 | .tdFormat64 | .nscmdTdWrite64 | .nscmdTdFormat64 => true
  | .cmdRead | .tdRead64 | .nscmdTdRead64 => false
  | .hdScsicmd =>
    match io.scsi.bind ScsiCmd.command with
    | none => false
    | some command => command 0 = 0x0a ∨ command 0 = 0x2a

/-- The first block of the image that is asked for, and how many. -/
def span (io : IORequest) : Nat × Nat :=
  if io.command = .hdScsicmd then
    match io.scsi.bind ScsiCmd.command with
    | none => (0, 0)
    | some command =>
      if command 0 = 0x08 ∨ command 0 = 0x0a then
        ((scsiBlock6 command).toNat, (scsiBlocks6 command).toNat)
      else
        ((scsiBlock10 command).toNat, (scsiBlocks10 command).toNat)
  else
    (io.byteOffset / 512, io.length.toNat / 512)

end IORequest

/-- The property of a request with its outcome. -/
structure StaysInside {σ : Type} (dev : SDBase) (span : Nat × Nat) (o : Outcome σ) : Prop where
  inside : ∀ attempt ∈ o.attempts, ∀ c ∈ attempt, ∀ b ∈ c.blocks,
    dev.baseOffset.toNat ≤ b.toNat ∧ b.toNat < dev.baseOffset.toNat + dev.partBlocks.toNat
  rejected : 0 < span.2 → dev.partBlocks.toNat < span.1 + span.2
    → o.error ≠ none ∧ ∀ attempt ∈ o.attempts, attempt = []

/-- The commands of ten bytes that the check lets through although the sum of block and length is
beyond 32 bits. -/
def ScsiCmd.Wraps (dev : SDBase) (scsi : ScsiCmd) (command : Nat → UInt8) : Prop :=
  (command 0 = 0x28 ∨ command 0 = 0x2a) ∧ 10 ≤ scsi.cmdLength ∧ scsi.data ≠ none
    ∧ scsiBlocks10 command ≠ 0
    ∧ 2 ^ 32 ≤ (scsiBlock10 command).toNat + (scsiBlocks10 command).toNat
    ∧ (scsiBlock10 command).toNat + (scsiBlocks10 command).toNat - 2 ^ 32 ≤ dev.partBlocks.toNat
    ∧ 512 * (scsiBlocks10 command).toNat ≤ scsi.length.toNat

/-- The requests that stay inside the image. -/
def IORequest.Guarded (dev : SDBase) (io : IORequest) : Prop :=
  dev.enabled = false ∨ io.aborted = true
    ∨ if io.command = .hdScsicmd then
        ∀ scsi command, io.scsi = some scsi → scsi.command = some command
          → ¬ scsi.Wraps dev command
      else
        io.data = none ∨ io.length.toNat < 512 ∨ io.span.1 + io.span.2 ≤ dev.partBlocks.toNat

theorem not_six_of_ten {command : Nat → UInt8} (ten : command 0 = 0x28 ∨ command 0 = 0x2a)
    : ¬ (command 0 = 0x08 ∨ command 0 = 0x0a) := by
  cases ten with
  | inl read => rw [read]; decide
  | inr write => rw [write]; decide

section Refused

variable {σ : Type} {dev : SDBase} {span : Nat × Nat} {o : Outcome σ}

/-- A refused request has not come to the card. -/
theorem staysInside_of_refused (herror : o.error ≠ none) (hattempts : o.attempts = [])
    : StaysInside dev span o := by
  constructor
  . intro attempt hmem
    rw [hattempts] at hmem
    simp at hmem
  . intro _ _
    constructor
    . exact herror
    . intro attempt hmem
      rw [hattempts] at hmem
      simp at hmem

theorem staysInside_refuse (error : IoError) (io : IORequest) (bus : Bus σ)
    : StaysInside dev span (refuse error io bus) := by
  apply staysInside_of_refused
  . simp [refuse]
  . rfl

end Refused

section Sums

/-- The shifts put the two halves of the offset together, and lose what is beyond block 2^32. -/
theorem toNat_blockOfOffset (offset offsetHi : UInt32)
    : ((offset >>> sdSectorShift) ||| (offsetHi <<< (32 - sdSectorShift))).toNat
        = (offsetHi.toNat * 2 ^ 32 + offset.toNat) / 512 % 2 ^ 32 := by
  have low : (offset >>> sdSectorShift).toNat = offset.toNat / 2 ^ 9 := by
    rw [UInt32.toNat_shiftRight]
    exact Nat.shiftRight_eq_div_pow _ _
  have high : (offsetHi <<< (32 - sdSectorShift)).toNat = 2 ^ 23 * (offsetHi.toNat % 2 ^ 9) := by
    rw [UInt32.toNat_shiftLeft]
    have : (32 - sdSectorShift).toNat % 32 = 23 := rfl
    rw [this, Nat.shiftLeft_eq]
    omega
  have small := offset.toNat_lt
  rw [UInt32.toNat_or, low, high, Nat.or_comm, ← Nat.two_pow_add_eq_or_of_lt (by omega)]
  omega

/-- One more byte at the low end of a number. -/
theorem toNat_appendByte_lt {a : UInt32} {bits : Nat} (ha : a.toNat < 2 ^ bits) (b : UInt8)
    : ((a <<< 8) ||| b.toUInt32).toNat < 2 ^ (bits + 8) := by
  have byte := b.toNat_lt
  have shifted : (a <<< 8).toNat < 2 ^ (bits + 8) := by
    rw [UInt32.toNat_shiftLeft]
    have : (8 : UInt32).toNat % 32 = 8 := rfl
    rw [this, Nat.shiftLeft_eq, Nat.pow_add]
    omega
  rw [UInt32.toNat_or, UInt8.toNat_toUInt32]
  apply Nat.or_lt_two_pow shifted
  have : 2 ^ 8 ≤ 2 ^ (bits + 8) := Nat.pow_le_pow_right (by omega) (by omega)
  omega

theorem toNat_scsiBlock6_lt (command : Nat → UInt8)
    : (scsiBlock6 command).toNat < 2 ^ 21 := by
  have first : (command 1 &&& 0x1f).toUInt32.toNat < 2 ^ 5 := by
    rw [UInt8.toNat_toUInt32, UInt8.toNat_and]
    exact Nat.and_lt_two_pow _ (by decide)
  exact toNat_appendByte_lt (toNat_appendByte_lt first (command 2)) (command 3)

theorem toNat_scsiBlocks6_lt (command : Nat → UInt8)
    : (scsiBlocks6 command).toNat < 2 ^ 8 := by
  unfold scsiBlocks6
  rw [UInt8.toNat_toUInt32]
  exact (command 4).toNat_lt

theorem toNat_scsiBlocks10_lt (command : Nat → UInt8)
    : (scsiBlocks10 command).toNat < 2 ^ 16 := by
  have first : (command 7).toUInt32.toNat < 2 ^ 8 := by
    rw [UInt8.toNat_toUInt32]
    exact (command 7).toNat_lt
  exact toNat_appendByte_lt first (command 8)

/-- Block `j` of a transfer within the image. -/
theorem toNat_block_mem {dev : SDBase} {block : UInt32} {first n : Nat}
    (hB : dev.baseOffset.toNat + dev.partBlocks.toNat < 2 ^ 32) (hblock : block.toNat = first)
    (fits : first + n ≤ dev.partBlocks.toNat) (j : Nat) (hj : j < n)
    : (block + dev.baseOffset + UInt32.ofNat j).toNat = dev.baseOffset.toNat + first + j := by
  rw [UInt32.toNat_add, UInt32.toNat_add, hblock, UInt32.toNat_ofNat']
  omega

end Sums

section Requests

variable {σ : Type} (card : Card σ) (dev : SDBase) (bus : Bus σ)

/-- The end of `SD_ReadWrite`. -/
def sdFinish (io : IORequest) (tried : Retried σ) : Outcome σ :=
  if tried.status ≠ 0 then
    { error := some (if tried.status &&& sderrfTimeout ≠ 0 then .diskChanged else .seekError)
      io := { io with actual := 0 }
      bus := tried.bus
      attempts := tried.attempts }
  else
    { error := none
      io := { io with actual := io.length }
      bus := tried.bus
      attempts := tried.attempts }

theorem sdFinish_attempts (io : IORequest) (tried : Retried σ)
    : (sdFinish io tried).attempts = tried.attempts := by
  unfold sdFinish
  split
  . rfl
  . rfl

/-- The tries of a transfer that lies in the image. -/
theorem inside_of_retryTransfer
    (hB : dev.baseOffset.toNat + dev.partBlocks.toNat < 2 ^ 32) {isWrite : Bool} {data : Nat}
    {block n : UInt32} (hn : 512 * n.toNat < 2 ^ 32)
    (fits : block.toNat + n.toNat ≤ dev.partBlocks.toNat) (transfer : Bus σ → Attempt σ)
    (htransfer : ∀ bus, (transfer bus).commands
      = (sdTransfer card isWrite data (block + dev.baseOffset) n bus).commands) (retries : Nat)
    : ∀ attempt ∈ (retryTransfer card transfer retries bus).attempts, ∀ c ∈ attempt,
        ∀ b ∈ c.blocks, dev.baseOffset.toNat ≤ b.toNat
          ∧ b.toNat < dev.baseOffset.toNat + dev.partBlocks.toNat := by
  intro attempt hattempt c hc b hb
  cases retryTransfer_attempt attempt hattempt with | intro bus' hbus' =>
  rw [hbus', htransfer] at hc
  have moved := sdTransfer_moved card isWrite data (block + dev.baseOffset) n hn bus'
  cases moved.blocks_of_mem c hc b hb with | intro j hj =>
  rw [hj.2, toNat_block_mem hB rfl fits j hj.1]
  omega

/-- The first try of a transfer of at least one block has come to the card. -/
theorem exists_attempt_of_retryTransfer {isWrite : Bool} {data : Nat} {block n : UInt32}
    (hn : 512 * n.toNat < 2 ^ 32) (pos : 0 < n.toNat) (transfer : Bus σ → Attempt σ)
    (htransfer : ∀ bus, (transfer bus).commands
      = (sdTransfer card isWrite data block n bus).commands) (retries : Nat)
    : ∃ attempt ∈ (retryTransfer card transfer retries bus).attempts, attempt ≠ [] := by
  refine ⟨_, retryTransfer_first, ?_⟩
  rw [htransfer]
  exact (sdTransfer_moved card isWrite data block n hn bus).commands_ne_nil pos

/-- A transfer of at least one block goes to the card, whatever its offset. -/
theorem sdReadWrite_of_data {io : IORequest} {data : Nat} (hdata : io.data = some data)
    (hlen : 512 ≤ io.length.toNat) (offset offsetHi : UInt32) (isWrite : Bool)
    : sdReadWrite card dev io offset offsetHi isWrite bus
        = sdFinish io (retryTransfer card (sdTransfer card isWrite data
            (((offset >>> sdSectorShift) ||| (offsetHi <<< (32 - sdSectorShift)))
              + dev.baseOffset)
            (io.length >>> sdSectorShift)) (sdRetry - 1) bus) := by
  have long : ¬ io.length < sdSectorBytes := by
    rw [UInt32.lt_iff_toNat_lt]
    have : sdSectorBytes.toNat = 512 := rfl
    omega
  unfold sdReadWrite
  split
  next none =>
    rw [hdata] at none
    cases none
  next data' some =>
    rw [hdata] at some
    cases some
    dsimp only
    rw [if_neg long]
    rfl

theorem toNat_lengthBlocks (len : UInt32)
    : (len >>> sdSectorShift).toNat = len.toNat / 512 := by
  rw [UInt32.toNat_shiftRight]
  exact Nat.shiftRight_eq_div_pow _ _

/-- The transfers of `SD_ReadWrite`: there is no check. -/
theorem sdReadWrite_staysInside
    (hB : dev.baseOffset.toNat + dev.partBlocks.toNat < 2 ^ 32) (io : IORequest)
    (offset offsetHi : UInt32) (isWrite : Bool)
    : StaysInside dev ((offsetHi.toNat * 2 ^ 32 + offset.toNat) / 512, io.length.toNat / 512)
          (sdReadWrite card dev io offset offsetHi isWrite bus)
        ↔ (io.data = none ∨ io.length.toNat < 512
            ∨ (offsetHi.toNat * 2 ^ 32 + offset.toNat) / 512 + io.length.toNat / 512
              ≤ dev.partBlocks.toNat) := by
  have blocks := toNat_lengthBlocks io.length
  have small := io.length.toNat_lt
  have count : 512 * (io.length >>> sdSectorShift).toNat < 2 ^ 32 := by omega
  constructor
  . intro stays
    apply Classical.byContradiction
    intro bad
    rw [not_or, not_or] at bad
    cases hdata : io.data with
    | none => exact bad.1 hdata
    | some data =>
      have long := sdReadWrite_of_data card dev bus hdata (by omega) offset offsetHi isWrite
      rw [long] at stays
      cases exists_attempt_of_retryTransfer card bus count (by omega) _ (fun _ => rfl)
        (sdRetry - 1) with | intro attempt reached =>
      have rejected := stays.rejected (by dsimp only; omega) (by dsimp only; omega)
      rw [sdFinish_attempts] at rejected
      exact reached.2 (rejected.2 attempt reached.1)
  . intro good
    cases hdata : io.data with
    | none =>
      unfold sdReadWrite
      rw [hdata]
      exact staysInside_refuse _ _ _
    | some data =>
      by_cases short : io.length < sdSectorBytes
      . unfold sdReadWrite
        rw [hdata]
        dsimp only
        rw [if_pos short]
        exact staysInside_refuse _ _ _
      . rw [UInt32.lt_iff_toNat_lt] at short
        have sector : sdSectorBytes.toNat = 512 := rfl
        have fits : (offsetHi.toNat * 2 ^ 32 + offset.toNat) / 512 + io.length.toNat / 512
            ≤ dev.partBlocks.toNat := by
          cases good with
          | inl none => rw [hdata] at none; exact absurd none (by simp)
          | inr good => omega
        have first := toNat_blockOfOffset offset offsetHi
        rw [Nat.mod_eq_of_lt (by omega)] at first
        rw [sdReadWrite_of_data card dev bus hdata (by omega) offset offsetHi isWrite]
        constructor
        . rw [sdFinish_attempts]
          apply inside_of_retryTransfer card dev bus hB count _ _ (fun _ => rfl)
          rw [first]
          omega
        . dsimp only
          omega

theorem toNat_shiftBlocks {blocks : UInt32} (h : blocks.toNat < 2 ^ 16)
    : (blocks <<< sdSectorShift).toNat = 512 * blocks.toNat := by
  rw [UInt32.toNat_shiftLeft]
  have : sdSectorShift.toNat % 32 = 9 := rfl
  rw [this, Nat.shiftLeft_eq]
  omega

/-- The end of the read and write cases of `SD_PerformSCSI`. -/
def scsiFinish (io : IORequest) (scsi : ScsiCmd) (actual : UInt32) (tried : Retried σ)
    : Outcome σ :=
  if tried.status ≠ 0 then
    { error := some .badStatus
      io := { io with scsi := some scsi }
      bus := tried.bus
      attempts := tried.attempts }
  else
    { error := none
      io := { io with scsi := some { scsi with actual } }
      bus := tried.bus
      attempts := tried.attempts }

theorem scsiFinish_attempts (io : IORequest) (scsi : ScsiCmd) (actual : UInt32)
    (tried : Retried σ)
    : (scsiFinish io scsi actual tried).attempts = tried.attempts := by
  unfold scsiFinish
  split
  . rfl
  . rfl

/-- What the cases check before a transfer. The sum is one of 32 bits. -/
def ScsiCmd.Accepts (scsi : ScsiCmd) (maxblocks block blocks : UInt32) : Prop :=
  block + blocks ≤ maxblocks ∧ 512 * blocks.toNat ≤ scsi.length.toNat ∧ scsi.data ≠ none

variable (maxblocks : UInt32) (io : IORequest) (scsi : ScsiCmd) (isWrite : Bool)
    (block blocks actual : UInt32)

theorem scsiTransfer_of_not_accepts (hblocks : blocks.toNat < 2 ^ 16)
    (h : ¬ scsi.Accepts maxblocks block blocks)
    : (scsiTransfer card dev maxblocks io scsi isWrite block blocks actual bus).error ≠ none
        ∧ (scsiTransfer card dev maxblocks io scsi isWrite block blocks actual bus).attempts
          = [] := by
  unfold scsiTransfer
  split
  . simp [refuse]
  next range =>
    split
    . simp [refuse]
    next long =>
      split
      . simp [refuse]
      next data some =>
        exfalso
        apply h
        rw [UInt32.lt_iff_toNat_lt, toNat_shiftBlocks hblocks] at long
        exact ⟨UInt32.not_lt.mp range, by omega, by rw [some]; simp⟩

theorem scsiTransfer_of_accepts (hblocks : blocks.toNat < 2 ^ 16)
    (h : scsi.Accepts maxblocks block blocks)
    : ∃ data, scsi.data = some data
        ∧ scsiTransfer card dev maxblocks io scsi isWrite block blocks actual bus
          = scsiFinish io scsi actual (retryTransfer card
              (fun bus =>
                narrowStatus (sdTransfer card isWrite data (block + dev.baseOffset) blocks bus))
              (sdRetry - 1) bus) := by
  have range : ¬ block + blocks > maxblocks := UInt32.not_lt.mpr h.1
  have long : ¬ scsi.length < blocks <<< sdSectorShift := by
    rw [UInt32.lt_iff_toNat_lt, toNat_shiftBlocks hblocks]
    have := h.2.1
    omega
  unfold scsiTransfer
  rw [if_neg range, if_neg long]
  split
  next none => exact absurd none h.2.2
  next data some => exact ⟨data, some, rfl⟩

/-- A transfer that the checks accept reaches the card with at least one block, and stays in the
image where the sum has not wrapped. -/
theorem scsiTransfer_staysInside
    (hB : dev.baseOffset.toNat + dev.partBlocks.toNat < 2 ^ 32) (hblocks : blocks.toNat < 2 ^ 16)
    : StaysInside dev (block.toNat, blocks.toNat)
          (scsiTransfer card dev dev.partBlocks io scsi isWrite block blocks actual bus)
        ↔ ¬ (0 < blocks.toNat ∧ 2 ^ 32 ≤ block.toNat + blocks.toNat
            ∧ scsi.Accepts dev.partBlocks block blocks) := by
  have count : 512 * blocks.toNat < 2 ^ 32 := by omega
  have sum := UInt32.toNat_add block blocks
  have width := block.toNat_lt
  by_cases accepted : scsi.Accepts dev.partBlocks block blocks
  . have range := UInt32.le_iff_toNat_le.mp accepted.1
    cases scsiTransfer_of_accepts card dev bus dev.partBlocks io scsi isWrite block blocks actual
      hblocks accepted with | intro data finish =>
    rw [finish.2]
    constructor
    . intro stays wrapped
      cases exists_attempt_of_retryTransfer card bus count wrapped.1
        (fun bus =>
          narrowStatus (sdTransfer card isWrite data (block + dev.baseOffset) blocks bus))
        (fun _ => rfl) (sdRetry - 1) with | intro attempt reached =>
      have small := dev.partBlocks.toNat_lt
      have rejected := stays.rejected wrapped.1 (by dsimp only; omega)
      rw [scsiFinish_attempts] at rejected
      exact reached.2 (rejected.2 attempt reached.1)
    . intro fits
      have unwrapped : block.toNat + blocks.toNat < 2 ^ 32 := by
        apply Classical.byContradiction
        intro bad
        exact fits ⟨by omega, by omega, accepted⟩
      have inside : block.toNat + blocks.toNat ≤ dev.partBlocks.toNat := by omega
      constructor
      . rw [scsiFinish_attempts]
        apply inside_of_retryTransfer card dev bus hB count inside
        exact fun _ => rfl
      . dsimp only
        omega
  . have refused := scsiTransfer_of_not_accepts card dev bus dev.partBlocks io scsi isWrite block
      blocks actual hblocks accepted
    constructor
    . intro _ wrapped
      exact accepted wrapped.2.2
    . intro _
      exact staysInside_of_refused refused.1 refused.2

end Requests

section Commands

variable {σ : Type} (card : Card σ) {dev : SDBase}
    (hB : dev.baseOffset.toNat + dev.partBlocks.toNat < 2 ^ 32)

include hB

theorem sdReadWrite_guarded (io : IORequest) (bus : Bus σ) (offsetHi : UInt32) (isWrite : Bool)
    (hspan : io.span
      = ((offsetHi.toNat * 2 ^ 32 + io.offset.toNat) / 512, io.length.toNat / 512))
    : StaysInside dev io.span (sdReadWrite card dev io io.offset offsetHi isWrite bus)
        ↔ (io.data = none ∨ io.length.toNat < 512
            ∨ io.span.1 + io.span.2 ≤ dev.partBlocks.toNat) := by
  have stays := sdReadWrite_staysInside card dev bus hB io io.offset offsetHi isWrite
  rw [hspan]
  exact stays

variable (io : IORequest) (scsi : ScsiCmd) (command : Nat → UInt8) (isWrite : Bool) (bus : Bus σ)

/-- The numbers of a command of six bytes are too small for a sum that wraps. -/
theorem scsiReadWrite6_staysInside
    : StaysInside dev ((scsiBlock6 command).toNat, (scsiBlocks6 command).toNat)
        (scsiReadWrite6 card dev dev.partBlocks io scsi command isWrite bus) := by
  have block := toNat_scsiBlock6_lt command
  have blocks := toNat_scsiBlocks6_lt command
  unfold scsiReadWrite6
  rw [scsiTransfer_staysInside card dev bus io scsi isWrite _ _ _ hB (by omega)]
  intro wrapped
  omega

theorem scsiReadWrite10_staysInside (hop : command 0 = 0x28 ∨ command 0 = 0x2a)
    : StaysInside dev ((scsiBlock10 command).toNat, (scsiBlocks10 command).toNat)
          (scsiReadWrite10 card dev dev.partBlocks io scsi command isWrite bus)
        ↔ ¬ scsi.Wraps dev command := by
  have blocks := toNat_scsiBlocks10_lt command
  have sum := UInt32.toNat_add (scsiBlock10 command) (scsiBlocks10 command)
  have width := (scsiBlock10 command).toNat_lt
  unfold scsiReadWrite10
  dsimp only
  split
  next short =>
    constructor
    . intro _ wraps
      exact UInt16.not_le.mpr short wraps.2.1
    . intro _
      exact staysInside_refuse _ _ _
  next long =>
    split
    next none =>
      constructor
      . intro _ wraps
        exact wraps.2.2.2.1 none
      . intro _
        constructor
        . simp
        . intro pos
          rw [none] at pos
          exact absurd pos (Nat.lt_irrefl 0)
    next some =>
      have pos : 0 < (scsiBlocks10 command).toNat := by
        apply Nat.pos_of_ne_zero
        intro zero
        exact some (UInt32.toNat_inj.mp zero)
      rw [scsiTransfer_staysInside card dev bus io scsi isWrite _ _ _ hB blocks]
      apply not_congr
      unfold ScsiCmd.Wraps ScsiCmd.Accepts
      rw [UInt32.le_iff_toNat_le, sum]
      constructor
      . intro wrapped
        exact ⟨hop, UInt16.not_lt.mp long, wrapped.2.2.2.2, some, wrapped.2.1, by omega,
          wrapped.2.2.2.1⟩
      . intro wraps
        exact ⟨pos, wraps.2.2.2.2.1, by omega, wraps.2.2.2.2.2.2, wraps.2.2.1⟩

end Commands

section Dispatch

variable {σ : Type} (card : Card σ) {dev : SDBase}

theorem span_of_scsi {io : IORequest} {scsi : ScsiCmd} {command : Nat → UInt8}
    (hio : io.command = .hdScsicmd) (hscsi : io.scsi = some scsi)
    (hcommand : scsi.command = some command)
    : io.span = if command 0 = 0x08 ∨ command 0 = 0x0a then
        ((scsiBlock6 command).toNat, (scsiBlocks6 command).toNat)
      else
        ((scsiBlock10 command).toNat, (scsiBlocks10 command).toNat) := by
  unfold IORequest.span
  rw [if_pos hio, hscsi]
  dsimp only [Option.bind_some]
  rw [hcommand]

/-- A request that is refused whatever its command is. -/
theorem refuse_iff {span : Nat × Nat} {error : IoError} {io : IORequest} {bus : Bus σ} {P : Prop}
    (h : P)
    : StaysInside dev span (refuse error io bus) ↔ P := by
  constructor
  . intro _
    exact h
  . intro _
    exact staysInside_refuse _ _ _

/-- What `SD_PerformSCSI` refuses before it looks at the command. -/
def ScsiCmd.Refused (scsi : ScsiCmd) : Prop :=
  scsi.cmdLength < 6 ∨ (scsi.length > 0 ∧ scsi.data = none)

theorem ScsiCmd.Refused.not_wraps {scsi : ScsiCmd} {command : Nat → UInt8}
    (refused : scsi.Refused)
    : ¬ scsi.Wraps dev command := by
  intro wraps
  cases refused with
  | inl short =>
    rw [UInt16.lt_iff_toNat_lt] at short
    have long := UInt16.le_iff_toNat_le.mp wraps.2.1
    have six : (6 : UInt16).toNat = 6 := rfl
    have ten : (10 : UInt16).toNat = 10 := rfl
    omega
  | inr nothing => exact wraps.2.2.1 nothing.2

/-- The defaults that it answers with. -/
def ScsiCmd.prepared (scsi : ScsiCmd) : ScsiCmd :=
  { scsi with actual := 0, cmdActual := scsi.cmdLength, status := 0, senseActual := 0 }

def SDBase.maxblocks (dev : SDBase) (capacity : UInt32) : UInt32 :=
  if dev.partBlocks = 0 then zzsdCapacityOrDefault capacity else dev.partBlocks

theorem isWrite_of_scsi {io : IORequest} {scsi : ScsiCmd} {command : Nat → UInt8}
    (hio : io.command = .hdScsicmd) (hscsi : io.scsi = some scsi)
    (hcommand : scsi.command = some command)
    : io.isWrite = decide (command 0 = 0x0a ∨ command 0 = 0x2a) := by
  unfold IORequest.isWrite
  rw [hio, hscsi]
  dsimp only [Option.bind_some]
  rw [hcommand]

theorem sdPerformScsi_of_refused (capacity : UInt32) (io : IORequest) (bus : Bus σ)
    (h : ∀ scsi command, io.scsi = some scsi → scsi.command = some command → scsi.Refused)
    : ∃ error, sdPerformScsi card dev capacity io bus = some (refuse error io bus) := by
  unfold sdPerformScsi
  split
  next none => exact ⟨_, rfl⟩
  next scsi hscsi =>
    dsimp only
    split
    next short => exact ⟨_, rfl⟩
    next long =>
      split
      next none => exact ⟨_, rfl⟩
      next command hcommand =>
        cases h scsi command hscsi hcommand with
        | inl short => exact absurd short long
        | inr nothing =>
          rw [if_pos nothing]
          exact ⟨_, rfl⟩

theorem sdPerformScsi_eq (capacity : UInt32) {io : IORequest} (hio : io.command = .hdScsicmd)
    {scsi : ScsiCmd} {command : Nat → UInt8} (hscsi : io.scsi = some scsi)
    (hcommand : scsi.command = some command) (h : ¬ scsi.Refused) (bus : Bus σ)
    : sdPerformScsi card dev capacity io bus
        = if command 0 = 0x08 ∨ command 0 = 0x0a then
            some (scsiReadWrite6 card dev (dev.maxblocks capacity) io scsi.prepared command
              io.isWrite bus)
          else if command 0 = 0x28 ∨ command 0 = 0x2a then
            some (scsiReadWrite10 card dev (dev.maxblocks capacity) io scsi.prepared command
              io.isWrite bus)
          else
            none := by
  have hwrite := isWrite_of_scsi hio hscsi hcommand
  have running := not_or.mp h
  unfold sdPerformScsi
  split
  next none =>
    rw [hscsi] at none
    cases none
  next scsi' same =>
    rw [hscsi] at same
    cases same
    dsimp only
    rw [if_neg running.1]
    split
    next none =>
      rw [hcommand] at none
      cases none
    next command' same =>
      rw [hcommand] at same
      cases same
      rw [if_neg running.2, hwrite]
      by_cases read6 : command 0 = 0x08
      . have six : command 0 = 0x08 ∨ command 0 = 0x0a := .inl read6
        rw [if_pos read6, if_pos six, read6]
        rfl
      . by_cases write6 : command 0 = 0x0a
        . have six : command 0 = 0x08 ∨ command 0 = 0x0a := .inr write6
          rw [if_neg read6, if_pos write6, if_pos six, write6]
          rfl
        . rw [if_neg read6, if_neg write6, if_neg (not_or.mpr ⟨read6, write6⟩)]
          have same : decide (command 0 = 0x0a ∨ command 0 = 0x2a)
              = decide (command 0 = 0x2a) := by
            rw [decide_eq_decide]
            exact or_iff_right write6
          rw [same]
          rfl

theorem sdPerformScsi_guarded (hB : dev.baseOffset.toNat + dev.partBlocks.toNat < 2 ^ 32)
    (hC : dev.partBlocks ≠ 0) (capacity : UInt32) (io : IORequest) (hio : io.command = .hdScsicmd)
    (bus : Bus σ) (o : Outcome σ) (h : sdPerformScsi card dev capacity io bus = some o)
    : StaysInside dev io.span o
        ↔ ∀ scsi command, io.scsi = some scsi → scsi.command = some command
          → ¬ scsi.Wraps dev command := by
  have maxblocks : dev.maxblocks capacity = dev.partBlocks := if_neg hC
  by_cases refused : ∀ scsi command, io.scsi = some scsi → scsi.command = some command
      → scsi.Refused
  . cases sdPerformScsi_of_refused card capacity io bus refused with | intro error ho =>
    rw [ho] at h
    cases h
    apply refuse_iff
    intro scsi command hscsi hcommand
    exact (refused scsi command hscsi hcommand).not_wraps
  . simp only [not_forall] at refused
    obtain ⟨scsi, command, hscsi, hcommand, running⟩ := refused
    have only : (∀ scsi' command', io.scsi = some scsi' → scsi'.command = some command'
        → ¬ scsi'.Wraps dev command') ↔ ¬ scsi.Wraps dev command := by
      constructor
      . intro all
        exact all scsi command hscsi hcommand
      . intro this scsi' command' hscsi' hcommand'
        rw [hscsi] at hscsi'
        cases hscsi'
        rw [hcommand] at hcommand'
        cases hcommand'
        exact this
    rw [only, span_of_scsi hio hscsi hcommand]
    rw [sdPerformScsi_eq card capacity hio hscsi hcommand running, maxblocks] at h
    split at h
    next six =>
      cases h
      rw [if_pos six]
      constructor
      . intro _ wraps
        exact not_six_of_ten wraps.1 six
      . intro _
        exact scsiReadWrite6_staysInside card hB io scsi.prepared command io.isWrite bus
    next notSix =>
      split at h
      next ten =>
        cases h
        rw [if_neg notSix]
        exact scsiReadWrite10_staysInside card hB io scsi.prepared command io.isWrite bus ten
      next => cases h

theorem sdPerformIO_of_refused (capacity : UInt32) (io : IORequest) (bus : Bus σ)
    (h : dev.enabled = false ∨ io.aborted = true)
    : ∃ error, sdPerformIO card dev capacity io bus = some (refuse error io bus) := by
  unfold sdPerformIO
  split
  . exact ⟨_, rfl⟩
  next enabled =>
    rw [Bool.not_eq_eq_eq_not, Bool.not_true] at enabled
    rw [if_pos (h.resolve_left enabled)]
    exact ⟨_, rfl⟩

/-- The dispatch of the requests that move blocks. -/
theorem sdPerformIO_eq (capacity : UInt32) (io : IORequest) (bus : Bus σ)
    (h : ¬ (dev.enabled = false ∨ io.aborted = true))
    : sdPerformIO card dev capacity io bus
        = if io.command = .hdScsicmd then
            sdPerformScsi card dev capacity io bus
          else
            some (sdReadWrite card dev io io.offset io.offsetHi io.isWrite bus) := by
  have running := not_or.mp h
  unfold sdPerformIO
  rw [if_neg (by simpa using running.1), if_neg running.2]
  unfold IORequest.offsetHi IORequest.isWrite
  cases io.command with
  | hdScsicmd => rfl
  | cmdRead | cmdWrite | tdFormat => rfl
  | tdRead64 | tdWrite64 | tdFormat64 => rfl
  | nscmdTdRead64 | nscmdTdWrite64 | nscmdTdFormat64 => rfl

/-- Which requests stay inside the image. -/
theorem sdPerformIO_staysInside_iff (hC : 0 < dev.partBlocks)
    (hB : dev.baseOffset.toNat + dev.partBlocks.toNat < 2 ^ 32) (capacity : UInt32)
    (io : IORequest) (bus : Bus σ) (o : Outcome σ)
    (h : sdPerformIO card dev capacity io bus = some o)
    : StaysInside dev io.span o ↔ io.Guarded dev := by
  have known : dev.partBlocks ≠ 0 := by
    intro zero
    rw [zero] at hC
    exact absurd hC (by decide)
  unfold IORequest.Guarded
  rw [← or_assoc]
  by_cases refused : dev.enabled = false ∨ io.aborted = true
  . cases sdPerformIO_of_refused card capacity io bus refused with | intro error ho =>
    rw [ho] at h
    cases h
    exact refuse_iff (.inl refused)
  . rw [or_iff_right refused]
    rw [sdPerformIO_eq card capacity io bus refused] at h
    split at h
    next scsi =>
      rw [if_pos scsi]
      exact sdPerformScsi_guarded card hB known capacity io scsi bus o h
    next transfer =>
      cases h
      rw [if_neg transfer]
      apply sdReadWrite_guarded card hB
      unfold IORequest.span
      rw [if_neg transfer]
      rfl

/-- A card that answers every command at once. -/
def readyCard : Card Unit where
  submit := fun s _ _ _ _ => s
  readStatus := fun s => (0, s)
  reset := id
  buffer := fun _ _ => 0
  fillBuffer := fun s _ => s

def readyBus : Bus Unit where
  card := ()
  memory := fun _ => 0

/-- An image of a thousand blocks behind a hundred others. -/
def smallImage : SDBase where
  enabled := true
  baseOffset := 100
  partBlocks := 1000

def readRequest (offset length : UInt32) : IORequest where
  command := .cmdRead
  aborted := false
  data := some 4096
  scsi := none
  length := length
  offset := offset
  actual := 0

/-- The last block of the image. -/
theorem sdPerformIO_staysInside_iff_last
    : ∃ o, sdPerformIO readyCard smallImage 0 (readRequest 511488 512) readyBus = some o
        ∧ StaysInside smallImage (999, 1) o := by
  refine ⟨_, rfl, ?_⟩
  have known : 0 < smallImage.partBlocks := by decide
  have inside := sdPerformIO_staysInside_iff readyCard known (by decide) 0
    (readRequest 511488 512) readyBus _ rfl
  apply inside.mpr
  refine .inr (.inr ?_)
  rw [if_neg (by decide)]
  exact .inr (.inr (by decide))

/-- The block behind the image is read. -/
theorem sdPerformIO_leaves_image
    : ∃ o, sdPerformIO readyCard smallImage 0 (readRequest 512000 512) readyBus = some o
        ∧ ¬ StaysInside smallImage (1000, 1) o := by
  refine ⟨_, rfl, ?_⟩
  intro stays
  have rejected := stays.rejected (by decide) (by decide)
  exact rejected.1 rfl

end Dispatch

end ZZSd
