import ZZ9000.SdBoot.Device

/-!
This module contains the verification of the block transfers: what one try moves, as a relation on
the memory and the commands that the card sees, and what the retries make of it.
-/

namespace ZZSd

open Streams

namespace Command

/-- The block number that the two registers make up. -/
def block (c : Command) : UInt32 := (c.hi.toUInt32 <<< 16) ||| c.lo.toUInt32

/-- The blocks that the command is about. -/
def blocks (c : Command) : List UInt32 :=
  (List.range c.count.toNat).map fun j => c.block + UInt32.ofNat j

/-- The blocks with their part of the window. -/
def sectors (c : Command) : List (UInt32 × List UInt8) :=
  (List.range c.count.toNat).map fun j =>
    (c.block + UInt32.ofNat j, (c.bytes.drop (512 * j)).take 512)

/-- The command for the next blocks of a transfer that has come to block `i` of `len`. -/
structure Sends (write : Bool) (block : UInt32) (len i : Nat) (c : Command) : Prop where
  write_eq : c.write = write
  block_eq : c.block = block + UInt32.ofNat i
  count_eq : c.count.toNat = min 48 (len - i)

end Command

namespace Command.Sends

variable {write : Bool} {block : UInt32} {len i : Nat} {c : Command}

theorem blocks (sends : c.Sends write block len i) (pending : i < len) {b : UInt32}
    (hb : b ∈ c.blocks)
    : ∃ j < len, b = block + UInt32.ofNat j := by
  have count := sends.count_eq
  unfold Command.blocks at hb
  rw [List.mem_map] at hb
  cases hb with | intro j hj =>
  rw [List.mem_range] at hj
  exists i + j
  constructor
  . omega
  . rw [← hj.2, sends.block_eq, UInt32.ofNat_add, UInt32.add_assoc]

end Command.Sends

/-- One try from block `i` on: the memory before, the status, the commands, the memory after. -/
inductive Moved (write : Bool) (data : Nat) (block : UInt32) (len : Nat)
    : Nat → (Nat → UInt8) → UInt16 → List Command → (Nat → UInt8) → Prop where
  | finished (memory : Nat → UInt8) : Moved write data block len len memory 0 [] memory
  | failed {i : Nat} {memory : Nat → UInt8} {status : UInt16} {c : Command} (pending : i < len)
      (why : status = sderrfTimeout ∨ status = sderrfParam) (sends : c.Sends write block len i)
      : Moved write data block len i memory status [c] memory
  | moved {i : Nat} {memory memory' : Nat → UInt8} {status : UInt16} {c : Command}
      {commands : List Command} (pending : i < len) (sends : c.Sends write block len i)
      (done : c.done = true) (size : c.bytes.length = 512 * c.count.toNat)
      (taken : write = true → c.bytes = load memory (data + 512 * i) (512 * c.count.toNat))
      (rest : Moved write data block len (i + c.count.toNat)
        (if write then memory else store memory (data + 512 * i) c.bytes) status commands memory')
      : Moved write data block len i memory status (c :: commands) memory'

theorem block_halves (value : UInt32)
    : ((value >>> 16).toUInt16.toUInt32 <<< 16) ||| value.toUInt16.toUInt32 = value := by
  rw [← UInt32.toBitVec_inj]
  apply BitVec.eq_of_getLsbD_eq
  intro i hi
  simp [-UInt32.toUInt32_toUInt16]
  interval_cases i <;> simp

theorem toNat_numBlocks {len i : UInt32} (h : i < len)
    : (numBlocks len i).toNat = min 48 (len.toNat - i.toNat) := by
  have order := UInt32.le_of_lt h
  have remaining := UInt32.toNat_sub_of_le _ _ order
  unfold numBlocks blocksAtOnce
  split
  next small =>
    rw [UInt32.lt_iff_toNat_lt, remaining] at small
    have : (48 : UInt32).toNat = 48 := rfl
    omega
  next large =>
    rw [UInt32.lt_iff_toNat_lt, remaining] at large
    have : (48 : UInt32).toNat = 48 := rfl
    omega

section Try

variable {σ : Type} (card : Card σ) {write : Bool} {data : Nat} {block len : UInt32}

/-- The loop walks through the relation, by induction on the turns left. -/
theorem transferBlocks_moved (hlen : 512 * len.toNat < 2 ^ 32) (fuel : Nat) (i : UInt32)
    (hi : i ≤ len) (hfuel : len.toNat - i.toNat ≤ fuel) (bus : Bus σ)
    : Moved write data block len.toNat i.toNat bus.memory
        (transferBlocks card write data block len fuel i bus).status
        (transferBlocks card write data block len fuel i bus).commands
        (transferBlocks card write data block len fuel i bus).bus.memory := by
  induction fuel generalizing i bus with
  | zero =>
    rw [UInt32.le_iff_toNat_le] at hi
    have last : i.toNat = len.toNat := by omega
    rw [last]
    exact .finished _
  | succ fuel ih =>
    unfold transferBlocks
    split
    next pending =>
      have count := toNat_numBlocks pending
      have less := UInt32.lt_iff_toNat_lt.mp pending
      have small : (numBlocks len i).toNat < 2 ^ 16 := by omega
      have narrow : (numBlocks len i).toUInt16.toNat = (numBlocks len i).toNat := by
        rw [UInt32.toNat_toUInt16, Nat.mod_eq_of_lt small]
      have place : (i <<< sdSectorShift).toNat = 512 * i.toNat := by
        rw [UInt32.toNat_shiftLeft]
        have : sdSectorShift.toNat % 32 = 9 := rfl
        rw [this, Nat.shiftLeft_eq, Nat.mod_eq_of_lt (by omega)]
        omega
      have size : (numBlocks len i * sdSectorBytes).toNat = 512 * (numBlocks len i).toNat := by
        rw [UInt32.toNat_mul]
        have : sdSectorBytes.toNat = 512 := rfl
        rw [this, Nat.mod_eq_of_lt (by omega)]
        omega
      have next : (i + numBlocks len i).toNat = i.toNat + (numBlocks len i).toNat := by
        rw [UInt32.toNat_add, Nat.mod_eq_of_lt (by omega)]
      have ofNat_i : UInt32.ofNat i.toNat = i := UInt32.ofNat_toNat
      have sends (bytes : List UInt8) (done : Bool)
          : Command.Sends write block len.toNat i.toNat {
              write, count := (numBlocks len i).toUInt16, hi := ((block + i) >>> 16).toUInt16
              lo := (block + i).toUInt16, bytes, done } := by
        constructor
        . rfl
        . rw [ofNat_i]
          exact block_halves (block + i)
        . rw [narrow, count]
      dsimp only
      rw [place, size]
      generalize pollStatus card sdPollTimeout _ = polled
      cases polled with | mk answer s =>
      cases answer with
      | none => exact .failed less (.inl rfl) (sends _ _)
      | some st =>
        dsimp only
        by_cases hst : st ≠ 0
        . rw [if_pos hst]
          exact .failed less (.inr rfl) (sends _ _)
        . rw [if_neg hst]
          have later := ih (i + numBlocks len i) (by rw [UInt32.le_iff_toNat_le]; omega) (by omega)
          apply Moved.moved less (sends _ _) rfl
          . dsimp only
            rw [narrow]
            split <;> simp
          . intro hwrite
            dsimp only
            rw [narrow, if_pos hwrite, if_pos hwrite]
          . dsimp only
            rw [narrow, ← next]
            exact later { card := s, memory := _ }
    next past =>
      rw [UInt32.le_iff_toNat_le] at hi
      rw [UInt32.lt_iff_toNat_lt] at past
      have last : i.toNat = len.toNat := by omega
      rw [last]
      exact .finished _

end Try

namespace Moved

variable {write : Bool} {data : Nat} {block : UInt32} {len i : Nat} {memory memory' : Nat → UInt8}
    {status : UInt16} {commands : List Command}

/-- The status of a try keeps what it says in eight bits. -/
theorem toUInt8_ne_zero (moved : Moved write data block len i memory status commands memory')
    (h : status ≠ 0)
    : status.toUInt8.toUInt16 ≠ 0 := by
  induction moved with
  | finished memory => exact absurd rfl h
  | failed pending why sends =>
    cases why with
    | inl why => rw [why]; decide
    | inr why => rw [why]; decide
  | moved pending sends done size taken rest ih => exact ih h

theorem commands_ne_nil (moved : Moved write data block len i memory status commands memory')
    (h : i < len)
    : commands ≠ [] := by
  cases moved with
  | finished memory => omega
  | failed pending why sends => simp
  | moved pending sends done size taken rest => simp

theorem count_of_mem (moved : Moved write data block len i memory status commands memory')
    (c : Command) (hc : c ∈ commands)
    : c.write = write ∧ 1 ≤ c.count.toNat ∧ c.count.toNat ≤ 48 := by
  induction moved with
  | finished memory => simp at hc
  | failed pending why sends =>
    have count := sends.count_eq
    rw [List.mem_singleton.mp hc]
    exact ⟨sends.write_eq, by omega, by omega⟩
  | moved pending sends done size taken rest ih =>
    have count := sends.count_eq
    cases List.mem_cons.mp hc with
    | inl first =>
      rw [first]
      exact ⟨sends.write_eq, by omega, by omega⟩
    | inr later => exact ih later

/-- Every block that any command of a try is about is one of the transfer. -/
theorem blocks_of_mem (moved : Moved write data block len i memory status commands memory')
    (c : Command) (hc : c ∈ commands) (b : UInt32) (hb : b ∈ c.blocks)
    : ∃ j < len, b = block + UInt32.ofNat j := by
  induction moved with
  | finished memory => simp at hc
  | failed pending why sends =>
    rw [List.mem_singleton.mp hc] at hb
    exact sends.blocks pending hb
  | moved pending sends done size taken rest ih =>
    cases List.mem_cons.mp hc with
    | inl first =>
      rw [first] at hb
      exact sends.blocks pending hb
    | inr later => exact ih later

theorem done_of_mem (moved : Moved write data block len i memory status commands memory')
    (h : status = 0) (c : Command) (hc : c ∈ commands)
    : c.done = true ∧ c.bytes.length = 512 * c.count.toNat := by
  induction moved with
  | finished memory => simp at hc
  | failed pending why sends =>
    cases why with
    | inl why => rw [why] at h; exact absurd h (by decide)
    | inr why => rw [why] at h; exact absurd h (by decide)
  | moved pending sends done size taken rest ih =>
    cases List.mem_cons.mp hc with
    | inl first =>
      rw [first]
      exact ⟨done, size⟩
    | inr later => exact ih h later

/-- A try changes no byte outside the part of the buffer that is still to come. -/
theorem memory_of_outside (moved : Moved write data block len i memory status commands memory')
    (a : Nat) (h : a < data + 512 * i ∨ data + 512 * len ≤ a)
    : memory' a = memory a := by
  induction moved with
  | finished memory => rfl
  | failed pending why sends => rfl
  | moved pending sends done size taken rest ih =>
    have count := sends.count_eq
    rw [ih (by omega)]
    split
    . rfl
    . cases h with
      | inl below => exact store_of_lt below
      | inr above =>
        apply store_of_ge
        omega

theorem memory_of_write (moved : Moved true data block len i memory status commands memory')
    : memory' = memory := by
  generalize hwrite : true = write at moved
  induction moved with
  | finished memory => rfl
  | failed pending why sends => rfl
  | moved pending sends done size taken rest ih =>
    rw [ih, ← hwrite]
    rfl

/-- What a command that is done has moved stands in the buffer when the try is over. -/
theorem load_eq_bytes {c : Command} (sends : c.Sends write block len i)
    (size : c.bytes.length = 512 * c.count.toNat)
    (taken : write = true → c.bytes = load memory (data + 512 * i) (512 * c.count.toNat))
    (rest : Moved write data block len (i + c.count.toNat)
      (if write then memory else store memory (data + 512 * i) c.bytes) status commands memory')
    : load memory' (data + 512 * i) (512 * c.count.toNat) = c.bytes := by
  have kept : ∀ a < data + 512 * (i + c.count.toNat), memory' a
      = (if write then memory else store memory (data + 512 * i) c.bytes) a := by
    intro a ha
    exact rest.memory_of_outside a (.inl ha)
  have whole : load memory' (data + 512 * i) (512 * c.count.toNat)
      = load (if write then memory else store memory (data + 512 * i) c.bytes)
          (data + 512 * i) (512 * c.count.toNat) := by
    apply load_congr
    intro j hj
    exact kept _ (by omega)
  rw [whole]
  cases write with
  | true => exact (taken rfl).symm
  | false =>
    rw [← size]
    exact load_store

/-- A try that succeeds moves every block once, in order, to or from its place in the buffer. -/
theorem sectors_eq (moved : Moved write data block len i memory status commands memory')
    (h : status = 0)
    : commands.flatMap Command.sectors = (List.range (len - i)).map fun j =>
        (block + UInt32.ofNat (i + j), load memory' (data + 512 * (i + j)) 512) := by
  induction moved with
  | finished memory => simp
  | failed pending why sends =>
    cases why with
    | inl why => rw [why] at h; exact absurd h (by decide)
    | inr why => rw [why] at h; exact absurd h (by decide)
  | @moved i memory memory' status c commands pending sends done size taken rest ih =>
    have count := sends.count_eq
    have split : len - i = c.count.toNat + (len - (i + c.count.toNat)) := by omega
    rw [List.flatMap_cons, ih h, split, List.range_add, List.map_append, List.map_map]
    congr 1
    . apply List.map_congr_left
      intro j hj
      rw [List.mem_range] at hj
      rw [sends.block_eq, UInt32.ofNat_add, UInt32.add_assoc]
      rw [← load_eq_bytes sends size taken rest, drop_load, take_load]
      congr 2
      . omega
      . omega
    . apply List.map_congr_left
      intro j hj
      dsimp only [Function.comp]
      rw [Nat.add_assoc]

end Moved

section Retries

variable {σ : Type} (card : Card σ)

/-- The transfer that a request retries. -/
def sdTransfer (isWrite : Bool) : Nat → UInt32 → UInt32 → Bus σ → Attempt σ :=
  if isWrite then zzsdWriteBlocks card else zzsdReadBlocks card

theorem sdTransfer_moved (isWrite : Bool) (data : Nat) (block len : UInt32)
    (hlen : 512 * len.toNat < 2 ^ 32) (bus : Bus σ)
    : Moved isWrite data block len.toNat 0 bus.memory
        (sdTransfer card isWrite data block len bus).status
        (sdTransfer card isWrite data block len bus).commands
        (sdTransfer card isWrite data block len bus).bus.memory := by
  have start : (0 : UInt32) ≤ len := by
    rw [UInt32.le_iff_toNat_le]
    exact Nat.zero_le _
  cases isWrite with
  | true => exact transferBlocks_moved card hlen len.toNat 0 start (by omega) bus
  | false => exact transferBlocks_moved card hlen len.toNat 0 start (by omega) bus

/-- The cast to `uint8_t` loses no failure. -/
theorem narrowStatus_sdTransfer (isWrite : Bool) (data : Nat) (block len : UInt32)
    (hlen : 512 * len.toNat < 2 ^ 32) (bus : Bus σ)
    : (narrowStatus (sdTransfer card isWrite data block len bus)).status = 0
        ↔ (sdTransfer card isWrite data block len bus).status = 0 := by
  have moved := sdTransfer_moved card isWrite data block len hlen bus
  constructor
  . intro h
    apply Classical.byContradiction
    intro failed
    exact moved.toUInt8_ne_zero failed h
  . intro h
    unfold narrowStatus
    rw [h]
    rfl

variable {card} {transfer : Bus σ → Attempt σ} {retries : Nat} {bus : Bus σ}

theorem retryTransfer_attempt (attempt : List Command)
    (h : attempt ∈ (retryTransfer card transfer retries bus).attempts)
    : ∃ bus', attempt = (transfer bus').commands := by
  induction retries generalizing bus with
  | zero =>
    unfold retryTransfer at h
    dsimp only at h
    split at h
    . exact ⟨bus, List.mem_singleton.mp h⟩
    . exact ⟨bus, List.mem_singleton.mp h⟩
  | succ retries ih =>
    unfold retryTransfer at h
    dsimp only at h
    split at h
    . exact ⟨bus, List.mem_singleton.mp h⟩
    . cases List.mem_cons.mp h with
      | inl first => exact ⟨bus, first⟩
      | inr later => exact ih later

theorem retryTransfer_first
    : (transfer bus).commands ∈ (retryTransfer card transfer retries bus).attempts := by
  unfold retryTransfer
  dsimp only
  split
  . exact List.mem_singleton.mpr rfl
  . cases retries with
    | zero => exact List.mem_singleton.mpr rfl
    | succ retries => exact List.mem_cons_self

/-- Retries end with a try that has succeeded. `P` is what every try keeps of the memory. -/
theorem retryTransfer_success (P : (Nat → UInt8) → Prop)
    (kept : ∀ bus, P bus.memory → P (transfer bus).bus.memory) (start : P bus.memory)
    (h : (retryTransfer card transfer retries bus).status = 0)
    : ∃ bus', P bus'.memory ∧ (transfer bus').status = 0
        ∧ (retryTransfer card transfer retries bus).bus = (transfer bus').bus
        ∧ (retryTransfer card transfer retries bus).attempts.getLast?
          = some (transfer bus').commands := by
  induction retries generalizing bus with
  | zero =>
    unfold retryTransfer at h ⊢
    dsimp only at h ⊢
    split at h
    next ok =>
      rw [if_pos ok]
      exact ⟨bus, start, ok, rfl, rfl⟩
    next failed => exact absurd h failed
  | succ retries ih =>
    unfold retryTransfer at h ⊢
    dsimp only at h ⊢
    split at h
    next ok =>
      rw [if_pos ok]
      exact ⟨bus, start, ok, rfl, rfl⟩
    next failed =>
      rw [if_neg failed]
      have later := @ih (zzsdReset card (transfer bus).bus) (kept bus start) h
      cases later with | intro bus' last =>
      refine ⟨bus', last.1, last.2.1, last.2.2.1, ?_⟩
      dsimp only
      rw [List.getLast?_cons, last.2.2.2]
      rfl

end Retries

end ZZSd
