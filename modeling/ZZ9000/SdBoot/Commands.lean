import ZZ9000.Streams.Memory

/-!
This module contains the block transfers of `zzsd_cmd.c` through the buffer window of the card.
-/

namespace ZZSd

open Streams

def sdSectorBytes : UInt32 := 512
def sdSectorShift : UInt32 := 9
def blocksAtOnce : UInt32 := 48
def sdPollTimeout : Nat := 500000
def sdStatusBusy : UInt16 := 0xffff
def sderrfTimeout : UInt16 := (1 : UInt16) <<< 7
def sderrfParam : UInt16 := (1 : UInt16) <<< 6

/-- The card behind its registers: the firmware may answer in any way. -/
structure Card (σ : Type) where
  /-- The status register gets the count, the block registers the halves of the block number. -/
  submit : σ → (write : Bool) → (count hi lo : UInt16) → σ
  readStatus : σ → UInt16 × σ
  /-- `*status = 0` -/
  reset : σ → σ
  buffer : σ → Nat → UInt8
  fillBuffer : σ → List UInt8 → σ

/-- One command as the registers of the card see it, and what passes through the window for it. -/
structure Command where
  write : Bool
  count : UInt16
  hi : UInt16
  lo : UInt16
  bytes : List UInt8
  done : Bool
  deriving DecidableEq, Repr

structure Bus (σ : Type) where
  card : σ
  memory : Nat → UInt8

/-- What one call of `zzsd_read_blocks` or `zzsd_write_blocks` does. -/
structure Attempt (σ : Type) where
  status : UInt16
  bus : Bus σ
  commands : List Command

variable {σ : Type} (card : Card σ)

/-- The result is `none` where the polls run out. -/
def pollStatus (timeout : Nat) (s : σ) : Option UInt16 × σ :=
  match timeout with
  | 0 => (none, s)
  | timeout + 1 =>
    let (st, s) := card.readStatus s
    if st ≠ sdStatusBusy then (some st, s) else pollStatus timeout s

def numBlocks (len i : UInt32) : UInt32 :=
  if len - i < blocksAtOnce then len - i else blocksAtOnce

/-- The `while` loop that the two directions share. Each turn moves at least one block, so that
`fuel` is enough from `len` on. -/
def transferBlocks (write : Bool) (data : Nat) (block len : UInt32) (fuel : Nat) (i : UInt32)
    (bus : Bus σ) : Attempt σ :=
  match fuel with
  | 0 => { status := 0, bus, commands := [] }
  | fuel + 1 =>
    if i < len then
      let count := numBlocks len i
      let place := data + (i <<< sdSectorShift).toNat
      let size := (count * sdSectorBytes).toNat
      let hi := ((block + i) >>> 16).toUInt16
      let lo := (block + i).toUInt16
      let staged := if write then load bus.memory place size else []
      let s := if write then card.fillBuffer bus.card staged else bus.card
      let (answer, s) := pollStatus card sdPollTimeout (card.submit s write count.toUInt16 hi lo)
      let command := { write, count := count.toUInt16, hi, lo, bytes := staged, done := false }
      match answer with
      | none =>
        { status := sderrfTimeout, bus := { bus with card := s }, commands := [command] }
      | some st =>
        if st ≠ 0 then
          { status := sderrfParam, bus := { bus with card := s }, commands := [command] }
        else
          let bytes := if write then staged else load (card.buffer s) 0 size
          let memory := if write then bus.memory else store bus.memory place bytes
          let rest := transferBlocks write data block len fuel (i + count) { card := s, memory }
          { rest with commands := { command with bytes, done := true } :: rest.commands }
    else
      { status := 0, bus, commands := [] }

def zzsdReadBlocks (data : Nat) (block len : UInt32) (bus : Bus σ) : Attempt σ :=
  transferBlocks card false data block len len.toNat 0 bus

def zzsdWriteBlocks (data : Nat) (block len : UInt32) (bus : Bus σ) : Attempt σ :=
  transferBlocks card true data block len len.toNat 0 bus

end ZZSd
