import ZZ9000.Streams.Machine
import Mathlib.Data.UInt

/-!
This module contains the incremental decoder of chunked transfer encoding from `fw_release.c`.
-/

namespace ZZRel

def cr : UInt8 := 13
def lf : UInt8 := 10

inductive ChunkState where
  | size
  | ext
  | sizeLf
  | data
  | dataCr
  | dataLf
  | trailer
  | trailerLine
  | trailerLf
  | done
  | error
deriving DecidableEq, Repr

/-- A round of the loop either reads something or leaves the data of a chunk. -/
def ChunkState.rank (state : ChunkState) : Nat := if state = .data then 1 else 0

theorem ChunkState.rank_le_one (state : ChunkState) : state.rank ≤ 1 := by
  unfold rank
  split <;> omega

/-- `struct fwrel_chunked` -/
structure Chunked where
  state : ChunkState
  remaining : UInt32
  digits : Nat
deriving DecidableEq, Repr

inductive ChunkedResult where
  | more
  | done
  | error
deriving DecidableEq, Repr

/--
A sink decides by what it was given before, block by block, and the next block whether it fails.
-/
abbrev Sink := List (List UInt8) → List UInt8 → Bool

def chunkedInit : Chunked where
  state := .size
  remaining := 0
  digits := 0

def lower (c : UInt8) : UInt8 := if 65 ≤ c ∧ c ≤ 90 then c + 32 else c

def hexValue (c : UInt8) : Option Nat :=
  if 48 ≤ c ∧ c ≤ 57 then
    some (c - 48).toNat
  else if 97 ≤ lower c ∧ lower c ≤ 102 then
    some (lower c - 97 + 10).toNat
  else
    none

/-- What a byte outside of the chunks' data does. The loop ends on `done` and `error`. -/
def chunkedControl (c : Chunked) (b : UInt8) : Chunked :=
  match c.state with
  | .size =>
    match hexValue b with
    | some h =>
      let c := { c with digits := c.digits + 1 }
      if c.digits > 7 then
        { c with state := .error }
      else
        { c with remaining := (c.remaining <<< 4) ||| UInt32.ofNat h }
    | none =>
      if c.digits = 0 then
        { c with state := .error }
      else if b = cr then
        { c with state := .sizeLf }
      else if b = 59 ∨ b = 32 ∨ b = 9 then
        { c with state := .ext }
      else
        { c with state := .error }
  | .ext => if b = cr then { c with state := .sizeLf } else c
  | .sizeLf =>
    if b ≠ lf then
      { c with state := .error }
    else
      { c with digits := 0, state := if c.remaining ≠ 0 then .data else .trailer }
  | .dataCr => { c with state := if b = cr then .dataLf else .error }
  | .dataLf => { c with state := if b = lf then .size else .error }
  | .trailer => { c with state := if b = cr then .trailerLf else .trailerLine }
  | .trailerLine => if b = lf then { c with state := .trailer } else c
  | .trailerLf => { c with state := if b = lf then .done else .error }
  | .data | .done | .error => c

/-- The loop of `fwrel_chunked_feed` over the bytes left, with the blocks given to the sink. -/
def chunkedLoop (sink : Sink) (c : Chunked) (given : List (List UInt8)) (data : List UInt8)
    : Chunked × List (List UInt8) :=
  match data with
  | [] => (c, given)
  | b :: rest =>
    if c.state = .done ∨ c.state = .error then
      (c, given)
    else if c.state = .data then
      let n := min (b :: rest).length c.remaining.toNat
      let block := (b :: rest).take n
      if sink given block then
        ({ c with state := .error }, given ++ [block])
      else
        let remaining := c.remaining - UInt32.ofNat n
        let state := if remaining = 0 then .dataCr else .data
        chunkedLoop sink { c with state, remaining } (given ++ [block]) ((b :: rest).drop n)
    else
      chunkedLoop sink (chunkedControl c b) given rest
termination_by 2 * data.length + c.state.rank
decreasing_by
  . rw [List.length_drop]
    have hpositive : 0 < (b :: rest).length := Nat.succ_pos _
    by_cases hremaining : c.remaining = 0
    . simp [ChunkState.rank, *]
    . have hremaining : 0 < c.remaining.toNat := by
        apply Nat.pos_of_ne_zero
        intro hzero
        apply hremaining
        exact UInt32.toNat_inj.mp hzero
      apply Nat.lt_of_le_of_lt (Nat.add_le_add_left (ChunkState.rank_le_one _) _)
      simp only [ChunkState.rank, *]
      omega
  . apply Nat.lt_of_le_of_lt (Nat.add_le_add_left (ChunkState.rank_le_one _) _)
    rw [List.length_cons]
    omega

def chunkedResult (c : Chunked) : ChunkedResult :=
  match c.state with
  | .error => .error
  | .done => .done
  | _ => .more

def chunkedFeed (sink : Sink) (c : Chunked) (given : List (List UInt8)) (data : List UInt8)
    : ChunkedResult × Chunked × List (List UInt8) :=
  let (c, given) := chunkedLoop sink c given data
  (chunkedResult c, c, given)

end ZZRel
