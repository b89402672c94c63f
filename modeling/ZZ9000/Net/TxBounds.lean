import Mathlib.Data.Nat.Bitwise
import ZZ9000.Net.Mcast
import ZZ9000.Net.TxLemmas

/-!
This module contains where `write_frame` puts a frame in the TX window, and what the firmware makes
of the word that it writes to `ETH_TX`.
-/

namespace ZZNet

def txSlotSize : Nat := 2048
def txStart : Nat := 0

/--
What a call does. `header` is the address of the Ethernet header and `payload` is where and how much
CopyFromBuffer is asked to copy; addresses are relative to the TX window.
-/
structure TxEffect where
  rc : UInt32
  header : Option Nat
  payload : Option (Nat × UInt32)
  word : Option UInt16
  state : TxState
  deriving DecidableEq

/-- A request that does not get to the TX window. -/
def TxEffect.refused (rc : UInt32) (state : TxState) : TxEffect where
  rc := rc
  header := none
  payload := none
  word := none
  state := state

/--
`write_frame`. A `slot` of `none` is the synchronous send, whose result is the status that the
hardware shows in `ETH_TX` after it.
-/
def writeFrameTo (state : TxState) (shift : Bool) (req : TxRequest) (frame : Nat)
    (slot : Option UInt8) (txStatus : UInt16)
    : TxEffect :=
  let header := if req.raw then none else some frame
  let frame := if req.raw then frame else frame + hwEthHdrSize.toNat
  if req.size = 0 then
    { rc := 0, header, payload := none, word := none, state }
  else
    let payload := some (frame, req.dataLength)
    if req.copies = false then
      { rc := 1, header, payload, word := none, state }
    else
      match slot with
      | some slot =>
        let word := txWord slot req.size
        let word := if shift then word ||| txOffset2 else word
        { rc := 0, header, payload, word := some word, state := txSubmitted state }
      | none => { rc := txStatus.toUInt32, header, payload, word := some req.size, state }

def writeFrameAsyncTo {σ : Type} (readStatus : σ → UInt16 × σ) (state : TxState) (shift : Bool)
    (req : TxRequest) (txStatus : UInt16) (ctx : σ)
    : TxEffect × σ :=
  if req.dataLength > hwEthMaxRaw then
    (.refused 1 state, ctx)
  else
    let (state, ctx) := txWaitSlot readStatus txWaitReads state ctx
    match txSlot state with
    | some slot =>
      let frame := txStart + slot.toNat * txSlotSize + if shift then 2 else 0
      (writeFrameTo state shift req frame (some slot) txStatus, ctx)
    | none => (.refused 1 state, ctx)

inductive TxCommand where
  | write
  | multicast
  | broadcast
  deriving DecidableEq

/-- The flags of the device that the firmware decides on. -/
structure TxFlags where
  async : Bool
  shift : Bool

/-- The part of `DevBeginIO` for the commands that send. `none` is a bad multicast address. -/
def devBeginWrite {σ : Type} (readStatus : σ → UInt16 × σ) (flags : TxFlags) (state : TxState)
    (command : TxCommand) (dst : McastAddr) (req : TxRequest) (txStatus : UInt16) (ctx : σ)
    : Option TxEffect × σ :=
  let dst := if command = .broadcast then fun _ => 0xff else dst
  if command ≠ .write ∧ mcastSendOk dst = false then
    (none, ctx)
  else if flags.async then
    let (e, ctx) := writeFrameAsyncTo readStatus state flags.shift req txStatus ctx
    (some e, ctx)
  else
    (some (writeFrameTo state flags.shift req txStart none txStatus), ctx)

/-- The accounting of the slots sees of a call what it has always seen. -/
theorem writeFrameTo_some (state : TxState) (shift : Bool) (req : TxRequest) (frame : Nat)
    (slot : UInt8) (txStatus : UInt16)
    : ((writeFrameTo state shift req frame (some slot) txStatus).rc,
        (writeFrameTo state shift req frame (some slot) txStatus).word,
        (writeFrameTo state shift req frame (some slot) txStatus).state)
        =
      writeFrame state shift req slot := by
  unfold writeFrameTo writeFrame
  by_cases hsize : req.size = 0
  . simp only [hsize, if_true]
  . by_cases hcopies : req.copies = false
    . simp only [hsize, hcopies, if_false, if_true]
    . simp only [hsize, hcopies, if_false]
      rfl

theorem writeFrameAsyncTo_eq {σ : Type} (readStatus : σ → UInt16 × σ) (state : TxState)
    (shift : Bool) (req : TxRequest) (txStatus : UInt16) (ctx : σ)
    : ((writeFrameAsyncTo readStatus state shift req txStatus ctx).1.rc,
        (writeFrameAsyncTo readStatus state shift req txStatus ctx).1.word,
        (writeFrameAsyncTo readStatus state shift req txStatus ctx).1.state,
        (writeFrameAsyncTo readStatus state shift req txStatus ctx).2)
        =
      writeFrameAsync readStatus state shift req ctx := by
  unfold writeFrameAsyncTo writeFrameAsync
  split
  . rfl
  . dsimp only
    cases hslot : txSlot (txWaitSlot readStatus txWaitReads state ctx).1 with
    | none => rfl
    | some slot =>
      dsimp only
      rw [← writeFrameTo_some (txWaitSlot readStatus txWaitReads state ctx).1 shift req
        (txStart + slot.toNat * txSlotSize + if shift then 2 else 0) slot txStatus]

/-- The frame that the firmware sends for a word. -/
structure TxSend where
  async : Bool
  slot : Nat
  offset2 : Bool
  length : Nat
  deriving DecidableEq

def txDecode (word : UInt16) : TxSend :=
  if word &&& txAsync ≠ 0 then
    {
      async := true
      slot := (txWordSlot word).toNat
      offset2 := word &&& txOffset2 ≠ 0
      length := (word &&& txLenMask).toNat
    }
  else
    { async := false, slot := 0, offset2 := false, length := word.toNat }

def TxRequest.headerSize (req : TxRequest) : Nat := if req.raw then 0 else hwEthHdrSize.toNat

/-- The length of the whole frame. -/
def TxRequest.frameSize (req : TxRequest) : Nat := req.headerSize + req.dataLength.toNat

/-- What is placed stays inside a slot, and a word says where it is and how long. -/
structure TxEffect.InSlot (e : TxEffect) (req : TxRequest) (send : TxSend) : Prop where
  slot : send.slot < 4
  fits : (if send.offset2 then 2 else 0) + req.frameSize ≤ txSlotSize
  header : ∀ address ∈ e.header, address = send.slot * txSlotSize + (if send.offset2 then 2 else 0)
    ∧ address + hwEthHdrSize.toNat ≤ (send.slot + 1) * txSlotSize
  payload : ∀ place ∈ e.payload,
    place.1 = send.slot * txSlotSize + (if send.offset2 then 2 else 0) + req.headerSize
      ∧ place.2 = req.dataLength ∧ place.1 + place.2.toNat ≤ (send.slot + 1) * txSlotSize
  word : ∀ word ∈ e.word, txDecode word = send
  length : send.length = req.frameSize

/-- The frame is in its slot, or the request is refused with nothing in the window. -/
def TxEffect.Safe (e : TxEffect) (req : TxRequest) (async : Bool) : Prop :=
  (∃ send, send.async = async ∧ e.InSlot req send)
    ∨ (e.rc ≠ 0 ∧ e.header = none ∧ e.payload = none ∧ e.word = none)

theorem and_or_word (a b c : UInt16) : (a ||| b) &&& c = (a &&& c) ||| (b &&& c) := by
  rw [← UInt16.toBitVec_inj]
  apply BitVec.and_or_distrib_right

theorem and_txLenMask {len : UInt16} (h : len.toNat < 2048) : len &&& txLenMask = len := by
  rw [← UInt16.toNat_inj, UInt16.toNat_and]
  have hmask : len.toNat &&& txLenMask.toNat = len.toNat % 2 ^ 11 := by
    exact Nat.and_two_pow_sub_one_eq_mod len.toNat 11
  rw [hmask]
  apply Nat.mod_eq_of_lt
  exact h

/-- The bits above the length are the ones that are set for the slot. -/
theorem and_high {len : UInt16} (h : len.toNat < 2048) (c : UInt16) (hc : txLenMask &&& c = 0)
    : len &&& c = 0 := by
  rw [← and_txLenMask h, UInt16.and_assoc, hc, UInt16.and_zero]

/-- The firmware reads the word as it was meant. -/
theorem txDecode_word {slot : UInt8} {len : UInt16} (hslot : slot.toNat < 4)
    (hlen : len.toNat < 2048) (shift : Bool)
    : txDecode (if shift then txWord slot len ||| txOffset2 else txWord slot len)
        =
      { async := true, slot := slot.toNat, offset2 := shift, length := len.toNat } := by
  have hcases : slot = 0 ∨ slot = 1 ∨ slot = 2 ∨ slot = 3 := by
    simp only [← UInt8.toNat_inj, UInt8.reduceToNat]
    omega
  have hword := txWordSlot_word hslot len
  have hasync := and_high hlen txAsync (by decide)
  have hoffset := and_high hlen txOffset2 (by decide)
  have hmask := and_txLenMask hlen
  have htop : txAsync &&& txLenMask ||| slot.toUInt16 <<< txSlotShift &&& txLenMask = 0 := by
    rcases hcases with rfl | rfl | rfl | rfl <;> decide
  unfold txDecode
  cases shift with
  | false =>
    have hbit : txWord slot len &&& txAsync ≠ 0 := by
      unfold txWord
      rw [hmask]
      simp only [and_or_word, hasync, UInt16.or_zero]
      rcases hcases with rfl | rfl | rfl | rfl <;> decide
    have hnone : txWord slot len &&& txOffset2 = 0 := by
      unfold txWord
      rw [hmask]
      simp only [and_or_word, hoffset, UInt16.or_zero]
      rcases hcases with rfl | rfl | rfl | rfl <;> decide
    have hlength : txWord slot len &&& txLenMask = len := by
      unfold txWord
      rw [hmask]
      simp only [and_or_word, hmask]
      rw [htop, UInt16.zero_or]
    simp only [Bool.false_eq_true, if_false]
    rw [if_pos hbit, hword.1, hnone, hlength]
    rfl
  | true =>
    have hbit : (txWord slot len ||| txOffset2) &&& txAsync ≠ 0 := by
      unfold txWord
      rw [hmask]
      simp only [and_or_word, hasync, UInt16.or_zero]
      rcases hcases with rfl | rfl | rfl | rfl <;> decide
    have hsome : (txWord slot len ||| txOffset2) &&& txOffset2 ≠ 0 := by
      unfold txWord
      rw [hmask]
      simp only [and_or_word, hoffset, UInt16.or_zero]
      rcases hcases with rfl | rfl | rfl | rfl <;> decide
    have hlength : (txWord slot len ||| txOffset2) &&& txLenMask = len := by
      unfold txWord
      rw [hmask]
      simp only [and_or_word, hmask]
      have hflag : txOffset2 &&& txLenMask = 0 := by
        decide
      rw [htop, hflag, UInt16.zero_or, UInt16.or_zero]
    simp only [if_true]
    rw [if_pos hbit, hword.2, hlength]
    simp [hsome]

theorem txDecode_sync {len : UInt16} (h : len.toNat < 2 ^ 15)
    : txDecode len = { async := false, slot := 0, offset2 := false, length := len.toNat } := by
  have hbit : len &&& txAsync = 0 := by
    rw [← UInt16.toNat_inj, UInt16.toNat_and]
    have hpow := Nat.and_two_pow len.toNat 15
    rw [Nat.testBit_lt_two_pow h] at hpow
    simpa [txAsync] using hpow
  unfold txDecode
  rw [if_neg (not_not.mpr hbit)]

/-- The size that the driver computes is the one of the frame if it is small. -/
theorem TxRequest.size_toNat {req : TxRequest} (h : req.frameSize ≤ txSlotSize)
    : req.size.toNat = req.frameSize := by
  unfold frameSize headerSize txSlotSize at h
  unfold size frameSize headerSize
  have hheader : hwEthHdrSize.toNat = 14 := by
    decide
  split at h
  . next hraw =>
    rw [if_pos hraw, if_pos hraw, UInt32.toNat_toUInt16]
    omega
  . next hraw =>
    rw [if_neg hraw, if_neg hraw, UInt16.toNat_add, UInt32.toNat_toUInt16]
    omega

/-- Where a frame that fits into its slot goes. -/
theorem writeFrameTo_inSlot (state : TxState) (shift : Bool) (req : TxRequest) (slot : Option UInt8)
    (txStatus : UInt16) (send : TxSend) (hslot : send.slot < 4)
    (hfits : (if send.offset2 then 2 else 0) + req.frameSize ≤ txSlotSize)
    (hlength : send.length = req.frameSize)
    (hword : req.size ≠ 0 → ∀ word ∈ (writeFrameTo state shift req
      (send.slot * txSlotSize + if send.offset2 then 2 else 0) slot txStatus).word,
        txDecode word = send)
    : (writeFrameTo state shift req (send.slot * txSlotSize + if send.offset2 then 2 else 0) slot
        txStatus).InSlot req send := by
  have hheader : hwEthHdrSize.toNat = 14 := by
    decide
  have hplace : send.slot * txSlotSize + (if send.offset2 then 2 else 0) + req.frameSize
      ≤ (send.slot + 1) * txSlotSize := by
    rw [Nat.add_mul]
    omega
  generalize hframe : send.slot * txSlotSize + (if send.offset2 then 2 else 0) = frame at *
  have hhead : ∀ address ∈ (if req.raw then none else some frame),
      address = frame ∧ address + hwEthHdrSize.toNat ≤ (send.slot + 1) * txSlotSize := by
    intro address haddress
    split at haddress
    . contradiction
    . next hraw =>
      simp only [Option.mem_def, Option.some.injEq] at haddress
      rw [← haddress]
      unfold TxRequest.frameSize TxRequest.headerSize at hplace
      rw [if_neg hraw] at hplace
      exact ⟨rfl, by omega⟩
  have hpay : ∀ place ∈ some (if req.raw then frame else frame + hwEthHdrSize.toNat, req.dataLength),
      place.1 = frame + req.headerSize ∧ place.2 = req.dataLength
        ∧ place.1 + place.2.toNat ≤ (send.slot + 1) * txSlotSize := by
    intro place hmem
    simp only [Option.mem_def, Option.some.injEq] at hmem
    have hfirst : (if req.raw then frame else frame + hwEthHdrSize.toNat)
        = frame + req.headerSize := by
      unfold TxRequest.headerSize
      split <;> rfl
    rw [← hmem, hfirst]
    refine ⟨rfl, rfl, ?_⟩
    unfold TxRequest.frameSize at hplace
    rw [← Nat.add_assoc] at hplace
    exact hplace
  unfold writeFrameTo at hword ⊢
  by_cases hsize : req.size = 0
  . dsimp only
    rw [if_pos hsize]
    refine ⟨hslot, hfits, ?_, ?_, ?_, hlength⟩
    . rw [hframe]
      exact hhead
    . simp
    . simp
  . have hword := hword hsize
    dsimp only at hword ⊢
    rw [if_neg hsize] at hword ⊢
    by_cases hcopies : req.copies = false
    . rw [if_pos hcopies]
      refine ⟨hslot, hfits, ?_, ?_, ?_, hlength⟩
      . rw [hframe]
        exact hhead
      . rw [hframe]
        exact hpay
      . simp
    . rw [if_neg hcopies] at hword ⊢
      cases slot with
      | none =>
        refine ⟨hslot, hfits, ?_, ?_, hword, hlength⟩
        . rw [hframe]
          exact hhead
        . rw [hframe]
          exact hpay
      | some slot =>
        refine ⟨hslot, hfits, ?_, ?_, hword, hlength⟩
        . rw [hframe]
          exact hhead
        . rw [hframe]
          exact hpay

/-- An asynchronous frame is never longer than its slot. -/
theorem writeFrameAsyncTo_safe {σ : Type} (readStatus : σ → UInt16 × σ) (state : TxState)
    (shift : Bool) (req : TxRequest) (txStatus : UInt16) (ctx : σ)
    : (writeFrameAsyncTo readStatus state shift req txStatus ctx).1.Safe req true := by
  unfold writeFrameAsyncTo
  split
  . right
    exact ⟨by simp [TxEffect.refused], rfl, rfl, rfl⟩
  . next hlength =>
    dsimp only
    split
    . next slot hslot =>
      left
      have hslot := (txSlot_eq_some hslot).2
      have hheader : hwEthHdrSize.toNat = 14 := by
        decide
      have hsmall : req.frameSize ≤ 1532 := by
        rw [gt_iff_lt, UInt32.not_lt, UInt32.le_iff_toNat_le] at hlength
        have hmax : hwEthMaxRaw.toNat = 1518 := by
          decide
        unfold TxRequest.frameSize TxRequest.headerSize
        split <;> omega
      have hsize := req.size_toNat (by unfold txSlotSize; omega)
      have hfits : (if shift then 2 else 0) + req.frameSize ≤ txSlotSize := by
        unfold txSlotSize
        split <;> omega
      refine ⟨⟨true, slot.toNat, shift, req.frameSize⟩, rfl, ?_⟩
      unfold txStart
      rw [Nat.zero_add]
      apply writeFrameTo_inSlot _ shift req (some slot) txStatus ⟨true, slot.toNat, shift, req.frameSize⟩
      . show slot.toNat < 4
        omega
      . exact hfits
      . rfl
      . intro hne word hword
        unfold writeFrameTo at hword
        dsimp only at hword
        rw [if_neg hne] at hword
        split at hword
        . contradiction
        . simp only [Option.mem_def, Option.some.injEq] at hword
          rw [← hword, txDecode_word (by omega) (by omega), hsize]
    . right
      exact ⟨by simp [TxEffect.refused], rfl, rfl, rfl⟩

theorem writeFrameTo_sync_safe_iff (state : TxState) (shift : Bool) (req : TxRequest)
    (txStatus : UInt16)
    : (writeFrameTo state shift req txStart none txStatus).Safe req false
        ↔
      req.frameSize ≤ txSlotSize := by
  constructor
  . intro h
    cases h with
    | inl h =>
      obtain ⟨send, _, h⟩ := h
      have := h.fits
      omega
    | inr h =>
      by_cases hsize : req.size = 0
      . exfalso
        apply h.1
        unfold writeFrameTo
        dsimp only
        rw [if_pos hsize]
      . have hpayload := h.2.2.1
        unfold writeFrameTo at hpayload
        dsimp only at hpayload
        rw [if_neg hsize] at hpayload
        split at hpayload <;> contradiction
  . intro hfits
    left
    have hsize := req.size_toNat hfits
    have hstart : txStart = 0 * txSlotSize + (if false = true then 2 else 0) := by
      simp [txStart]
    refine ⟨⟨false, 0, false, req.frameSize⟩, rfl, ?_⟩
    rw [hstart]
    apply writeFrameTo_inSlot state shift req none txStatus ⟨false, 0, false, req.frameSize⟩
    . show 0 < 4
      decide
    . show 0 + req.frameSize ≤ txSlotSize
      rw [Nat.zero_add]
      exact hfits
    . rfl
    . intro hne word hword
      unfold writeFrameTo at hword
      dsimp only at hword
      rw [if_neg hne] at hword
      split at hword
      . contradiction
      . simp only [Option.mem_def, Option.some.injEq] at hword
        unfold txSlotSize at hfits
        rw [← hword, txDecode_sync (by omega), hsize]

/-- Every request is safe on the asynchronous path, and only those that fit on the other one. -/
theorem devBeginWrite_safe_iff {σ : Type} (readStatus : σ → UInt16 × σ) (flags : TxFlags)
    (state : TxState) (command : TxCommand) (dst : McastAddr) (req : TxRequest) (txStatus : UInt16)
    (ctx : σ)
    : (∀ e, (devBeginWrite readStatus flags state command dst req txStatus ctx).1 = some e →
          e.Safe req flags.async)
        ↔
      (flags.async = true ∨ req.frameSize ≤ txSlotSize
        ∨ command = .multicast ∧ mcastSendOk dst = false) := by
  have hbroadcast (h : command = .broadcast)
      : mcastSendOk (if command = .broadcast then fun _ => 0xff else dst) = true := by
    rw [if_pos h]
    decide
  have hmulticast (h : command ≠ .broadcast)
      : (if command = .broadcast then fun _ => 0xff else dst) = dst :=
    if_neg h
  unfold devBeginWrite
  dsimp only
  generalize (if command = .broadcast then fun _ => (0xff : UInt8) else dst) = dst' at *
  split
  . next hrefused =>
    apply iff_of_true
    . intro e he
      contradiction
    . right
      right
      cases command with
      | write => exact absurd rfl hrefused.1
      | multicast =>
        rw [← hmulticast (by decide)]
        exact ⟨rfl, hrefused.2⟩
      | broadcast =>
        rw [hbroadcast rfl] at hrefused
        nomatch hrefused.2
  . next hsent =>
    split
    . next hasync =>
      apply iff_of_true
      . intro e he
        simp only [Option.some.injEq] at he
        rw [← he, hasync]
        apply writeFrameAsyncTo_safe
      . exact .inl hasync
    . next hasync =>
      simp only [Option.some.injEq, forall_eq']
      rw [Bool.not_eq_true] at hasync
      rw [hasync, writeFrameTo_sync_safe_iff]
      constructor
      . exact fun h => .inr (.inl h)
      . intro h
        rcases h with h | h | h
        . contradiction
        . exact h
        . exfalso
          apply hsent
          rw [hmulticast (by rw [h.1]; decide), h.1]
          exact ⟨by decide, h.2⟩

/-- A synchronous request that is longer than the window is copied and sent all the same. -/
theorem devBeginWrite_overruns
    : ¬∀ e, (devBeginWrite (fun ctx => (0, ctx)) ⟨false, false⟩ ⟨0, 0, 0⟩ .write (fun _ => 0)
          ⟨false, 40000, true⟩ 0 ()).1 = some e →
        e.Safe ⟨false, 40000, true⟩ false := by
  intro h
  have hsafe := h (writeFrameTo ⟨0, 0, 0⟩ false ⟨false, 40000, true⟩ txStart none 0) rfl
  rw [writeFrameTo_sync_safe_iff] at hsafe
  revert hsafe
  decide

end ZZNet
