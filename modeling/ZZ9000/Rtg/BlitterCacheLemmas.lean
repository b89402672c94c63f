import Mathlib.Data.UInt
import ZZ9000.Caches.Shadow
import ZZ9000.Rtg.BlitterCache

/-!
This module contains the refinement of the cached register writes: as long as the static variables
fit the registers of the card whenever it comes up, each operation sees the operands that it would
see without any cache.
-/

namespace ZZRtg

open Caches DriverOp

theorem Card.store_of_ne (card : Card) {store : WordStore} {reg : Nat} (h : reg ≠ store.1)
    : card.store store reg = card reg := by
  unfold Card.store
  rw [Function.update_of_ne h]

theorem Card.storeAll_append (card : Card) (stores stores' : List WordStore)
    : card.storeAll (stores ++ stores') = (card.storeAll stores).storeAll stores' := by
  unfold storeAll
  exact List.foldl_append

theorem Card.triggers_cons (card : Card) (store : WordStore) (stores : List WordStore)
    : card.triggers (store :: stores)
        =
      if store.1 ∈ triggerRegs then
        ⟨store, operandRegs.map card⟩ :: (card.store store).triggers stores
      else
        (card.store store).triggers stores := rfl

theorem Card.triggers_append (card : Card) (stores stores' : List WordStore)
    : card.triggers (stores ++ stores')
        = card.triggers stores ++ (card.storeAll stores).triggers stores' := by
  induction stores generalizing card with
  | nil => rfl
  | cons store stores ih =>
    rw [List.cons_append, triggers_cons, triggers_cons, ih]
    split <;> rfl

theorem Card.triggers_of_not_mem (card : Card) {stores : List WordStore}
    (h : ∀ store ∈ stores, store.1 ∉ triggerRegs)
    : card.triggers stores = [] := by
  induction stores generalizing card with
  | nil => rfl
  | cons store stores ih =>
    rw [triggers_cons, if_neg (h store List.mem_cons_self)]
    exact ih _ fun store' hmem => h store' (List.mem_cons_of_mem _ hmem)

/-- The registers of 16 bits that a cache remembers. -/
inductive Reg16 where
  | operand (o : Operand16)
  | user1
  | user2
  deriving DecidableEq

/-- The pairs of registers that a cache remembers. -/
inductive Reg32 where
  | operand (o : Operand32)
  | rgb2
  deriving DecidableEq

def Reg16.reg (i : Reg16) : Nat :=
  match i with
  | .operand o => o.reg
  | .user1 => Regs.blitterUser1
  | .user2 => Regs.blitterUser2

def Reg32.reg (i : Reg32) : Nat :=
  match i with
  | .operand o => o.reg
  | .rgb2 => Regs.blitterRgb2Hi

def Reg16.all : List Reg16 :=
  [.operand .dstPitch, .operand .colorMode, .operand .x1, .operand .y1, .operand .x2, .operand .y2,
   .operand .x3, .operand .y3, .user1, .user2]

def Reg32.all : List Reg32 := [.operand .srcOffset, .operand .dstOffset, .operand .rgb, .rgb2]

theorem Reg16.mem_all (i : Reg16) : i ∈ all := by
  cases i with
  | operand o => cases o <;> decide
  | _ => decide

theorem Reg32.mem_all (i : Reg32) : i ∈ all := by
  cases i with
  | operand o => cases o <;> decide
  | rgb2 => decide

theorem Reg16.reg_ne (i j : Reg16) (h : j ≠ i) : j.reg ≠ i.reg := by
  have hall : ∀ i ∈ all, ∀ j ∈ all, j ≠ i → j.reg ≠ i.reg := by decide
  exact hall i i.mem_all j j.mem_all h

theorem Reg32.reg_ne (i j : Reg32) (h : j ≠ i)
    : (j.reg ≠ i.reg ∧ j.reg ≠ i.reg + 2) ∧ j.reg + 2 ≠ i.reg ∧ j.reg + 2 ≠ i.reg + 2 := by
  have hall : ∀ i ∈ all, ∀ j ∈ all, j ≠ i →
      (j.reg ≠ i.reg ∧ j.reg ≠ i.reg + 2) ∧ j.reg + 2 ≠ i.reg ∧ j.reg + 2 ≠ i.reg + 2 := by
    decide
  exact hall i i.mem_all j j.mem_all h

theorem Reg16.reg_ne_reg32 (i : Reg16) (j : Reg32) : i.reg ≠ j.reg ∧ i.reg ≠ j.reg + 2 := by
  have hall : ∀ i ∈ Reg16.all, ∀ j ∈ Reg32.all, i.reg ≠ j.reg ∧ i.reg ≠ j.reg + 2 := by decide
  exact hall i i.mem_all j j.mem_all

def ofHalves (high low : UInt16) : UInt32 := high.toUInt32 * 0x10000 + low.toUInt32

theorem ofHalves_word32 (value : UInt32)
    : ofHalves (value >>> 16).toUInt16 value.toUInt16 = value := by
  apply UInt32.toNat_inj.mp
  unfold ofHalves
  simp only [UInt32.toNat_add, UInt32.toNat_mul, UInt16.toNat_toUInt32, UInt32.toNat_toUInt16,
    UInt32.toNat_shiftRight, Nat.shiftRight_eq_div_pow, UInt32.reduceToNat, Nat.reduceMod, Nat.reducePow]
  have := value.toNat_lt
  omega

theorem high_ofHalves (high low : UInt16) : (ofHalves high low >>> 16).toUInt16 = high := by
  apply UInt16.toNat_inj.mp
  unfold ofHalves
  simp only [UInt32.toNat_add, UInt32.toNat_mul, UInt16.toNat_toUInt32, UInt32.toNat_toUInt16,
    UInt32.toNat_shiftRight, Nat.shiftRight_eq_div_pow, UInt32.reduceToNat, Nat.reduceMod, Nat.reducePow]
  have := high.toNat_lt
  have := low.toNat_lt
  omega

theorem low_ofHalves (high low : UInt16) : (ofHalves high low).toUInt16 = low := by
  apply UInt16.toNat_inj.mp
  unfold ofHalves
  simp only [UInt32.toNat_add, UInt32.toNat_mul, UInt16.toNat_toUInt32, UInt32.toNat_toUInt16,
    UInt32.reduceToNat, Nat.reducePow]
  have := high.toNat_lt
  have := low.toNat_lt
  omega

def Card.read32 (card : Card) (reg : Nat) : UInt32 := ofHalves (card reg) (card (reg + 2))

theorem Card.storeAll_word32 (card : Card) (reg : Nat) (value : UInt32)
    : card.storeAll (word32 reg value)
        =
      Function.update (Function.update card reg (value >>> 16).toUInt16) (reg + 2)
        value.toUInt16 := rfl

def cells16 : Cells Card Reg16 UInt16 where
  read := fun card i => card i.reg
  write := fun card i value => card.store (i.reg, value)
  write_read := by
    intro card i
    exact Function.update_eq_self i.reg card
  read_write_self := by
    intro card i value
    exact Function.update_self i.reg value card
  read_write_of_ne := by
    intro card i j value h
    exact Function.update_of_ne (Reg16.reg_ne i j h) value card

def cells32 : Cells Card Reg32 UInt32 where
  read := fun card i => card.read32 i.reg
  write := fun card i value => card.storeAll (word32 i.reg value)
  write_read := by
    intro card i
    rw [Card.storeAll_word32]
    unfold Card.read32
    rw [high_ofHalves, low_ofHalves, Function.update_eq_self]
    exact Function.update_eq_self _ card
  read_write_self := by
    intro card i value
    rw [Card.storeAll_word32]
    unfold Card.read32
    rw [Function.update_self, Function.update_of_ne (by omega), Function.update_self]
    exact ofHalves_word32 value
  read_write_of_ne := by
    intro card i j value h
    obtain ⟨⟨hhigh, hhigh'⟩, hlow, hlow'⟩ := Reg32.reg_ne i j h
    rw [Card.storeAll_word32]
    unfold Card.read32
    rw [Function.update_of_ne hhigh', Function.update_of_ne hhigh, Function.update_of_ne hlow',
      Function.update_of_ne hlow]

theorem UInt32.or_and_distrib (a b c : UInt32) : (a ||| b) &&& c = (a &&& c) ||| (b &&& c) := by
  apply UInt32.toNat_inj.mp
  simp only [UInt32.toNat_and, UInt32.toNat_or]
  exact Nat.and_or_distrib_right ..

theorem or_bit_and_other {valid bit other : UInt32} (h : bit &&& other = 0)
    : (valid ||| bit) &&& other = valid &&& other := by
  rw [UInt32.or_and_distrib, h, UInt32.or_zero]

theorem clear_bit_and_other {valid bit other : UInt32} (h : ~~~bit &&& other = other)
    : valid &&& ~~~bit &&& other = valid &&& other := by
  rw [UInt32.and_assoc, h]

theorem clear_bit_and_self (valid bit : UInt32) : valid &&& ~~~bit &&& bit = 0 := by
  rw [UInt32.and_assoc, UInt32.and_comm (~~~bit), UInt32.and_not_self, UInt32.and_zero]

namespace BlitterRegisterCache

/-- What the cache knows of the card at `registers`. -/
def known {β : Type} (cache : BlitterRegisterCache) (registers bit : UInt32) (slot : β) : Option β :=
  if cache.registers = registers ∧ cache.valid &&& bit ≠ 0 then some slot else none

@[simp]
theorem known_zero {β : Type} (registers bit : UInt32) (slot : β)
    : zero.known registers bit slot = none := by
  unfold known
  rw [if_neg]
  intro h
  exact h.2 (UInt32.zero_and)

@[simp]
theorem select_registers (cache : BlitterRegisterCache) (registers : UInt32)
    : (cache.select registers).registers = registers := by
  unfold select
  split
  . rfl
  next h => exact not_not.mp h

@[simp]
theorem known_select {β : Type} (cache : BlitterRegisterCache) (registers bit : UInt32) (slot : β)
    : (cache.select registers).known registers bit slot = cache.known registers bit slot := by
  unfold select
  split
  next h =>
    unfold known
    rw [if_neg fun hknown => hknown.2 UInt32.zero_and, if_neg fun hknown => h hknown.1]
  . rfl

theorem known_clear {β : Type} (cache : BlitterRegisterCache) (registers : UInt32)
    (bits : UInt32) {other : UInt32} (slot : β) (h : ~~~bits &&& other = other)
    : { cache.select registers with
          valid := (cache.select registers).valid &&& ~~~bits }.known registers other slot
        = cache.known registers other slot := by
  rw [← known_select cache]
  unfold known
  dsimp only
  rw [clear_bit_and_other h]

theorem known_invalidate (cache : BlitterRegisterCache) (registers bit : UInt32) {β : Type}
    (slot : β)
    : (cache.invalidate registers bit).known registers bit slot = none := by
  unfold invalidate known
  dsimp only
  rw [if_neg]
  intro h
  exact h.2 (clear_bit_and_self _ bit)

@[simp]
theorem select_slots (cache : BlitterRegisterCache) (registers : UInt32)
    : (cache.select registers).user1 = cache.user1 ∧ (cache.select registers).user2 = cache.user2
        ∧ (cache.select registers).rgb2 = cache.rgb2 := by
  unfold select
  split <;> exact ⟨rfl, rfl, rfl⟩

section

variable {β γ : Type} [DecidableEq β]

theorem writeNeeded_known (registers bit : UInt32) (slot : BlitterRegisterCache → β)
    (setSlot : BlitterRegisterCache → β → BlitterRegisterCache) (cache : BlitterRegisterCache) (value : β) (hbit : bit ≠ 0)
    (hselect : ∀ c valid, slot { c with registers := registers, valid := valid } = slot c)
    (hvalid : ∀ c valid, slot { setSlot c value with valid := valid } = value)
    (hregisters : ∀ c, (setSlot c value).registers = c.registers)
    : let r := cache.writeNeeded registers bit slot setSlot value
      (r.2 = false → cache.known registers bit (slot cache) = some value)
        ∧ r.1.known registers bit (slot r.1) = some value := by
  unfold writeNeeded
  dsimp only
  split
  next hneeded =>
    refine ⟨fun h => Bool.noConfusion h, ?_⟩
    unfold known
    rw [if_pos, hvalid]
    refine ⟨(hregisters _).trans (select_registers cache registers), ?_⟩
    rw [UInt32.or_and_distrib, UInt32.and_self]
    intro hzero
    exact hbit (UInt32.or_eq_zero_iff.mp hzero).2
  next hneeded =>
    rw [not_or, not_not] at hneeded
    have hslot : slot (cache.select registers) = slot cache := by
      unfold select
      split
      . exact hselect cache 0
      . rfl
    have hknown : (cache.select registers).known registers bit (slot (cache.select registers))
        = some value := by
      unfold known
      rw [if_pos ⟨select_registers cache registers, hneeded.1⟩, hneeded.2]
    refine ⟨fun _ => ?_, hknown⟩
    rw [known_select, hslot] at hknown
    exact hknown

/-- The other slots stay as they are. -/
theorem writeNeeded_known_other {registers bit other : UInt32} {slot : BlitterRegisterCache → β}
    {setSlot : BlitterRegisterCache → β → BlitterRegisterCache} (slot' : BlitterRegisterCache → γ)
    (cache : BlitterRegisterCache) (value : β) (hbits : bit &&& other = 0)
    (hselect : ∀ c valid, slot' { c with registers := registers, valid := valid } = slot' c)
    (hvalid : ∀ c valid, slot' { setSlot c value with valid := valid } = slot' c)
    (hset : ∀ c, (setSlot c value).registers = c.registers ∧ (setSlot c value).valid = c.valid)
    : let r := cache.writeNeeded registers bit slot setSlot value
      r.1.known registers other (slot' r.1) = cache.known registers other (slot' cache) := by
  have hslot : slot' (cache.select registers) = slot' cache := by
    unfold select
    split
    . exact hselect cache 0
    . rfl
  unfold writeNeeded
  dsimp only
  split
  . rw [← known_select cache, hvalid, hslot]
    unfold known
    dsimp only
    rw [(hset _).1, (hset _).2, or_bit_and_other hbits]
  . rw [known_select, hslot]

end

end BlitterRegisterCache

namespace DriverCaches

def known16 (c : DriverCaches) (registers : UInt32) : Shadow Reg16 UInt16 := fun i =>
  match i with
  | .operand o => some (c.old16 o)
  | .user1 =>
    c.registerCache.known registers BlitterRegisterCache.user1Bit c.registerCache.user1
  | .user2 =>
    c.registerCache.known registers BlitterRegisterCache.user2Bit c.registerCache.user2

def known32 (c : DriverCaches) (registers : UInt32) : Shadow Reg32 UInt32 := fun i =>
  match i with
  | .operand o => some (c.old32 o)
  | .rgb2 => c.registerCache.known registers BlitterRegisterCache.rgb2Bit c.registerCache.rgb2

/-- What the driver remembers holds of the card. -/
structure Knows (c : DriverCaches) (registers : UInt32) (card : Card) : Prop where
  word : (c.known16 registers).Agrees cells16 card
  long : (c.known32 registers).Agrees cells32 card

variable {c c' : DriverCaches} {registers : UInt32} {card card' : Card}

theorem Knows.congr (h : c.Knows registers card)
    (hword : ∀ i, c'.known16 registers i = c.known16 registers i)
    (hlong : ∀ i, c'.known32 registers i = c.known32 registers i)
    : c'.Knows registers card where
  word := h.word.mono fun i _ hknown => (hword i) ▸ hknown
  long := h.long.mono fun i _ hknown => (hlong i) ▸ hknown

/-- `blitter_cache_reset` forgets what it knows. -/
theorem Knows.reset (h : c.Knows registers card)
    : { c with registerCache := .zero }.Knows registers card where
  word := by
    refine h.word.mono ?_
    intro i value hknown
    cases i with
    | operand o => exact hknown
    | _ =>
      rw [known16, BlitterRegisterCache.known_zero] at hknown
      contradiction
  long := by
    refine h.long.mono ?_
    intro i value hknown
    cases i with
    | operand o => exact hknown
    | rgb2 =>
      rw [known32, BlitterRegisterCache.known_zero] at hknown
      contradiction

theorem Fits.knows (h : c.Fits card) : { c with registerCache := .zero }.Knows registers card where
  word := by
    intro i value hknown
    cases i with
    | operand o => exact (h.word o).trans (Option.some.inj hknown)
    | _ =>
      rw [known16, BlitterRegisterCache.known_zero] at hknown
      contradiction
  long := by
    intro i value hknown
    cases i with
    | operand o =>
      rw [← Option.some.inj hknown, ← ofHalves_word32 (c.old32 o), ← (h.long o).1, ← (h.long o).2]
      rfl
    | rgb2 =>
      rw [known32, BlitterRegisterCache.known_zero] at hknown
      contradiction

/-- A register that no cache remembers is free. -/
theorem Knows.store_other (h : c.Knows registers card) {store : WordStore}
    (hword : ∀ i : Reg16, i.reg ≠ store.1)
    (hlong : ∀ i : Reg32, i.reg ≠ store.1 ∧ i.reg + 2 ≠ store.1)
    : c.Knows registers (card.store store) where
  word := by
    apply h.word.congr
    intro i
    exact Function.update_of_ne (hword i) store.2 card
  long := by
    apply h.long.congr
    intro i
    show (card.store store).read32 i.reg = card.read32 i.reg
    unfold Card.read32 Card.store
    rw [Function.update_of_ne (hlong i).1, Function.update_of_ne (hlong i).2]

theorem Knows.learn16 (h : c.Knows registers card) {i : Reg16} {value : UInt16}
    (hself : c'.known16 registers i = some value)
    (hword : ∀ j, j ≠ i → c'.known16 registers j = c.known16 registers j)
    (hlong : ∀ j, c'.known32 registers j = c.known32 registers j)
    : c'.Knows registers (card.store (i.reg, value)) where
  word := by
    refine (h.word.learn i value).mono ?_
    intro j w hknown
    unfold Shadow.learn
    by_cases heq : j = i
    . subst heq
      rw [Function.update_self, ← hself, hknown]
    . rw [Function.update_of_ne heq, ← hword j heq, hknown]
  long := by
    refine (h.long.congr ?_).mono fun j w hknown => (hlong j) ▸ hknown
    intro j
    show (card.store (i.reg, value)).read32 j.reg = card.read32 j.reg
    unfold Card.read32 Card.store
    rw [Function.update_of_ne (i.reg_ne_reg32 j).1.symm,
      Function.update_of_ne (i.reg_ne_reg32 j).2.symm]

theorem Knows.learn32 (h : c.Knows registers card) {i : Reg32} {value : UInt32}
    (hself : c'.known32 registers i = some value)
    (hlong : ∀ j, j ≠ i → c'.known32 registers j = c.known32 registers j)
    (hword : ∀ j, c'.known16 registers j = c.known16 registers j)
    : c'.Knows registers (card.storeAll (word32 i.reg value)) where
  long := by
    refine (h.long.learn i value).mono ?_
    intro j w hknown
    unfold Shadow.learn
    by_cases heq : j = i
    . subst heq
      rw [Function.update_self, ← hself, hknown]
    . rw [Function.update_of_ne heq, ← hlong j heq, hknown]
  word := by
    refine (h.word.congr ?_).mono fun j w hknown => (hword j) ▸ hknown
    intro j
    show card.storeAll (word32 i.reg value) j.reg = card j.reg
    rw [Card.storeAll_word32, Function.update_of_ne (j.reg_ne_reg32 i).2,
      Function.update_of_ne (j.reg_ne_reg32 i).1]

theorem Knows.store_eq16 (h : c.Knows registers card) {i : Reg16} {value : UInt16}
    (hknown : c.known16 registers i = some value)
    : card.store (i.reg, value) = card := by
  have hread : card i.reg = value := h.word i value hknown
  unfold Card.store
  rw [← hread]
  exact Function.update_eq_self i.reg card

theorem Knows.store_eq32 (h : c.Knows registers card) {i : Reg32} {value : UInt32}
    (hknown : c.known32 registers i = some value)
    : card.storeAll (word32 i.reg value) = card := by
  have hread : card.read32 i.reg = value := h.long i value hknown
  rw [← hread]
  exact cells32.write_read card i

end DriverCaches

/-- The registers that a cache remembers. -/
def cachedRegs : List Nat :=
  Reg16.all.map Reg16.reg ++ Reg32.all.flatMap fun i => [i.reg, i.reg + 2]

theorem not_mem_cachedRegs (reg : Nat) (h : reg ∉ cachedRegs)
    : (∀ i : Reg16, i.reg ≠ reg) ∧ ∀ i : Reg32, i.reg ≠ reg ∧ i.reg + 2 ≠ reg := by
  unfold cachedRegs at h
  rw [List.mem_append, not_or, List.mem_map, List.mem_flatMap] at h
  refine ⟨fun i heq => h.1 ⟨i, i.mem_all, heq⟩, fun i => ⟨?_, ?_⟩⟩
  . intro heq
    exact h.2 ⟨i, i.mem_all, by simp [heq]⟩
  . intro heq
    exact h.2 ⟨i, i.mem_all, by simp [heq]⟩

/-- A plain store does not go to a register that a cache remembers. -/
def DriverOp.keepsOut (op : DriverOp) : Bool :=
  match op with
  | zzwrite16 reg _ => reg ∉ cachedRegs
  | zzwrite32 reg _ => reg ∉ cachedRegs ∧ reg + 2 ∉ cachedRegs
  | _ => true

/-- What holds of one write, with and without the caches. -/
structure DriverOp.Spec (registers : UInt32) (op : DriverOp) (c : DriverCaches) (card : Card)
    : Prop where
  left : (op.needed registers c).2 = false → card.storeAll op.stores = card
  knows : (op.needed registers c).1.Knows registers (card.storeAll op.stores)

namespace DriverOp

variable {c : DriverCaches} {registers : UInt32} {card : Card}

theorem spec_writeBlitter16 (h : c.Knows registers card) (operand : Operand16) (value : UInt16)
    : (writeBlitter16 operand value).Spec registers c card := by
  have hstores : card.storeAll (writeBlitter16 operand value).stores
      = card.store ((Reg16.operand operand).reg, value) := rfl
  by_cases heq : value = c.old16 operand
  . have hneeded : (writeBlitter16 operand value).needed registers c = (c, false) := by
      unfold needed
      exact if_neg (not_not.mpr heq)
    have hcard := h.store_eq16 (i := .operand operand) (congrArg some heq.symm)
    constructor
    . intro _
      rw [hstores, hcard]
    . rw [hstores, hcard, hneeded]
      exact h
  . have hneeded : (writeBlitter16 operand value).needed registers c
        = ({ c with old16 := Function.update c.old16 operand value }, true) := by
      unfold needed
      exact if_pos heq
    constructor
    . intro hfalse
      rw [hneeded] at hfalse
      contradiction
    . rw [hstores, hneeded]
      apply h.learn16
      . exact congrArg some (Function.update_self operand value c.old16)
      . intro j hj
        cases j with
        | operand o =>
          have : o ≠ operand := fun heq => hj (congrArg Reg16.operand heq)
          exact congrArg some (Function.update_of_ne this value c.old16)
        | _ => rfl
      . intro j
        cases j <;> rfl

theorem spec_writeBlitter32 (h : c.Knows registers card) (operand : Operand32) (value : UInt32)
    : (writeBlitter32 operand value).Spec registers c card := by
  have hstores : card.storeAll (writeBlitter32 operand value).stores
      = card.storeAll (word32 (Reg32.operand operand).reg value) := rfl
  by_cases heq : value = c.old32 operand
  . have hneeded : (writeBlitter32 operand value).needed registers c = (c, false) := by
      unfold needed
      exact if_neg (not_not.mpr heq)
    have hcard := h.store_eq32 (i := .operand operand) (congrArg some heq.symm)
    constructor
    . intro _
      rw [hstores, hcard]
    . rw [hstores, hcard, hneeded]
      exact h
  . have hneeded : (writeBlitter32 operand value).needed registers c
        = ({ c with old32 := Function.update c.old32 operand value }, true) := by
      unfold needed
      exact if_pos heq
    constructor
    . intro hfalse
      rw [hneeded] at hfalse
      contradiction
    . rw [hstores, hneeded]
      apply h.learn32
      . exact congrArg some (Function.update_self operand value c.old32)
      . intro j hj
        cases j with
        | operand o =>
          have : o ≠ operand := fun heq => hj (congrArg Reg32.operand heq)
          exact congrArg some (Function.update_of_ne this value c.old32)
        | rgb2 => rfl
      . intro j
        cases j <;> rfl

open BlitterRegisterCache in
theorem spec_writeBlitterUser1 (h : c.Knows registers card) (value : UInt16)
    : (writeBlitterUser1 value).Spec registers c card := by
  have hknown := writeNeeded_known registers user1Bit (·.user1) (fun c v => { c with user1 := v })
    c.registerCache value (by decide)
    (fun _ _ => rfl) (fun _ _ => rfl) (fun _ => rfl)
  constructor
  . intro hfalse
    exact h.store_eq16 (i := .user1) (hknown.1 hfalse)
  . refine h.learn16 (i := .user1) hknown.2 ?_ ?_
    . intro j hj
      cases j with
      | operand o => rfl
      | user1 => contradiction
      | user2 =>
        exact writeNeeded_known_other (·.user2) c.registerCache value (by decide)
          (fun _ _ => rfl) (fun _ _ => rfl) (fun _ => ⟨rfl, rfl⟩)
    . intro j
      cases j with
      | operand o => rfl
      | rgb2 =>
        exact writeNeeded_known_other (·.rgb2) c.registerCache value (by decide)
          (fun _ _ => rfl) (fun _ _ => rfl) (fun _ => ⟨rfl, rfl⟩)

open BlitterRegisterCache in
theorem spec_writeBlitterUser2 (h : c.Knows registers card) (value : UInt16)
    : (writeBlitterUser2 value).Spec registers c card := by
  have hknown := writeNeeded_known registers user2Bit (·.user2) (fun c v => { c with user2 := v })
    c.registerCache value (by decide)
    (fun _ _ => rfl) (fun _ _ => rfl) (fun _ => rfl)
  constructor
  . intro hfalse
    exact h.store_eq16 (i := .user2) (hknown.1 hfalse)
  . refine h.learn16 (i := .user2) hknown.2 ?_ ?_
    . intro j hj
      cases j with
      | operand o => rfl
      | user1 =>
        exact writeNeeded_known_other (·.user1) c.registerCache value (by decide)
          (fun _ _ => rfl) (fun _ _ => rfl) (fun _ => ⟨rfl, rfl⟩)
      | user2 => contradiction
    . intro j
      cases j with
      | operand o => rfl
      | rgb2 =>
        exact writeNeeded_known_other (·.rgb2) c.registerCache value (by decide)
          (fun _ _ => rfl) (fun _ _ => rfl) (fun _ => ⟨rfl, rfl⟩)

open BlitterRegisterCache in
theorem spec_writeBlitterRGB2 (h : c.Knows registers card) (color : UInt32)
    : (writeBlitterRGB2 color).Spec registers c card := by
  have hknown := writeNeeded_known registers rgb2Bit (·.rgb2) (fun c v => { c with rgb2 := v })
    c.registerCache color (by decide)
    (fun _ _ => rfl) (fun _ _ => rfl) (fun _ => rfl)
  constructor
  . intro hfalse
    exact h.store_eq32 (i := .rgb2) (hknown.1 hfalse)
  . refine h.learn32 (i := .rgb2) hknown.2 ?_ ?_
    . intro j hj
      cases j with
      | operand o => rfl
      | rgb2 => contradiction
    . intro j
      cases j with
      | operand o => rfl
      | user1 =>
        exact writeNeeded_known_other (·.user1) c.registerCache color (by decide)
          (fun _ _ => rfl) (fun _ _ => rfl) (fun _ => ⟨rfl, rfl⟩)
      | user2 =>
        exact writeNeeded_known_other (·.user2) c.registerCache color (by decide)
          (fun _ _ => rfl) (fun _ _ => rfl) (fun _ => ⟨rfl, rfl⟩)

open BlitterRegisterCache in
/-- The source pitch is never left out, and takes no other slot along. -/
theorem spec_writeBlitterSrcPitch (h : c.Knows registers card) (srcpitch : UInt16)
    : (writeBlitterSrcPitch srcpitch).Spec registers c card where
  left := fun hfalse => Bool.noConfusion hfalse
  knows := by
    have hcard : (c.Knows registers (card.store (Regs.blitterSrcPitch, srcpitch))) := by
      obtain ⟨hword, hlong⟩ := not_mem_cachedRegs Regs.blitterSrcPitch (by decide)
      exact h.store_other hword hlong
    refine hcard.congr ?_ ?_
    . intro i
      cases i with
      | operand o => rfl
      | user1 =>
        show _ = c.registerCache.known registers user1Bit c.registerCache.user1
        rw [← known_clear c.registerCache registers srcPitchBit _ (by decide)]
        rw [← (select_slots c.registerCache registers).1]
        rfl
      | user2 =>
        show _ = c.registerCache.known registers user2Bit c.registerCache.user2
        rw [← known_clear c.registerCache registers srcPitchBit _ (by decide)]
        rw [← (select_slots c.registerCache registers).2.1]
        rfl
    . intro i
      cases i with
      | operand o => rfl
      | rgb2 =>
        show _ = c.registerCache.known registers rgb2Bit c.registerCache.rgb2
        rw [← known_clear c.registerCache registers srcPitchBit _ (by decide)]
        rw [← (select_slots c.registerCache registers).2.2]
        rfl

open BlitterRegisterCache in
/-- After a feature command nothing is known of the register that selected it. -/
theorem spec_selectCardFeature (h : c.Knows registers card) (feature : UInt16)
    : (selectCardFeature feature).Spec registers c card where
  left := fun hfalse => Bool.noConfusion hfalse
  knows := by
    have hrest : ∀ j : Reg16, j ≠ .user1 →
        (card.store (Regs.blitterUser1, feature)) j.reg = card j.reg := by
      intro j hj
      exact card.store_of_ne (Reg16.reg_ne .user1 j hj)
    have hlong : ∀ j : Reg32,
        (card.store (Regs.blitterUser1, feature)).read32 j.reg = card.read32 j.reg := by
      intro j
      have hne := Reg16.reg_ne_reg32 .user1 j
      unfold Card.read32
      rw [card.store_of_ne hne.1.symm, card.store_of_ne hne.2.symm]
    constructor
    . refine (h.word.forget hrest).mono ?_
      intro j w hknown
      unfold Shadow.forget
      cases j with
      | operand o =>
        rw [Function.update_of_ne Reg16.noConfusion]
        exact hknown
      | user1 =>
        have hnone : ((selectCardFeature feature).needed registers c).1.known16 registers .user1
            = none := known_invalidate c.registerCache registers user1Bit _
        rw [hnone] at hknown
        contradiction
      | user2 =>
        rw [Function.update_of_ne (by decide), ← hknown]
        show c.registerCache.known registers user2Bit c.registerCache.user2 = _
        rw [← known_clear c.registerCache registers user1Bit _ (by decide)]
        rw [← (select_slots c.registerCache registers).2.1]
        rfl
    . refine (h.long.congr hlong).mono ?_
      intro j w hknown
      cases j with
      | operand o => exact hknown
      | rgb2 =>
        rw [← hknown]
        show c.registerCache.known registers rgb2Bit c.registerCache.rgb2 = _
        rw [← known_clear c.registerCache registers user1Bit _ (by decide)]
        rw [← (select_slots c.registerCache registers).2.2]
        rfl

theorem spec (h : c.Knows registers card) (op : DriverOp) (hop : op.keepsOut)
    : op.Spec registers c card := by
  cases op with
  | zzwrite16 reg value =>
    refine ⟨fun hfalse => Bool.noConfusion hfalse, ?_⟩
    obtain ⟨hword, hlong⟩ := not_mem_cachedRegs _ (of_decide_eq_true hop)
    exact h.store_other hword hlong
  | zzwrite32 reg value =>
    refine ⟨fun hfalse => Bool.noConfusion hfalse, ?_⟩
    obtain ⟨hhigh, hlow⟩ := of_decide_eq_true hop
    obtain ⟨hword, hlong⟩ := not_mem_cachedRegs _ hhigh
    obtain ⟨hword', hlong'⟩ := not_mem_cachedRegs _ hlow
    exact (h.store_other hword hlong).store_other hword' hlong'
  | writeBlitter16 operand value => exact spec_writeBlitter16 h operand value
  | writeBlitter32 operand value => exact spec_writeBlitter32 h operand value
  | writeBlitterSrcPitch srcpitch => exact spec_writeBlitterSrcPitch h srcpitch
  | writeBlitterRGB2 color => exact spec_writeBlitterRGB2 h color
  | writeBlitterUser1 value => exact spec_writeBlitterUser1 h value
  | writeBlitterUser2 value => exact spec_writeBlitterUser2 h value
  | selectCardFeature feature => exact spec_selectCardFeature h feature
  | writeGfxData field value => exact ⟨fun _ => rfl, h⟩
  | stage offset bytes => exact ⟨fun _ => rfl, h⟩

/-- What is left out triggers no operation. -/
theorem not_mem_triggerRegs {op : DriverOp} (h : (op.needed registers c).2 = false)
    : ∀ store ∈ op.stores, store.1 ∉ triggerRegs := by
  have hword : ∀ i ∈ Reg16.all, i.reg ∉ triggerRegs := by decide
  have hlong : ∀ i ∈ Reg32.all, i.reg ∉ triggerRegs ∧ i.reg + 2 ∉ triggerRegs := by decide
  have hpair : ∀ (i : Reg32) (value : UInt32), ∀ store ∈ word32 i.reg value,
      store.1 ∉ triggerRegs := by
    intro i value store hmem
    rw [word32, List.mem_cons, List.mem_singleton] at hmem
    rcases hmem with rfl | rfl
    . exact (hlong i i.mem_all).1
    . exact (hlong i i.mem_all).2
  cases op with
  | writeBlitter16 operand value =>
    intro store hmem
    rw [List.mem_singleton.mp hmem]
    exact hword (.operand operand) (Reg16.mem_all _)
  | writeBlitter32 operand value => exact hpair (.operand operand) value
  | writeBlitterRGB2 color => exact hpair .rgb2 color
  | writeBlitterUser1 value =>
    intro store hmem
    rw [List.mem_singleton.mp hmem]
    exact hword .user1 (Reg16.mem_all _)
  | writeBlitterUser2 value =>
    intro store hmem
    rw [List.mem_singleton.mp hmem]
    exact hword .user2 (Reg16.mem_all _)
  | _ => exact Bool.noConfusion h

end DriverOp

namespace CachedCard

variable {c : DriverCaches} {registers : UInt32} {card : Card}

variable (registers) in
/-- The stores that are left have the effect of all of them. -/
theorem reduce_spec (h : c.Knows registers card) {ops : List DriverOp}
    (hops : ops.all DriverOp.keepsOut)
    : let r := reduce registers ops c
      let stores := ops.flatMap DriverOp.stores
      card.storeAll r.2 = card.storeAll stores
        ∧ card.triggers r.2 = card.triggers stores
        ∧ r.1.Knows registers (card.storeAll stores) := by
  induction ops generalizing c card with
  | nil => exact ⟨rfl, rfl, h⟩
  | cons op ops ih =>
    rw [List.all_cons, Bool.and_eq_true] at hops
    have hspec := DriverOp.spec h op hops.1
    obtain ⟨hcard, htriggers, hknows⟩ := ih hspec.knows hops.2
    unfold reduce
    dsimp only
    rw [List.flatMap_cons]
    cases hneeded : (op.needed registers c).2 with
    | true =>
      rw [if_pos rfl, Card.storeAll_append, Card.triggers_append, hcard, htriggers]
      rw [Card.storeAll_append, Card.triggers_append]
      exact ⟨rfl, rfl, hknows⟩
    | false =>
      have hleft := hspec.left hneeded
      rw [if_neg (by decide), List.nil_append, Card.storeAll_append, Card.triggers_append]
      rw [Card.triggers_of_not_mem card (DriverOp.not_mem_triggerRegs hneeded), List.nil_append]
      rw [hleft] at hcard htriggers hknows ⊢
      exact ⟨hcard, htriggers, hknows⟩

/-- Writes that no cache ever leaves out, and that leave the variables of the helpers alone. -/
def isSetup (op : DriverOp) : Bool :=
  match op with
  | zzwrite16 _ _ => true
  | selectCardFeature _ => true
  | _ => false

variable (registers) in
theorem reduce_setup {ops : List DriverOp} (h : ops.all isSetup) (c : DriverCaches)
    : (reduce registers ops c).2 = ops.flatMap DriverOp.stores
        ∧ (reduce registers ops c).1.old16 = c.old16
        ∧ (reduce registers ops c).1.old32 = c.old32 := by
  induction ops generalizing c with
  | nil => exact ⟨rfl, rfl, rfl⟩
  | cons op ops ih =>
    rw [List.all_cons, Bool.and_eq_true] at h
    obtain ⟨hstores, hword, hlong⟩ := ih h.2 (op.needed registers c).1
    unfold reduce
    dsimp only
    rw [hstores, hword, hlong, List.flatMap_cons]
    cases op with
    | zzwrite16 => exact ⟨rfl, rfl, rfl⟩
    | selectCardFeature => exact ⟨rfl, rfl, rfl⟩
    | _ => exact Bool.noConfusion h.1

end CachedCard

theorem stagePlanes_keepsOut (lineSize : UInt16) (h : Int16) (planes : List UInt32)
    (curPlane : UInt8) (templateAddr : UInt32) (zzMask : UInt16)
    : (stagePlanes lineSize h planes curPlane templateAddr zzMask).2.all DriverOp.keepsOut := by
  induction planes generalizing curPlane templateAddr zzMask with
  | nil => rfl
  | cons plane planes ih =>
    unfold stagePlanes
    dsimp only
    split
    . rw [List.all_cons, ih]
      rfl
    . split
      . rw [List.all_append, ih, Bool.and_true, List.all_map]
        exact List.all_eq_true.mpr fun _ _ => rfl
      . exact ih _ _ _

theorem customStageAndCommit_keepsOut (mode : CustomMode) (colormode : UInt8)
    : (customStageAndCommit mode colormode).all DriverOp.keepsOut := rfl

theorem setGC_keepsOut (planner : Planner) (s : ModeState) (modeInfo : Option ModePtr)
    (border : Bool) (status : UInt16)
    : (s.setGC planner modeInfo border status).2.all DriverOp.keepsOut := by
  unfold ModeState.setGC
  dsimp only
  split
  . rfl
  . split <;> exact customStageAndCommit_keepsOut _ _
  . rfl

theorem setSwitch_keepsOut (planner : Planner) (s : ModeState) (enabled status : UInt16)
    : (s.setSwitch planner enabled status).2.2.all DriverOp.keepsOut := by
  unfold ModeState.setSwitch
  dsimp only
  split
  . rfl
  . split
    . rfl
    . split
      . rfl
      . rw [List.all_append, setGC_keepsOut]
        rfl

theorem setColorArray_keepsOut (b : BoardInfo) (start num : UInt16)
    : (setColorArray b start num).all DriverOp.keepsOut := by
  unfold setColorArray
  split
  . rfl
  . dsimp only
    rw [List.all_append, List.all_flatMap, Bool.and_eq_true]
    constructor
    . split <;> rfl
    . exact List.all_eq_true.mpr fun _ _ => rfl

theorem drawLine_keepsOut (b : BoardInfo) (r : Option RenderInfo) (l : Option Line) (mask : UInt8)
    (format : UInt32) : (drawLine b r l mask format).all DriverOp.keepsOut := by
  unfold drawLine
  dsimp only
  split
  . split
    . rfl
    . split
      . rfl
      . split <;> rfl
  . rfl

theorem HookCall.ops_keepsOut (call : HookCall) : call.ops.all DriverOp.keepsOut := by
  cases call with
  | setGC planner s modeInfo border status => exact setGC_keepsOut planner s modeInfo border status
  | setSwitch planner s enabled status => exact setSwitch_keepsOut planner s enabled status
  | setPanning =>
    unfold ops BoardInfo.setPanning
    dsimp only
    split
    . rfl
    . split <;> rfl
  | setColorArray b start num => exact setColorArray_keepsOut b start num
  | drawLine b r l mask format => exact drawLine_keepsOut b r l mask format
  | setDPMSLevel =>
    unfold ops ZZRtg.setDPMSLevel
    dsimp only
    split <;> rfl
  | fillRect =>
    unfold ops ZZRtg.fillRect fillRectAccel
    dsimp only
    split
    . rfl
    . split
      . rfl
      . split <;> rfl
  | invertRect =>
    unfold ops ZZRtg.invertRect
    dsimp only
    split
    . rfl
    . split <;> rfl
  | blitRect =>
    unfold ops ZZRtg.blitRect
    dsimp only
    split
    . rfl
    . split <;> rfl
  | blitRectNoMaskComplete =>
    unfold ops ZZRtg.blitRectNoMaskComplete
    dsimp only
    split
    . split <;> rfl
    . rfl
  | blitTemplate =>
    unfold ops ZZRtg.blitTemplate
    dsimp only
    split
    . split
      . rfl
      . split <;> rfl
    . rfl
  | blitPattern =>
    unfold ops ZZRtg.blitPattern
    dsimp only
    split
    . split
      . rfl
      . split <;> rfl
    . rfl
  | blitPlanar2Chunky =>
    unfold ops ZZRtg.blitPlanar2Chunky
    dsimp only
    split
    . split
      . rfl
      . split
        . rfl
        . rw [List.all_append, List.all_append, stagePlanes_keepsOut]
          rfl
    . rfl
  | blitPlanar2Direct =>
    unfold ops ZZRtg.blitPlanar2Direct
    dsimp only
    split
    . split
      . rfl
      . split
        . rfl
        . rw [List.all_append, List.all_append, stagePlanes_keepsOut]
          rfl
    . rfl
  | setSprite =>
    unfold ops ZZRtg.setSprite
    dsimp only
    split
    . rfl
    . split <;> rfl
  | setSpritePosition =>
    unfold ops ZZRtg.setSpritePosition
    dsimp only
    split <;> rfl
  | setSpriteImage =>
    unfold ops ZZRtg.setSpriteImage
    dsimp only
    split <;> rfl
  | setSpriteColor => rfl
  | setSplitPosition b pos =>
    unfold ops ZZRtg.setSplitPosition
    dsimp only
    split
    . rfl
    . split
      . rfl
      . split <;> rfl
  | createFeature opened | setFeatureAttrs opened | deleteFeature opened =>
    unfold ops
    dsimp only
    split <;> rfl

theorem applyCardSettings_setup (vcapMode nsvsync : UInt16)
    : (applyCardSettings vcapMode nsvsync).all CachedCard.isSetup
        ∧ (applyCardSettings vcapMode nsvsync).all DriverOp.keepsOut := by
  unfold applyCardSettings
  split <;> exact ⟨rfl, rfl⟩

theorem findCard_setup (queries : List UInt16) (vcapMode nsvsync : UInt16) (ack : Option UInt16)
    : (findCard queries vcapMode nsvsync ack).all CachedCard.isSetup
        ∧ (findCard queries vcapMode nsvsync ack).all DriverOp.keepsOut := by
  obtain ⟨hsetup, hout⟩ := applyCardSettings_setup vcapMode nsvsync
  unfold findCard
  simp only [List.all_append, List.all_map, hsetup, hout, Bool.and_true, Bool.and_eq_true]
  refine ⟨⟨?_, ?_⟩, ?_, ?_⟩ <;> exact List.all_eq_true.mpr fun _ _ => rfl

namespace CachedCard

variable {registers : UInt32}

/-- One call has the same effect with and without the caches. -/
theorem step_spec {s : CachedCard} {call : CardCall} (h : s.caches.Knows registers s.card)
    (hfits : s.FitsAlong registers [call])
    : (s.step registers call).2 = (s.card.step call).2
        ∧ (s.step registers call).1.card = (s.card.step call).1
        ∧ (s.step registers call).1.caches.Knows registers (s.card.step call).1 := by
  cases call with
  | hook call =>
    obtain ⟨hcard, htriggers, hknows⟩ := reduce_spec _ h call.ops_keepsOut
    exact ⟨htriggers, hcard, hknows⟩
  | reinit content queries vcapMode nsvsync ack toolVcapMode toolNsvsync =>
    obtain ⟨hsetup, hout⟩ := findCard_setup queries vcapMode nsvsync ack
    obtain ⟨hsetup', hout'⟩ := applyCardSettings_setup toolVcapMode toolNsvsync
    unfold step run Card.step
    dsimp only
    generalize hops : findCard queries vcapMode nsvsync ack
      ++ applyCardSettings toolVcapMode toolNsvsync = ops
    have hsetup : ops.all isSetup := by
      rw [← hops, List.all_append, hsetup, hsetup']
      rfl
    have hout : ops.all DriverOp.keepsOut := by
      rw [← hops, List.all_append, hout, hout']
      rfl
    have hfits : s.caches.Fits content := hfits.1
    obtain ⟨_, _, hknows⟩ := reduce_spec registers hfits.knows hout
    obtain ⟨_, hword', hlong'⟩ :=
      reduce_setup registers hsetup { s.caches with registerCache := .zero }
    obtain ⟨hstores, hword, hlong⟩ := reduce_setup registers hsetup s.caches
    rw [hstores]
    refine ⟨rfl, rfl, ?_⟩
    have hreset := hknows.reset
    rw [hword', hlong', ← hword, ← hlong] at hreset
    exact hreset

theorem triggers_of_knows {s : CachedCard} {calls : List CardCall}
    (h : s.caches.Knows registers s.card) (hfits : s.FitsAlong registers calls)
    : s.triggers registers calls = s.card.runTriggers calls := by
  induction calls generalizing s with
  | nil => rfl
  | cons call calls ih =>
    obtain ⟨htriggers, hcard, hknows⟩ := step_spec h ⟨hfits.1, trivial⟩
    unfold triggers Card.runTriggers
    dsimp only
    rw [← hcard] at hknows
    rw [htriggers, ih hknows hfits.2, hcard]

/--
Each operation sees the operands that it would see without any cache, if the variables of the
helpers fit the registers of the card when the driver is loaded and whenever the card comes up
again.
-/
theorem triggers_eq_runTriggers (registers : UInt32) (card : Card) (calls : List CardCall)
    (hload : DriverCaches.load.Fits card)
    (hreinit : FitsAlong registers ⟨card, .load⟩ calls)
    : triggers registers ⟨card, .load⟩ calls = card.runTriggers calls :=
  triggers_of_knows hload.knows hreinit

/-- What a call that triggers one operation says about the operands of the card. -/
theorem operands_of_triggers {registers : UInt32} {card : Card} {call : HookCall}
    (left plain : List WordStore) (store : WordStore) (hstore : store.1 ∈ triggerRegs)
    (hcached : (reduce registers call.ops .load).2 = left ++ [store])
    (hissued : call.ops.flatMap DriverOp.stores = plain ++ [store])
    (hfront : ∀ s ∈ left ++ plain, s.1 ∉ triggerRegs)
    (h : triggers registers ⟨card, .load⟩ [.hook call] = card.runTriggers [.hook call])
    : ∀ reg ∈ operandRegs, card.storeAll left reg = card.storeAll plain reg := by
  have hnone := Card.triggers_of_not_mem card fun s hs => hfront s (List.mem_append_left _ hs)
  have hnone' := Card.triggers_of_not_mem card fun s hs => hfront s (List.mem_append_right _ hs)
  unfold triggers Card.runTriggers step run Card.step at h
  dsimp only at h
  unfold triggers Card.runTriggers at h
  rw [hcached, hissued, Card.triggers_append, Card.triggers_append, hnone, hnone'] at h
  rw [Card.triggers_cons, Card.triggers_cons, if_pos hstore, if_pos hstore] at h
  exact List.map_inj_left.mp (Trigger.mk.inj (List.cons.inj h).1).2

/-- The condition is needed: on any other card some first call goes wrong. -/
theorem fits_of_triggers_eq {registers : UInt32} {card : Card}
    (h : ∀ call, triggers registers ⟨card, .load⟩ [.hook call] = card.runTriggers [.hook call])
    : DriverCaches.load.Fits card := by
  have hsprite := operands_of_triggers []
    [(Regs.blitterSrcHi, 0), (Regs.blitterSrcLo, 0), (Regs.blitterX1, 0), (Regs.blitterX2, 0),
     (Regs.blitterY1, 0), (Regs.blitterY2, 0)]
    (Regs.spriteBitmap, 0) (by decide) rfl rfl (by decide) (h (.setSpriteImage default))
  have hcopy := operands_of_triggers [(Regs.blitterY2, 1), (Regs.blitterX2, 1)]
    [(Regs.blitterY1, 0), (Regs.blitterY2, 1), (Regs.blitterY3, 0), (Regs.blitterX1, 0),
     (Regs.blitterX2, 1), (Regs.blitterX3, 0), (Regs.blitterRowPitch, 0),
     (Regs.blitterColormode, colorMode32bit), (Regs.blitterSrcHi, 0), (Regs.blitterSrcLo, 0),
     (Regs.blitterDstHi, 0), (Regs.blitterDstLo, 0)]
    (Regs.blitterOpCopyrect, 1) (by decide) rfl rfl (by decide)
    (h (.blitRect default (some ⟨0, 0, 9⟩) 0 0 0 0 1 1 0 9))
  have hfill := operands_of_triggers [(Regs.blitterX2, 64), (Regs.blitterY2, 64)]
    [(Regs.blitterDstHi, 0), (Regs.blitterDstLo, 0), (Regs.blitterRgbHi, 0),
     (Regs.blitterRgbLo, 0), (Regs.blitterRowPitch, 0), (Regs.blitterColormode, colorMode32bit),
     (Regs.blitterX1, 0), (Regs.blitterY1, 0), (Regs.blitterX2, 64), (Regs.blitterY2, 64)]
    (Regs.blitterOpFillrect, 255) (by decide) rfl rfl (by decide)
    (h (.fillRect default (some ⟨0, 0, 9⟩) 0 0 64 64 0 255 9))
  constructor
  . intro operand
    cases operand with
    | x1 => exact hsprite Regs.blitterX1 (by decide)
    | y1 => exact hsprite Regs.blitterY1 (by decide)
    | x2 => exact hsprite Regs.blitterX2 (by decide)
    | y2 => exact hsprite Regs.blitterY2 (by decide)
    | x3 => exact hcopy Regs.blitterX3 (by decide)
    | y3 => exact hcopy Regs.blitterY3 (by decide)
    | dstPitch => exact hcopy Regs.blitterRowPitch (by decide)
    | colorMode => exact hcopy Regs.blitterColormode (by decide)
  . intro operand
    cases operand with
    | srcOffset =>
      exact ⟨hsprite Regs.blitterSrcHi (by decide), hsprite Regs.blitterSrcLo (by decide)⟩
    | dstOffset =>
      exact ⟨hcopy Regs.blitterDstHi (by decide), hcopy Regs.blitterDstLo (by decide)⟩
    | rgb => exact ⟨hfill Regs.blitterRgbHi (by decide), hfill Regs.blitterRgbLo (by decide)⟩

/-- A card with the colormode that its driver expects. -/
def coldCard : Card := fun reg => if reg = Regs.blitterColormode then colorMode32bit else 0

/-- A black rectangle in the corner of a 32 bit screen. -/
def blackRect : CardCall := .hook (.fillRect default (some ⟨0, 2560, 9⟩) 0 0 64 64 0 0xff 9)

theorem coldCard_fits : DriverCaches.load.Fits coldCard where
  word := by
    intro operand
    cases operand <;> rfl
  long := by
    intro operand
    cases operand <;> exact ⟨rfl, rfl⟩

theorem triggers_eq_runTriggers_cold
    : triggers 0x200000 ⟨coldCard, .load⟩ [.reinit coldCard [1] 1 0 none 1 0, blackRect]
        = coldCard.runTriggers [.reinit coldCard [1] 1 0 none 1 0, blackRect] :=
  triggers_eq_runTriggers 0x200000 coldCard _ coldCard_fits ⟨coldCard_fits, trivial, trivial⟩

/-- A card that comes up with another first coordinate. -/
def warmCard : Card := fun reg => if reg = Regs.blitterX1 then 5 else coldCard reg

/-- The first zero is never written, and the rectangle goes elsewhere. -/
theorem triggers_ne_runTriggers
    : triggers 0x200000 ⟨warmCard, .load⟩ [blackRect] ≠ warmCard.runTriggers [blackRect] := by
  decide

end CachedCard

end ZZRtg
