import ZZ9000.Net.Requests

/-!
This module contains the conservation of the IORequests of the network device: every request that is
begun is completed once, unless it still waits for a frame.
-/

namespace ZZNet

open Concurrency
open Concurrency.Coroutine

variable {ι ε : Type}

namespace NetDevice

/-- `t` works on the request `i` and on no other. -/
structure Holds (t : NetTask) (i : ι) (s : NetDevice ι ε) : Prop where
  hand : s.hand i = some t
  alone : ∀ j, j ≠ i → s.hand j ≠ some t

def Idle (t : NetTask) (s : NetDevice ι ε) : Prop := ∀ i, s.hand i ≠ some t

/-- A section of `t` takes no request from another task and does not touch one. -/
structure Keeps (t : NetTask) (s s' : NetDevice ι ε) : Prop where
  hand : ∀ i u, u ≠ t → (s'.hand i = some u ↔ s.hand i = some u)
  request : ∀ i u, u ≠ t → s.hand i = some u → s'.request i = s.request i

/-- Only the request `i` is touched, and what is not about requests. -/
structure Touches (i : ι) (s s' : NetDevice ι ε) : Prop where
  readList : s'.readList = s.readList
  hand : s'.hand = s.hand
  begun : s'.begun = s.begun
  replied : s'.replied = s.replied
  returned : s'.returned = s.returned
  orphaned : s'.orphaned = s.orphaned
  others : ∀ j, j ≠ i → s'.request j = s.request j
  command : (s'.request i).command = (s.request i).command
  quick : (s.request i).quick = false → (s'.request i).quick = false

/-- What is not about requests has changed. -/
structure SameBooks (s s' : NetDevice ι ε) : Prop where
  request : s'.request = s.request
  readList : s'.readList = s.readList
  hand : s'.hand = s.hand
  begun : s'.begun = s.begun
  replied : s'.replied = s.replied
  returned : s'.returned = s.returned
  orphaned : s'.orphaned = s.orphaned

/-- One if a task works on the request. -/
def held (s : NetDevice ι ε) (i : ι) : Nat := if (s.hand i).isSome then 1 else 0

variable {s s' s'' : NetDevice ι ε} {t u : NetTask} {i : ι}

section Frames

theorem held_of_holds (h : s.Holds t i) : s.held i = 1 := by
  unfold held
  rw [h.hand]
  rfl

theorem Keeps.refl (t : NetTask) (s : NetDevice ι ε) : Keeps t s s where
  hand := fun _ _ _ => Iff.rfl
  request := fun _ _ _ _ => rfl

theorem Keeps.trans (h : Keeps t s s') (h' : Keeps t s' s'') : Keeps t s s'' where
  hand := fun i u hu => (h'.hand i u hu).trans (h.hand i u hu)
  request := by
    intro i u hu hand
    rw [h'.request i u hu ((h.hand i u hu).mpr hand)]
    exact h.request i u hu hand

theorem Holds.others (h : s.Holds t i) : ∀ u, u ≠ t → s.hand i ≠ some u := by
  intro u hu heq
  rw [h.hand, Option.some.injEq] at heq
  exact hu heq.symm

/-- What a task holds, it holds after the sections of the others. -/
theorem Holds.keeps (h : s.Holds t i) (hkeeps : Keeps u s s') (hne : t ≠ u) : s'.Holds t i where
  hand := (hkeeps.hand i t hne).mpr h.hand
  alone := fun j hj hand => h.alone j hj ((hkeeps.hand j t hne).mp hand)

theorem Idle.keeps (h : s.Idle t) (hkeeps : Keeps u s s') (hne : t ≠ u) : s'.Idle t :=
  fun i hand => h i ((hkeeps.hand i t hne).mp hand)

theorem Touches.trans (h : s.Touches i s') (h' : s'.Touches i s'') : s.Touches i s'' where
  readList := h'.readList.trans h.readList
  hand := h'.hand.trans h.hand
  begun := h'.begun.trans h.begun
  replied := h'.replied.trans h.replied
  returned := h'.returned.trans h.returned
  orphaned := h'.orphaned.trans h.orphaned
  others := fun j hj => (h'.others j hj).trans (h.others j hj)
  command := h'.command.trans h.command
  quick := fun hq => h'.quick (h.quick hq)

theorem SameBooks.touches (h : s.SameBooks s') (i : ι) : s.Touches i s' where
  readList := h.readList
  hand := h.hand
  begun := h.begun
  replied := h.replied
  returned := h.returned
  orphaned := h.orphaned
  others := by
    intro j _
    rw [h.request]
  command := by rw [h.request]
  quick := by
    rw [h.request]
    exact id

theorem Touches.keeps (h : s.Touches i s') (hi : s.Holds t i) : Keeps t s s' where
  hand := by
    intro j u _
    rw [h.hand]
  request := by
    intro j u hu hand
    apply h.others
    intro hj
    rw [hj] at hand
    exact hi.others u hu hand

theorem Touches.holds (h : s.Touches i s') (hi : s.Holds t i) : s'.Holds t i where
  hand := by
    rw [h.hand]
    exact hi.hand
  alone := by
    rw [h.hand]
    exact hi.alone

theorem SameBooks.keeps (h : s.SameBooks s') (t : NetTask) : Keeps t s s' where
  hand := by
    intro i u _
    rw [h.hand]
  request := by
    intro i u _ _
    rw [h.request]

theorem SameBooks.idle (h : s.SameBooks s') (hs : s.Idle t) : s'.Idle t := by
  unfold Idle
  rw [h.hand]
  exact hs

theorem touches_tx (s : NetDevice ι ε) (i : ι) (tx : TxState) : s.Touches i { s with tx } := by
  have hbooks : s.SameBooks { s with tx } := ⟨rfl, rfl, rfl, rfl, rfl, rfl, rfl⟩
  exact hbooks.touches i

theorem touches_stats (s : NetDevice ι ε) (i : ι) (stats : NetStats)
    : s.Touches i { s with stats } := by
  have hbooks : s.SameBooks { s with stats } := ⟨rfl, rfl, rfl, rfl, rfl, rfl, rfl⟩
  exact hbooks.touches i

theorem touches_mcast (s : NetDevice ι ε) (i : ι) (mcast : Mcast) (card : ε)
    : s.Touches i { s with mcast, card } := by
  have hbooks : s.SameBooks { s with mcast, card } := ⟨rfl, rfl, rfl, rfl, rfl, rfl, rfl⟩
  exact hbooks.touches i

theorem touches_online (s : NetDevice ι ε) (i : ι) (isOnline : Bool)
    : s.Touches i { s with isOnline } := by
  have hbooks : s.SameBooks { s with isOnline } := ⟨rfl, rfl, rfl, rfl, rfl, rfl, rfl⟩
  exact hbooks.touches i

theorem sameBooks_next (card : NetCard ε) (s : NetDevice ι ε) : s.SameBooks (s.next card).2 :=
  ⟨rfl, rfl, rfl, rfl, rfl, rfl, rfl⟩

end Frames

variable [DecidableEq ι]

section Hands

theorem Idle.holds (h : s.Idle t) (hhand : s'.hand = Function.update s.hand i (some t))
    : s'.Holds t i where
  hand := by
    rw [hhand]
    exact Function.update_self ..
  alone := by
    intro j hj
    rw [hhand, Function.update_of_ne hj]
    exact h j

theorem Holds.idle (h : s.Holds t i) (hhand : s'.hand = Function.update s.hand i none)
    : s'.Idle t := by
  intro j
  rw [hhand]
  by_cases hj : j = i
  . rw [hj, Function.update_self]
    exact fun heq => nomatch heq
  . rw [Function.update_of_ne hj]
    exact h.alone j hj

/-- A task gives up its request or takes one that nobody holds. -/
theorem keeps_of_hand {x : Option NetTask} (hbefore : ∀ u, u ≠ t → s.hand i ≠ some u)
    (hafter : ∀ u, u ≠ t → x ≠ some u) (hhand : s'.hand = Function.update s.hand i x)
    (hothers : ∀ j, j ≠ i → s'.request j = s.request j)
    : Keeps t s s' where
  hand := by
    intro j u hu
    rw [hhand]
    by_cases hj : j = i
    . rw [hj, Function.update_self]
      exact ⟨fun h => absurd h (hafter u hu), fun h => absurd h (hbefore u hu)⟩
    . rw [Function.update_of_ne hj]
  request := by
    intro j u hu hand
    apply hothers
    intro hj
    rw [hj] at hand
    exact hbefore u hu hand

theorem Holds.releases (h : s.Holds t i) (hhand : s'.hand = Function.update s.hand i none)
    (hothers : ∀ j, j ≠ i → s'.request j = s.request j)
    : Keeps t s s' := by
  apply keeps_of_hand h.others _ hhand hothers
  intro u _ heq
  contradiction

theorem keeps_of_taken (h : s.hand i = none) (hhand : s'.hand = Function.update s.hand i (some t))
    (hothers : ∀ j, j ≠ i → s'.request j = s.request j)
    : Keeps t s s' := by
  apply keeps_of_hand _ _ hhand hothers
  . intro u _ heq
    rw [h] at heq
    contradiction
  . intro u hu heq
    rw [Option.some.injEq] at heq
    exact hu heq.symm

end Hands

section Books

/-- Every request that has been begun is completed, or it is in one place of the device. -/
structure Conserved (s : NetDevice ι ε) : Prop where
  balance : ∀ i, s.begun i
    = s.replied i + s.returned i + (s.orphaned i + s.readList.count i + s.held i)
  once : ∀ i, s.orphaned i + s.readList.count i + s.held i ≤ 1
  waits : ∀ i ∈ s.readList, (s.request i).quick = false ∧ (s.request i).command = .read

theorem count_of_holds (hs : s.Conserved) (h : s.Holds t i) : s.readList.count i = 0 := by
  have honce := hs.once i
  rw [held_of_holds h] at honce
  omega

theorem not_mem_of_holds (hs : s.Conserved) (h : s.Holds t i) : i ∉ s.readList :=
  List.count_eq_zero.mp (count_of_holds hs h)

/-- Nobody works on a reader in the list. -/
theorem hand_of_mem (hs : s.Conserved) (h : i ∈ s.readList) : s.hand i = none := by
  have honce := hs.once i
  have hcount := List.count_pos_iff.mpr h
  unfold held at honce
  split at honce
  . omega
  . next hnone => exact Option.not_isSome_iff_eq_none.mp hnone

theorem Touches.conserved (h : s.Touches i s') (hs : s.Conserved) (hi : s.Holds t i)
    : s'.Conserved where
  balance := by
    unfold held
    rw [h.begun, h.replied, h.returned, h.orphaned, h.readList, h.hand]
    exact hs.balance
  once := by
    unfold held
    rw [h.orphaned, h.readList, h.hand]
    exact hs.once
  waits := by
    intro j hj
    rw [h.readList] at hj
    have hne : j ≠ i := by
      intro heq
      rw [heq] at hj
      exact not_mem_of_holds hs hi hj
    rw [h.others j hne]
    exact hs.waits j hj

theorem SameBooks.conserved (h : s.SameBooks s') (hs : s.Conserved) : s'.Conserved where
  balance := by
    unfold held
    rw [h.begun, h.replied, h.returned, h.orphaned, h.readList, h.hand]
    exact hs.balance
  once := by
    unfold held
    rw [h.orphaned, h.readList, h.hand]
    exact hs.once
  waits := by
    rw [h.readList, h.request]
    exact hs.waits

/-- The books of the other requests stay. -/
structure OnlyAt (i : ι) (s s' : NetDevice ι ε) : Prop where
  begun : ∀ j, j ≠ i → s'.begun j = s.begun j
  replied : ∀ j, j ≠ i → s'.replied j = s.replied j
  returned : ∀ j, j ≠ i → s'.returned j = s.returned j
  orphaned : ∀ j, j ≠ i → s'.orphaned j = s.orphaned j
  count : ∀ j, j ≠ i → s'.readList.count j = s.readList.count j
  hand : ∀ j, j ≠ i → s'.hand j = s.hand j
  request : ∀ j, j ≠ i → s'.request j = s.request j

theorem Conserved.move (hs : s.Conserved) (hframe : OnlyAt i s s')
    (hbalance : s'.begun i
      = s'.replied i + s'.returned i + (s'.orphaned i + s'.readList.count i + s'.held i))
    (honce : s'.orphaned i + s'.readList.count i + s'.held i ≤ 1)
    (hwaits : i ∈ s'.readList → (s'.request i).quick = false ∧ (s'.request i).command = .read)
    : s'.Conserved where
  balance := by
    intro j
    by_cases hj : j = i
    . rw [hj]
      exact hbalance
    . unfold held
      rw [hframe.begun j hj, hframe.replied j hj, hframe.returned j hj, hframe.orphaned j hj,
        hframe.count j hj, hframe.hand j hj]
      exact hs.balance j
  once := by
    intro j
    by_cases hj : j = i
    . rw [hj]
      exact honce
    . unfold held
      rw [hframe.orphaned j hj, hframe.count j hj, hframe.hand j hj]
      exact hs.once j
  waits := by
    intro j hmem
    by_cases hj : j = i
    . rw [hj] at hmem ⊢
      exact hwaits hmem
    . rw [hframe.request j hj]
      apply hs.waits
      have hpos := List.count_pos_iff.mpr hmem
      rw [hframe.count j hj] at hpos
      exact List.count_pos_iff.mp hpos

end Books

section Operations

theorem touches_setRequest (s : NetDevice ι ε) (i : ι) {req : IOSana2Req}
    (hcommand : req.command = (s.request i).command)
    (hquick : (s.request i).quick = false → req.quick = false)
    : s.Touches i (s.setRequest i req) := by
  have hself : (s.setRequest i req).request i = req := Function.update_self ..
  constructor
  . rfl
  . rfl
  . rfl
  . rfl
  . rfl
  . rfl
  . exact fun j hj => Function.update_of_ne hj ..
  . rw [hself]
    exact hcommand
  . rw [hself]
    exact hquick

theorem touches_fail (s : NetDevice ι ε) (i : ι) (error : Int) (wireError : UInt32)
    : s.Touches i (s.fail i error wireError) :=
  touches_setRequest s i rfl id

theorem touches_send (flags : TxFlags) (s : NetDevice ι ε) (i : ι) (answer : NetAnswer)
    : s.Touches i (s.send flags i answer) := by
  unfold send
  dsimp only
  generalize (if txCommand (s.request i).command = .broadcast then fun _ => 0xff
    else (s.request i).dstAddr) = dstAddr
  have hset : s.Touches i (s.setRequest i { s.request i with dstAddr }) :=
    touches_setRequest s i rfl id
  split
  . exact hset.trans (touches_fail _ i _ _)
  . next effect _ =>
    have htx := hset.trans (touches_tx _ i effect.state)
    split
    . exact htx.trans (touches_fail _ i _ _)
    . exact (htx.trans (touches_fail _ i _ _)).trans (touches_stats _ i _)

theorem touches_changeMulticast (card : NetCard ε) (s : NetDevice ι ε) (i : ι) (add : Bool)
    : s.Touches i (s.changeMulticast card i add) := by
  unfold changeMulticast
  dsimp only
  split
  . exact touches_fail s i _ _
  . generalize s.mcast.update card.mcastIo s.card (s.request i).srcAddr add = outcome
    have hmcast := touches_mcast s i outcome.mcast outcome.window
    split
    . exact hmcast.trans (touches_setRequest _ i rfl id)
    . exact hmcast.trans (touches_fail _ i _ _)

theorem touches_stationAddress (s : NetDevice ι ε) (i : ι) (mac : McastAddr)
    : s.Touches i (s.stationAddress i mac) :=
  touches_setRequest s i rfl id

theorem readFrameInto_keeps (memory : Nat → UInt8) (req : IOSana2Req) (frame : Nat) (sz tp : UInt16)
    (copies : Bool)
    : (readFrameInto memory req frame sz tp copies).2.command = req.command
        ∧ (req.quick = false → (readFrameInto memory req frame sz tp copies).2.quick = false) := by
  unfold readFrameInto
  cases readFrame req.raw frame sz with
  | none => exact ⟨rfl, id⟩
  | some source =>
    cases copies with
    | false => exact ⟨rfl, fun _ => rfl⟩
    | true => exact ⟨rfl, fun _ => rfl⟩

theorem touches_deliver (card : NetCard ε) (s : NetDevice ι ε) (i : ι) (frame : Nat)
    (sz tp : UInt16) (copies : Bool)
    : s.Touches i (s.deliver card i frame sz tp copies) := by
  unfold deliver
  have hkeeps := readFrameInto_keeps (card.memory s.card) (s.request i) frame sz tp copies
  generalize readFrameInto (card.memory s.card) (s.request i) frame sz tp copies = result
    at hkeeps ⊢
  have hset := touches_setRequest s i hkeeps.1 hkeeps.2
  dsimp only
  split
  . exact hset.trans (touches_stats _ i _)
  . exact hset.trans (touches_stats _ i _)

theorem held_some {u : NetTask} (hhand : s'.hand = Function.update s.hand i (some u))
    : s'.held i = 1 := by
  unfold held
  rw [hhand, Function.update_self]
  rfl

theorem held_none (hhand : s'.hand = Function.update s.hand i none) : s'.held i = 0 := by
  unfold held
  rw [hhand, Function.update_self]
  rfl

theorem conserved_begin (hs : s.Conserved) (t : NetTask) (req : IOSana2Req)
    (h : s.isClients i = true)
    : (s.begin t i req).Conserved := by
  have hclients : s.begun i = s.replied i + s.returned i := of_decide_eq_true h
  have hbalance := hs.balance i
  have hheld : (s.begin t i req).held i = 1 := held_some rfl
  have hbegun : (s.begin t i req).begun i = s.begun i + 1 := Function.update_self ..
  have hempty : s.readList.count i = 0 := by omega
  have hframe : OnlyAt i s (s.begin t i req) :=
    ⟨fun j hj => Function.update_of_ne hj .., fun _ _ => rfl, fun _ _ => rfl, fun _ _ => rfl,
      fun _ _ => rfl, fun j hj => Function.update_of_ne hj ..,
      fun j hj => Function.update_of_ne hj ..⟩
  apply hs.move hframe
  . rw [hbegun, hheld]
    show _ = s.replied i + s.returned i + (s.orphaned i + s.readList.count i + 1)
    omega
  . rw [hheld]
    show s.orphaned i + s.readList.count i + 1 ≤ 1
    omega
  . intro hmem
    exact absurd hmem (List.count_eq_zero.mp hempty)

theorem conserved_addHead (hs : s.Conserved) (hi : s.Holds t i)
    (hcommand : (s.request i).command = .read)
    : (s.addHead i).Conserved := by
  have hbalance := hs.balance i
  have hcount := count_of_holds hs hi
  have honce := hs.once i
  have hholds := held_of_holds hi
  have hheld : (s.addHead i).held i = 0 := held_none rfl
  have hadded : (s.addHead i).readList.count i = 1 := by
    show (i :: s.readList).count i = 1
    rw [List.count_cons_self, hcount]
  have hframe : OnlyAt i s (s.addHead i) :=
    ⟨fun _ _ => rfl, fun _ _ => rfl, fun _ _ => rfl, fun _ _ => rfl,
      fun j hj => List.count_cons_of_ne (Ne.symm hj), fun j hj => Function.update_of_ne hj ..,
      fun j hj => Function.update_of_ne hj ..⟩
  apply hs.move hframe
  . rw [hadded, hheld]
    show s.begun i = s.replied i + s.returned i + (s.orphaned i + 1 + 0)
    omega
  . rw [hadded, hheld]
    show s.orphaned i + 1 + 0 ≤ 1
    omega
  . intro _
    have hself : (s.addHead i).request i = { s.request i with quick := false } :=
      Function.update_self ..
    rw [hself]
    exact ⟨rfl, hcommand⟩

theorem conserved_orphan (hs : s.Conserved) (hi : s.Holds t i) : (s.orphan i).Conserved := by
  have hbalance := hs.balance i
  have hcount := count_of_holds hs hi
  have honce := hs.once i
  have hholds := held_of_holds hi
  have hheld : (s.orphan i).held i = 0 := held_none rfl
  have horphaned : (s.orphan i).orphaned i = s.orphaned i + 1 := Function.update_self ..
  have hframe : OnlyAt i s (s.orphan i) :=
    ⟨fun _ _ => rfl, fun _ _ => rfl, fun _ _ => rfl, fun j hj => Function.update_of_ne hj ..,
      fun _ _ => rfl, fun j hj => Function.update_of_ne hj ..,
      fun j hj => Function.update_of_ne hj ..⟩
  apply hs.move hframe
  . rw [horphaned, hheld]
    show s.begun i = s.replied i + s.returned i + (s.orphaned i + 1 + s.readList.count i + 0)
    omega
  . rw [horphaned, hheld]
    show s.orphaned i + 1 + s.readList.count i + 0 ≤ 1
    omega
  . intro hmem
    exact (not_mem_of_holds hs hi hmem).elim

theorem conserved_remove (hs : s.Conserved) (t : NetTask) (hi : i ∈ s.readList)
    : (s.remove t i).Conserved := by
  have hbalance := hs.balance i
  have honce := hs.once i
  have hpos := List.count_pos_iff.mpr hi
  have hheld : (s.remove t i).held i = 1 := held_some rfl
  have herase : (s.remove t i).readList.count i = 0 := by
    show (s.readList.erase i).count i = 0
    rw [List.count_erase_self]
    omega
  have hframe : OnlyAt i s (s.remove t i) :=
    ⟨fun _ _ => rfl, fun _ _ => rfl, fun _ _ => rfl, fun _ _ => rfl,
      fun j hj => List.count_erase_of_ne hj, fun j hj => Function.update_of_ne hj ..,
      fun _ _ => rfl⟩
  apply hs.move hframe
  . rw [herase, hheld]
    show s.begun i = s.replied i + s.returned i + (s.orphaned i + 0 + 1)
    omega
  . rw [herase, hheld]
    show s.orphaned i + 0 + 1 ≤ 1
    omega
  . intro hmem
    exact absurd hmem (List.count_eq_zero.mp herase)

theorem conserved_replyMsg (hs : s.Conserved) (hi : s.Holds t i) : (s.replyMsg i).Conserved := by
  have hbalance := hs.balance i
  have hcount := count_of_holds hs hi
  have honce := hs.once i
  have hholds := held_of_holds hi
  have hheld : (s.replyMsg i).held i = 0 := held_none rfl
  have hreplied : (s.replyMsg i).replied i = s.replied i + 1 := Function.update_self ..
  have hframe : OnlyAt i s (s.replyMsg i) :=
    ⟨fun _ _ => rfl, fun j hj => Function.update_of_ne hj .., fun _ _ => rfl, fun _ _ => rfl,
      fun _ _ => rfl, fun j hj => Function.update_of_ne hj .., fun _ _ => rfl⟩
  apply hs.move hframe
  . rw [hreplied, hheld]
    show s.begun i = s.replied i + 1 + s.returned i + (s.orphaned i + s.readList.count i + 0)
    omega
  . rw [hheld]
    show s.orphaned i + s.readList.count i + 0 ≤ 1
    omega
  . intro hmem
    exact (not_mem_of_holds hs hi hmem).elim

theorem conserved_returnQuick (hs : s.Conserved) (hi : s.Holds t i)
    : (s.returnQuick i).Conserved := by
  have hbalance := hs.balance i
  have hcount := count_of_holds hs hi
  have honce := hs.once i
  have hholds := held_of_holds hi
  have hheld : (s.returnQuick i).held i = 0 := held_none rfl
  have hreturned : (s.returnQuick i).returned i = s.returned i + 1 := Function.update_self ..
  have hframe : OnlyAt i s (s.returnQuick i) :=
    ⟨fun _ _ => rfl, fun _ _ => rfl, fun j hj => Function.update_of_ne hj .., fun _ _ => rfl,
      fun _ _ => rfl, fun j hj => Function.update_of_ne hj .., fun _ _ => rfl⟩
  apply hs.move hframe
  . rw [hreturned, hheld]
    show s.begun i = s.replied i + (s.returned i + 1) + (s.orphaned i + s.readList.count i + 0)
    omega
  . rw [hheld]
    show s.orphaned i + s.readList.count i + 0 ≤ 1
    omega
  . intro hmem
    exact (not_mem_of_holds hs hi hmem).elim

end Operations

end NetDevice

section Outline

/--
A message is replied by the task that works on it, and only if its client did not ask for quick IO.
A reader that is aborted was waiting, and one that is not was not.
-/
def NetMark.Proper (m : NetMark ι) (s : NetDevice ι ε) : Prop :=
  match m with
  | .reply i => (s.hand i).isSome ∧ i ∉ s.readList ∧ (s.request i).quick = false
  | .returns i => (s.hand i).isSome ∧ i ∉ s.readList ∧ (s.request i).quick = true
  | .aborts i => i ∈ s.readList ∧ s.hand i = none
  | .refuses i => i ∉ s.readList

def NetWindow.Parked (t : NetTask) (w : NetWindow ι) (s : NetDevice ι ε) : Prop :=
  match w with
  | .begins i command => s.Holds t i ∧ (s.request i).command = command
  | .holds i => s.Holds t i ∧ (s.request i).quick = false
  | .free => s.Idle t

theorem stable_parked {t u : NetTask} {w : NetWindow ι} {s s' : NetDevice ι ε}
    (hne : t ≠ u) (hkeeps : NetDevice.Keeps u s s') (h : w.Parked t s)
    : w.Parked t s' := by
  cases w with
  | begins i command =>
    refine ⟨h.1.keeps hkeeps hne, ?_⟩
    rw [hkeeps.request i t hne h.1.hand]
    exact h.2
  | holds i =>
    refine ⟨h.1.keeps hkeeps hne, ?_⟩
    rw [hkeeps.request i t hne h.1.hand]
    exact h.2
  | free => exact NetDevice.Idle.keeps h hkeeps hne

variable [DecidableEq ι] (card : NetCard ε) (flags : TxFlags) (mac : McastAddr)

def requestsOutline : Pool.Annotation (netPool ι card flags mac) where
  inv := NetDevice.Conserved
  assume := fun _ _ => True
  assert := NetMark.Proper
  park := NetWindow.Parked
  idle := NetDevice.Idle
  guar := NetDevice.Keeps

theorem requestsOutline_closed (t : NetTask)
    : ((requestsOutline (ι := ι) card flags mac).contract t).Closed where
  refl := NetDevice.Keeps.refl t
  trans := fun _ _ _ => NetDevice.Keeps.trans

variable {card flags mac} {t : NetTask} {i : ι}

/-- `t` works on `i`, and everything is accounted for. -/
def Working (t : NetTask) (i : ι) (s : NetDevice ι ε) : Prop := s.Conserved ∧ s.Holds t i

/-- A touch of the request that the task works on. -/
theorem triple_touch {f : NetDevice ι ε → NetDevice ι ε}
    (hf : ∀ s : NetDevice ι ε, s.Touches i (f s))
    : Triple ((requestsOutline card flags mac).contract t) (Working t i)
        (modify f : NetM ι ε Unit) (fun _ => Working t i) := by
  apply triple_modify (requestsOutline_closed card flags mac t)
  intro s hs
  exact ⟨(hf s).keeps hs.2, (hf s).conserved hs.1 hs.2, (hf s).holds hs.2⟩

theorem triple_books {f : NetDevice ι ε → NetDevice ι ε}
    (hf : ∀ s : NetDevice ι ε, s.SameBooks (f s))
    : Triple ((requestsOutline card flags mac).contract t) (fun s => s.Conserved ∧ s.Idle t)
        (modify f : NetM ι ε Unit) (fun _ s => s.Conserved ∧ s.Idle t) := by
  apply triple_modify (requestsOutline_closed card flags mac t)
  intro s hs
  exact ⟨(hf s).keeps t, (hf s).conserved hs.1, (hf s).idle hs.2⟩

theorem triple_replyMsg
    : Triple ((requestsOutline card flags mac).contract t)
        (fun s => Working t i s ∧ (s.request i).quick = false)
        (replyMsg i : NetM ι ε Unit) (fun _ s => s.Conserved ∧ s.Idle t) := by
  unfold replyMsg
  apply triple_bind (J := fun _ => Working t i)
  . apply triple_note
    intro s hs _
    refine ⟨⟨?_, NetDevice.not_mem_of_holds hs.1.1 hs.1.2, hs.2⟩, hs.1⟩
    rw [hs.1.2.hand]
    rfl
  . intro _
    apply triple_modify (requestsOutline_closed card flags mac t)
    intro s hs
    refine ⟨?_, NetDevice.conserved_replyMsg hs.1 hs.2, hs.2.idle rfl⟩
    exact hs.2.releases rfl (fun _ _ => rfl)

theorem triple_devTermIo
    : Triple ((requestsOutline card flags mac).contract t) (Working t i)
        (devTermIo i : NetM ι ε Unit) (fun _ s => s.Conserved ∧ s.Idle t) := by
  unfold devTermIo
  apply triple_bind (J := fun s' s => Working t i s ∧ s' = s)
  . apply triple_read
    intro s hs
    exact ⟨hs, rfl⟩
  . intro s'
    apply triple_ite
    . intro hquick
      apply triple_bind (J := fun _ => Working t i)
      . apply triple_note
        intro s hs _
        rw [hs.2] at hquick
        refine ⟨⟨?_, NetDevice.not_mem_of_holds hs.1.1 hs.1.2, hquick⟩, hs.1⟩
        rw [hs.1.2.hand]
        rfl
      . intro _
        apply triple_modify (requestsOutline_closed card flags mac t)
        intro s hs
        refine ⟨?_, NetDevice.conserved_returnQuick hs.1 hs.2, hs.2.idle rfl⟩
        exact hs.2.releases rfl (fun _ _ => rfl)
    . intro hquick
      apply triple_of_pre _ triple_replyMsg
      intro s hs
      rw [hs.2, Bool.not_eq_true] at hquick
      exact ⟨hs.1, hquick⟩

theorem triple_fail_term (error : Int) (wireError : UInt32)
    : Triple ((requestsOutline card flags mac).contract t) (Working t i)
        (do modify (·.fail i error wireError); devTermIo i : NetM ι ε Unit)
        (fun _ s => s.Conserved ∧ s.Idle t) :=
  triple_bind (triple_touch fun s => s.touches_fail i _ _) fun _ => triple_devTermIo

/-- A command that is carried out at once. -/
theorem triple_command {f : NetDevice ι ε → NetDevice ι ε}
    (hf : ∀ s : NetDevice ι ε, s.Touches i (f s))
    : Triple ((requestsOutline card flags mac).contract t) (Working t i)
        (do modify f; devTermIo i : NetM ι ε Unit) (fun _ s => s.Conserved ∧ s.Idle t) :=
  triple_bind (triple_touch hf) fun _ => triple_devTermIo

theorem triple_send
    : Triple ((requestsOutline card flags mac).contract t) (Working t i)
        (do
          let answer ← answer
          modify (·.send flags i answer)
          devTermIo i : NetM ι ε Unit)
        (fun _ s => s.Conserved ∧ s.Idle t) := by
  apply triple_bind (J := fun _ => Working t i)
  . apply triple_answer
    intro s _ hs
    exact hs
  . intro answer
    exact triple_command fun s => s.touches_send flags i answer

theorem triple_devBeginIo (req : IOSana2Req)
    : Triple ((requestsOutline card flags mac).contract t)
        (fun s => s.Conserved ∧ s.Idle t ∧ s.isClients i = true)
        (devBeginIo card flags mac t i req) (fun _ s => s.Conserved ∧ s.Idle t) := by
  unfold devBeginIo
  apply triple_bind (J := fun _ s => Working t i s ∧ (s.request i).command = req.command)
  . apply triple_modify (requestsOutline_closed card flags mac t)
    intro s hs
    have hnone : s.hand i = none := by
      have hbalance := hs.1.balance i
      have hclients : s.begun i = s.replied i + s.returned i := of_decide_eq_true hs.2.2
      have hheld : s.held i = 0 := by omega
      unfold NetDevice.held at hheld
      split at hheld
      . contradiction
      . next hnone => exact Option.not_isSome_iff_eq_none.mp hnone
    refine ⟨NetDevice.keeps_of_taken hnone rfl fun j hj => Function.update_of_ne hj ..,
      ⟨NetDevice.conserved_begin hs.1 t req hs.2.2, hs.2.1.holds rfl⟩, ?_⟩
    show ((Function.update s.request i _) i).command = _
    rw [Function.update_self]
  . intro _
    apply triple_bind (J := fun _ s => Working t i s ∧ (s.request i).command = req.command)
    . apply triple_pause (requestsOutline_closed card flags mac t)
      . exact fun s hs => ⟨⟨hs.1.2, hs.2⟩, hs.1.1⟩
      . exact fun s hs => ⟨⟨hs.2.1, hs.1.1⟩, hs.1.2⟩
    . intro _
      generalize req.command = command
      have hworking {c : NetM ι ε Unit} {J : Unit → NetDevice ι ε → Prop}
          (hc : Triple ((requestsOutline card flags mac).contract t) (Working t i) c J)
          : Triple ((requestsOutline card flags mac).contract t)
              (fun s => Working t i s ∧ (s.request i).command = command) c J :=
        triple_of_pre (fun _ hs => hs.1) hc
      cases command with
      | read =>
        apply triple_ite
        . intro _
          exact hworking (triple_fail_term _ _)
        . intro _
          apply triple_modify (requestsOutline_closed card flags mac t)
          intro s hs
          exact ⟨hs.1.2.releases rfl fun j hj => Function.update_of_ne hj ..,
            NetDevice.conserved_addHead hs.1.1 hs.1.2 hs.2, hs.1.2.idle rfl⟩
      | readOrphan =>
        apply triple_ite
        . intro _
          exact hworking (triple_fail_term _ _)
        . intro _
          apply triple_modify (requestsOutline_closed card flags mac t)
          intro s hs
          exact ⟨hs.1.2.releases rfl fun j hj => Function.update_of_ne hj ..,
            NetDevice.conserved_orphan hs.1.1 hs.1.2, hs.1.2.idle rfl⟩
      | write => exact hworking triple_send
      | multicast => exact hworking triple_send
      | broadcast => exact hworking triple_send
      | addMulticastAddress =>
        exact hworking (triple_command fun s => s.touches_changeMulticast card i true)
      | delMulticastAddress =>
        exact hworking (triple_command fun s => s.touches_changeMulticast card i false)
      | configInterface => exact hworking (triple_command fun s => s.touches_online i true)
      | online => exact hworking (triple_command fun s => s.touches_online i true)
      | offline => exact hworking (triple_command fun s => s.touches_online i false)
      | getStationAddress =>
        exact hworking (triple_command fun s => s.touches_stationAddress i mac)
      | deviceQuery => exact hworking triple_devTermIo
      | getGlobalStats => exact hworking triple_devTermIo
      | getSpecialStats => exact hworking triple_devTermIo
      | other => exact hworking (triple_fail_term _ _)

/-- A task that works on nothing takes a reader from the list. -/
theorem triple_remove
    : Triple ((requestsOutline card flags mac).contract t)
        (fun s => (s.Conserved ∧ s.Idle t) ∧ i ∈ s.readList)
        (modify (·.remove t i) : NetM ι ε Unit)
        (fun _ s => Working t i s ∧ (s.request i).quick = false) := by
  apply triple_modify (requestsOutline_closed card flags mac t)
  intro s hs
  exact ⟨NetDevice.keeps_of_taken (NetDevice.hand_of_mem hs.1.1 hs.2) rfl (fun _ _ => rfl),
    ⟨NetDevice.conserved_remove hs.1.1 t hs.2, hs.1.2.holds rfl⟩, (hs.1.1.waits i hs.2).1⟩

theorem triple_holds
    : Triple ((requestsOutline card flags mac).contract t)
        (fun s => Working t i s ∧ (s.request i).quick = false)
        (pause (.holds i) : NetM ι ε Unit)
        (fun _ s => Working t i s ∧ (s.request i).quick = false) := by
  apply triple_pause (requestsOutline_closed card flags mac t)
  . exact fun s hs => ⟨⟨hs.1.2, hs.2⟩, hs.1.1⟩
  . exact fun s hs => ⟨⟨hs.2.1, hs.1.1⟩, hs.1.2⟩

theorem triple_touch_async {f : NetDevice ι ε → NetDevice ι ε}
    (hf : ∀ s : NetDevice ι ε, s.Touches i (f s))
    : Triple ((requestsOutline card flags mac).contract t)
        (fun s => Working t i s ∧ (s.request i).quick = false)
        (modify f : NetM ι ε Unit) (fun _ s => Working t i s ∧ (s.request i).quick = false) := by
  apply triple_modify (requestsOutline_closed card flags mac t)
  intro s hs
  exact ⟨(hf s).keeps hs.1.2, ⟨(hf s).conserved hs.1.1 hs.1.2, (hf s).holds hs.1.2⟩,
    (hf s).quick hs.2⟩

theorem triple_devAbortIo
    : Triple ((requestsOutline card flags mac).contract t) (fun s => s.Conserved ∧ s.Idle t)
        (devAbortIo t i : NetM ι ε Unit) (fun _ s => s.Conserved ∧ s.Idle t) := by
  unfold devAbortIo
  apply triple_bind (J := fun s' s => (s.Conserved ∧ s.Idle t) ∧ s' = s)
  . apply triple_read
    intro s hs
    exact ⟨hs, rfl⟩
  . intro s'
    apply triple_ite
    . intro hmem
      rw [List.contains_iff_mem] at hmem
      apply triple_bind (J := fun _ s => (s.Conserved ∧ s.Idle t) ∧ i ∈ s.readList)
      . apply triple_note
        intro s hs _
        rw [hs.2] at hmem
        exact ⟨⟨hmem, NetDevice.hand_of_mem hs.1.1 hmem⟩, hs.1, hmem⟩
      . intro _
        apply triple_bind triple_remove
        intro _
        apply triple_bind triple_holds
        intro _
        apply triple_bind (triple_touch_async fun s => s.touches_fail i _ _)
        intro _
        exact triple_replyMsg
    . intro hnot
      rw [List.contains_iff_mem] at hnot
      apply triple_note
      intro s hs _
      rw [hs.2] at hnot
      exact ⟨hnot, hs.1⟩

theorem triple_deliverFrame (frame : Nat) (sz tp : UInt16)
    : Triple ((requestsOutline card flags mac).contract .framer)
        (fun s => s.Conserved ∧ s.Idle .framer)
        (deliverFrame card frame sz tp : NetM ι ε Unit)
        (fun _ s => s.Conserved ∧ s.Idle .framer) := by
  unfold deliverFrame
  apply triple_bind (J := fun found s => found.elim (s.Conserved ∧ s.Idle .framer)
    fun i => Working .framer i s ∧ (s.request i).quick = false)
  . unfold detach
    apply triple_bind (J := fun s' s => (s.Conserved ∧ s.Idle .framer) ∧ s' = s)
    . apply triple_read
      intro s hs
      exact ⟨hs, rfl⟩
    . intro s'
      cases hfound : s'.matching tp with
      | none =>
        apply triple_pure
        exact fun s hs => hs.1
      | some i =>
        have hmem : i ∈ s'.readList := List.mem_of_find?_eq_some hfound
        apply triple_bind (J := fun _ s => Working .framer i s ∧ (s.request i).quick = false)
        . apply triple_of_pre _ triple_remove
          intro s hs
          rw [hs.2] at hmem
          exact ⟨hs.1, hmem⟩
        . intro _
          apply triple_pure
          exact fun s hs => hs
  . intro found
    cases found with
    | none =>
      apply triple_books
      exact fun s => ⟨rfl, rfl, rfl, rfl, rfl, rfl, rfl⟩
    | some i =>
      apply triple_bind triple_holds
      intro _
      apply triple_bind
        (J := fun _ s => Working .framer i s ∧ (s.request i).quick = false)
      . apply triple_answer
        exact fun s _ hs => hs
      . intro answer
        apply triple_bind (triple_touch_async fun s => s.touches_deliver card i frame sz tp _)
        intro _
        exact triple_replyMsg

theorem triple_nextDecision
    : Triple ((requestsOutline card flags mac).contract t) (fun s => s.Conserved ∧ s.Idle t)
        (nextDecision card : NetM ι ε RxDecision) (fun _ s => s.Conserved ∧ s.Idle t) := by
  unfold nextDecision
  apply triple_bind (J := fun s' s => (s.Conserved ∧ s.Idle t) ∧ s' = s)
  . apply triple_read
    intro s hs
    exact ⟨hs, rfl⟩
  . intro s'
    have hbooks := s'.sameBooks_next card
    apply triple_bind (J := fun _ s => s.Conserved ∧ s.Idle t)
    . apply triple_modify (requestsOutline_closed card flags mac t)
      intro s hs
      rw [hs.2] at hbooks
      rw [hs.2]
      exact ⟨hbooks.keeps t, hbooks.conserved hs.1.1, hbooks.idle hs.1.2⟩
    . intro _
      apply triple_pure
      exact fun s hs => hs

theorem triple_rxAccept (serial : UInt16)
    : Triple ((requestsOutline card flags mac).contract t) (fun s => s.Conserved ∧ s.Idle t)
        (modify (·.rxAccept card serial) : NetM ι ε Unit) (fun _ s => s.Conserved ∧ s.Idle t) :=
  triple_books fun _ => ⟨rfl, rfl, rfl, rfl, rfl, rfl, rfl⟩

theorem triple_takeFrame (plan : RxPlan) (frame : Nat) (sz tp : UInt16)
    : Triple ((requestsOutline card flags mac).contract .framer)
        (fun s => s.Conserved ∧ s.Idle .framer)
        (takeFrame card plan frame sz tp : NetM ι ε Unit)
        (fun _ s => s.Conserved ∧ s.Idle .framer) := by
  unfold takeFrame
  apply triple_ite
  . intro _
    exact triple_deliverFrame frame sz tp
  . intro _
    apply triple_ite
    . intro _
      exact triple_books fun _ => ⟨rfl, rfl, rfl, rfl, rfl, rfl, rfl⟩
    . intro _
      apply triple_pure
      exact fun s hs => hs

theorem triple_framerRound
    : Triple ((requestsOutline card flags mac).contract .framer)
        (fun s => s.Conserved ∧ s.Idle .framer) (framerRound card : NetM ι ε Unit)
        (fun _ s => s.Conserved ∧ s.Idle .framer) := by
  unfold framerRound
  apply triple_bind triple_nextDecision
  intro d
  cases d.action with
  | wait =>
    apply triple_pure
    exact fun s hs => hs
  | drop => exact triple_rxAccept d.serial
  | deliver =>
    apply triple_bind (J := fun _ s => s.Conserved ∧ s.Idle .framer)
    . apply triple_read
      exact fun s hs => hs
    . intro s'
      apply triple_bind (J := fun _ s => s.Conserved ∧ s.Idle .framer)
      . apply triple_pause (requestsOutline_closed card flags mac .framer)
        . exact fun s hs => ⟨hs.2, hs.1⟩
        . exact fun s hs => ⟨hs.2.1, hs.1⟩
      . intro _
        apply triple_bind (triple_takeFrame _ _ _ _)
        intro _
        exact triple_rxAccept d.serial

theorem requestsOutline_valid
    : (requestsOutline (ι := ι) card flags mac).Valid := by
  apply Pool.valid_of_triple (requestsOutline_closed card flags mac)
  . intro t c
    cases c with
    | beginIo i req =>
      cases t with
      | client n =>
        apply triple_of_pre _ (triple_devBeginIo req)
        exact fun s hs => hs
      | framer =>
        apply triple_of_fact (p := False) (fun s hs => nomatch hs.2.2)
        exact False.elim
    | abortIo i =>
      apply triple_of_pre _ triple_devAbortIo
      exact fun s hs => ⟨hs.1, hs.2.1⟩
    | round =>
      cases t with
      | client n =>
        apply triple_of_fact (p := False) (fun s hs => nomatch hs.2.2)
        exact False.elim
      | framer =>
        apply triple_of_pre _ triple_framerRound
        exact fun s hs => ⟨hs.1, hs.2.1⟩
    | cardEvent f =>
      apply triple_of_pre _
        (triple_books (f := fun s => { s with card := f s.card })
          fun _ => ⟨rfl, rfl, rfl, rfl, rfl, rfl, rfl⟩)
      exact fun s hs => ⟨hs.1, hs.2.1⟩
  . intro t u w s s' hne hkeeps _ h
    exact stable_parked hne hkeeps h
  . intro t u s s' hne hkeeps _ h
    exact h.keeps hkeeps hne

end Outline

section Runs

variable [DecidableEq ι] {card : NetCard ε} {flags : TxFlags} {mac : McastAddr}
variable {request : ι → IOSana2Req} {fwVersion : UInt16} {tx : TxState} {state : ε}

theorem conserved_opened
    : (NetDevice.opened request fwVersion tx state).Conserved where
  balance := fun _ => rfl
  once := fun _ => Nat.zero_le 1
  waits := fun _ h => absurd h List.not_mem_nil

/--
In every run each request that was begun has been completed once, or it waits in the list, or one
task works on it, or it is an orphan reader. Tasks that have nothing to do work on no request.
-/
theorem requests_conserved {as : List (Pool.Action NetTask (NetCall ι ε) NetAnswer)}
    {marks : Trace (NetDevice ι ε) (NetMark ι)} {st : (netPool ι card flags mac).State}
    (hrun : (netPool ι card flags mac).run (.start _ (.opened request fwVersion tx state)) as
      = some (marks, st))
    : st.shared.Conserved ∧ (∀ m ∈ marks, m.1.Proper m.2)
        ∧ ∀ t, st.parked t = none → st.shared.Idle t := by
  have hvalid : (requestsOutline (ι := ι) card flags mac).Valid := requestsOutline_valid
  have hfollows := Pool.follows_run_of_triple hvalid conserved_opened (fun _ _ h => nomatch h) hrun
    (fun _ _ => trivial)
  exact ⟨hfollows.2.inv, hfollows.1, hfollows.2.idle⟩

end Runs

section Sample

/-- A card without frames. -/
def idleCard : NetCard Unit where
  rxIo := { readHeader := fun s => (0, s), rxStatus := fun s => (0, s) }
  accept := fun _ s => s
  memory := fun _ _ => 0
  mcastIo := { capable := fun _ => false, command := fun _ s => s }

def sampleRead : IOSana2Req where
  command := .read
  quick := true
  raw := false
  cast := none
  bufferManagement := true
  packetType := 0x800
  dataLength := 0
  srcAddr := fun _ => 0
  dstAddr := fun _ => 0
  error := 0
  wireError := 0
  data := []

abbrev samplePool : Pool NetTask (NetCall Nat Unit) (NetDevice Nat Unit) (NetMark Nat)
    (NetWindow Nat) NetAnswer :=
  netPool Nat idleCard ⟨false, false⟩ fun _ => 0

/-- A reader is aborted by another task while its own task begins the next one. -/
def sampleAbort : List (Pool.Action NetTask (NetCall Nat Unit) NetAnswer) := [
  .call (.client 0) (.beginIo 7 sampleRead) [],
  .resume (.client 0) [],
  .call (.client 1) (.abortIo 7) [],
  .call (.client 0) (.beginIo 8 sampleRead) [],
  .call .framer .round [],
  .resume (.client 1) [],
  .resume (.client 0) []
]

theorem requests_conserved_sample
    : ∃ marks st, samplePool.run (.start _ (.opened (fun _ => sampleRead) 0 ⟨0, 0, 0⟩ ()))
        sampleAbort = some (marks, st)
        ∧ st.shared.Conserved ∧ (∀ m ∈ marks, m.1.Proper m.2)
        ∧ ∀ t, st.parked t = none → st.shared.Idle t := by
  have hsome : (samplePool.run (.start _ (.opened (fun _ => sampleRead) 0 ⟨0, 0, 0⟩ ()))
      sampleAbort).isSome := by
    decide +kernel
  obtain ⟨⟨marks, st⟩, hrun⟩ := Option.isSome_iff_exists.mp hsome
  exact ⟨marks, st, hrun, requests_conserved hrun⟩

end Sample

end ZZNet
