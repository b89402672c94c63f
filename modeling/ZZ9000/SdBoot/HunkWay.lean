import ZZ9000.SdBoot.HunkReading

/-!
This module contains the way of `fsrelocate_simple` through the blocks of a load file, and what is
done to the hunks on it.
-/

namespace ZZSd

open Machines
open Streams

/-- The way between two places without the turns that leave the hunks alone. -/
def Goes (data : List UInt8) (firstHunk : UInt32) (sizes : List UInt32) (place : Place)
    (actions : List HunkAction) (place' : Place) : Prop :=
  ∃ all, Leads (next data firstHunk sizes) place all place'
    ∧ all.filter (fun action => action ≠ .skip) = actions

section Goes

variable {data : List UInt8} {firstHunk : UInt32} {sizes : List UInt32}
  {place place' place'' : Place} {actions actions' : List HunkAction}

theorem goes_here (place : Place)
    : Goes data firstHunk sizes place [] place :=
  ⟨[], .here place, rfl⟩

theorem goes_trans (h : Goes data firstHunk sizes place actions place')
    (h' : Goes data firstHunk sizes place' actions' place'')
    : Goes data firstHunk sizes place (actions ++ actions') place'' := by
  obtain ⟨all, hleads, hall⟩ := h
  obtain ⟨all', hleads', hall'⟩ := h'
  refine ⟨all ++ all', hleads.append hleads', ?_⟩
  rw [List.filter_append, hall, hall']

theorem next_of_turn {action : HunkAction}
    (h : turn data firstHunk sizes place = .ok (action, place'))
    : next data firstHunk sizes place = .goes action place' := by
  unfold next
  rw [h]

theorem goes_skip (h : turn data firstHunk sizes place = .ok (.skip, place'))
    : Goes data firstHunk sizes place [] place' :=
  ⟨[.skip], .single (next_of_turn h), rfl⟩

theorem goes_turn {action : HunkAction}
    (h : turn data firstHunk sizes place = .ok (action, place')) (haction : action ≠ .skip)
    : Goes data firstHunk sizes place [action] place' := by
  refine ⟨[action], .single (next_of_turn h), ?_⟩
  rw [List.filter_cons_of_pos (by simpa using haction), List.filter_nil]

/-- A turn that leaves the hunks alone, and the way from there. -/
theorem goes_skip_trans (h : turn data firstHunk sizes place = .ok (.skip, place'))
    (h' : Goes data firstHunk sizes place' actions place'')
    : Goes data firstHunk sizes place actions place'' :=
  goes_trans (goes_skip h) h'

end Goes

section Blocks

variable {data : List UInt8} {firstHunk : UInt32} {sizes : List UInt32} {i : Nat}
  {curHunk : UInt32} (hdata : data.length < 2 ^ 32)

theorem ofNat_succ (n : Nat) : UInt32.ofNat n + 1 = UInt32.ofNat (n + 1) :=
  (UInt32.ofNat_add n 1).symm

include hdata

/-- The block at a place is the one whose type is there. -/
theorem inside_of_stored {htype : UInt32} (h : Stored data (4 * i) (longBytes htype))
    : (UInt32.ofNat i).toNat < data.length / 4 := by
  have hinside := stored_length_of_ne h (by simp)
  rw [length_longBytes] at hinside
  rw [toNat_index (by omega)]
  omega

theorem turn_symbol (h : Stored data (4 * i) (longBytes hunkSymbol))
    : turn data firstHunk sizes (.block (UInt32.ofNat i) curHunk)
        = .ok (.skip, .symbol (UInt32.ofNat (i + 1)) curHunk) := by
  unfold turn blockTurn
  dsimp only
  rw [if_pos (inside_of_stored hdata h), long_of_stored hdata h, ofNat_succ]
  rfl

theorem turn_reloc32 (h : Stored data (4 * i) (longBytes hunkReloc32))
    : turn data firstHunk sizes (.block (UInt32.ofNat i) curHunk)
        = .ok (.skip, .reloc (UInt32.ofNat (i + 1)) curHunk) := by
  unfold turn blockTurn
  dsimp only
  rw [if_pos (inside_of_stored hdata h), long_of_stored hdata h, ofNat_succ]
  rfl

theorem turn_short {htype : UInt32} (h : Stored data (4 * i) (longBytes htype))
    (hshort : htype = hunkReloc32Short ∨ htype = hunkDrel32)
    : turn data firstHunk sizes (.block (UInt32.ofNat i) curHunk)
        = .ok (.skip, .short (UInt32.ofNat (i + 1)) 0 curHunk) := by
  unfold turn blockTurn
  dsimp only
  rw [if_pos (inside_of_stored hdata h), long_of_stored hdata h, ofNat_succ]
  cases hshort with
  | inl h =>
    rw [h]
    rfl
  | inr h =>
    rw [h]
    rfl

theorem turn_end (h : Stored data (4 * i) (longBytes hunkEnd))
    (hcur : curHunk.toNat < sizes.length)
    : turn data firstHunk sizes (.block (UInt32.ofNat i) curHunk)
        = .ok (.skip, .block (UInt32.ofNat (i + 1)) curHunk) := by
  unfold turn blockTurn
  dsimp only
  rw [if_pos (inside_of_stored hdata h), long_of_stored hdata h, ofNat_succ]
  show (if sizes.length ≤ curHunk.toNat then _ else _) = _
  rw [if_neg (by omega)]
  rfl

theorem next_end (h : Stored data (4 * i) (longBytes hunkEnd))
    (hcur : sizes.length ≤ curHunk.toNat)
    : next data firstHunk sizes (.block (UInt32.ofNat i) curHunk) = .stops .finished := by
  unfold next turn blockTurn
  dsimp only
  rw [if_pos (inside_of_stored hdata h), long_of_stored hdata h, ofNat_succ]
  have hfinished : (if sizes.length ≤ curHunk.toNat then
        (throw .finished : HunkTurn)
      else
        return (.skip, .block (UInt32.ofNat (i + 1)) curHunk)) = .error .finished := if_pos hcur
  show (match (if sizes.length ≤ curHunk.toNat then
        (throw .finished : HunkTurn)
      else
        return (.skip, .block (UInt32.ofNat (i + 1)) curHunk)) with
    | .error stop => _
    | .ok (action, place) => _) = _
  rw [hfinished]

/-- The longwords of a note are skipped. -/
theorem turn_counted {htype : UInt32} {longs : List UInt32}
    (h : Stored data (4 * i) (longBytes htype ++ countedBytes longs))
    (hskip : htype = hunkDebug ∨ htype = hunkName)
    : turn data firstHunk sizes (.block (UInt32.ofNat i) curHunk)
        = .ok (.skip, .block (UInt32.ofNat (i + 2 + longs.length)) curHunk) := by
  have hparts := stored_append h
  have hcount : long data (UInt32.ofNat (i + 1)) = .ok (UInt32.ofNat longs.length) :=
    long_of_stored hdata (stored_append hparts.2).1
  have hplace : UInt32.ofNat (i + 1) + (UInt32.ofNat longs.length + 1)
      = UInt32.ofNat (i + 2 + longs.length) := by
    rw [ofNat_succ, ← UInt32.ofNat_add]
    congr 1
    omega
  unfold turn blockTurn
  dsimp only
  rw [if_pos (inside_of_stored hdata hparts.1), long_of_stored hdata hparts.1, ofNat_succ]
  rw [← hplace]
  cases hskip with
  | inl h =>
    rw [h]
    show (long data (UInt32.ofNat (i + 1)) >>= _) = _
    rw [hcount]
    rfl
  | inr h =>
    rw [h]
    show (long data (UInt32.ofNat (i + 1)) >>= _) = _
    rw [hcount]
    rfl

theorem turn_bss {size : UInt32} (h : Stored data (4 * i) (longBytes hunkBss ++ longBytes size))
    (hcur : curHunk.toNat < sizes.length)
    : turn data firstHunk sizes (.block (UInt32.ofNat i) curHunk)
        = .ok (.skip, .block (UInt32.ofNat (i + 2)) (curHunk + 1)) := by
  have hparts := stored_append h
  unfold turn blockTurn
  dsimp only
  rw [if_pos (inside_of_stored hdata hparts.1), long_of_stored hdata hparts.1]
  rw [ofNat_succ, ofNat_succ]
  show (if sizes.length ≤ curHunk.toNat then _ else _) = _
  rw [if_neg (by omega)]
  rfl

/-- The content of a hunk that is large enough is copied. -/
theorem contentTurn_of_stored {ls : List UInt32} (h : Stored data (4 * i) (countedBytes ls))
    (hcur : curHunk.toNat < sizes.length) (hsize : ls.length ≤ (hunkSize sizes curHunk).toNat)
    : contentTurn data sizes (UInt32.ofNat i) curHunk
        = .ok (.copy curHunk (ls.flatMap longBytes),
            .block (UInt32.ofNat (i + 1 + ls.length)) (curHunk + 1)) := by
  have hparts := stored_append h
  have hinside := stored_length_of_ne hparts.1 (by simp)
  rw [length_longBytes] at hinside
  have hbytes : Stored data (4 * (i + 1)) (ls.flatMap longBytes) := hparts.2
  have hend := stored_length hbytes (by omega)
  rw [length_flatMap_longBytes] at hend
  have hlongs : longs data (UInt32.ofNat (i + 1)) (UInt32.ofNat ls.length)
      = .ok (ls.flatMap longBytes) :=
    longs_of_stored hdata hbytes (by omega) (length_flatMap_longBytes ls)
  have hfits : ¬hunkSize sizes curHunk < UInt32.ofNat ls.length := by
    rw [UInt32.lt_iff_toNat_lt, toNat_index (by omega)]
    omega
  unfold contentTurn
  rw [if_neg (by omega), long_of_stored hdata hparts.1]
  show (if hunkSize sizes curHunk < UInt32.ofNat ls.length then _ else _) = _
  rw [if_neg hfits, ofNat_succ, hlongs, UInt32.ofNat_add (i + 1)]
  rfl

theorem turn_content {htype : UInt32} {ls : List UInt32}
    (h : Stored data (4 * i) (longBytes htype ++ countedBytes ls))
    (hcontent : htype = hunkCode ∨ htype = hunkData) (hcur : curHunk.toNat < sizes.length)
    (hsize : ls.length ≤ (hunkSize sizes curHunk).toNat)
    : turn data firstHunk sizes (.block (UInt32.ofNat i) curHunk)
        = .ok (.copy curHunk (ls.flatMap longBytes),
            .block (UInt32.ofNat (i + 2 + ls.length)) (curHunk + 1)) := by
  have hparts := stored_append h
  have hcounted : Stored data (4 * (i + 1)) (countedBytes ls) := hparts.2
  have hcopy := contentTurn_of_stored hdata hcounted hcur hsize
  rw [show i + 1 + 1 = i + 2 from rfl] at hcopy
  rw [← hcopy]
  unfold turn blockTurn
  dsimp only
  rw [if_pos (inside_of_stored hdata hparts.1), long_of_stored hdata hparts.1, ofNat_succ]
  show (if htype = hunkCode ∨ htype = hunkData then _ else _) = _
  rw [if_pos hcontent]

theorem turn_symbol_name {head : UInt32} {n : Nat} (h : Stored data (4 * i) (longBytes head))
    (hhead : head ≠ 0) (hn : head &&& 0xffffff = UInt32.ofNat n)
    : turn data firstHunk sizes (.symbol (UInt32.ofNat i) curHunk)
        = .ok (.skip, .symbol (UInt32.ofNat (i + 2 + n)) curHunk) := by
  have hplace : UInt32.ofNat (i + 1) + (UInt32.ofNat n + 1) = UInt32.ofNat (i + 2 + n) := by
    rw [ofNat_succ, ← UInt32.ofNat_add]
    congr 1
    omega
  unfold turn symbolTurn
  dsimp only
  rw [long_of_stored hdata h]
  show (if head = 0 then _ else _) = _
  rw [if_neg hhead, hn, ofNat_succ, hplace]
  rfl

omit hdata in
/-- The head of a symbol is not the zero that ends the block, and has the length of its name. -/
theorem head_of_wellFormed {symbol : LoadSymbol} (h : symbol.WellFormed)
    : UInt32.ofNat symbol.head ≠ 0
        ∧ UInt32.ofNat symbol.head &&& 0xffffff = UInt32.ofNat symbol.name.length := by
  have hkind := symbol.kind.toNat_lt
  have hname := h.name
  have hdef : symbol.head = symbol.kind.toNat * 2 ^ 24 + symbol.name.length := rfl
  have hlt : symbol.head < 2 ^ 32 := by omega
  constructor
  . intro heq
    have hzero : (UInt32.ofNat symbol.head).toNat = 0 := by
      rw [heq]
      rfl
    rw [toNat_index hlt] at hzero
    exact h.head hzero
  . apply UInt32.toNat_inj.mp
    have hmask : (0xffffff : UInt32).toNat = 2 ^ 24 - 1 := rfl
    rw [UInt32.toNat_and, toNat_index hlt, toNat_index (by omega), hmask]
    rw [Nat.and_two_pow_sub_one_eq_mod]
    omega

theorem turn_symbol_end (h : Stored data (4 * i) (longBytes 0))
    : turn data firstHunk sizes (.symbol (UInt32.ofNat i) curHunk)
        = .ok (.skip, .block (UInt32.ofNat (i + 1)) curHunk) := by
  unfold turn symbolTurn
  dsimp only
  rw [long_of_stored hdata h, ofNat_succ]
  rfl

theorem turn_reloc_end (h : Stored data (4 * i) (longBytes 0))
    : turn data firstHunk sizes (.reloc (UInt32.ofNat i) curHunk)
        = .ok (.skip, .block (UInt32.ofNat (i + 1)) curHunk) := by
  unfold turn relocTurn
  dsimp only
  rw [long_of_stored hdata h, ofNat_succ]
  rfl

/-- The hunks of a group are numbered from the first one on. -/
theorem turn_reloc_group {first target : Nat} {rcnt : UInt32}
    (h : Stored data (4 * i) (longBytes rcnt ++ longBytes (UInt32.ofNat (first + target))))
    (hrcnt : rcnt ≠ 0) (htarget : target < sizes.length) (hsizes : sizes.length ≤ 16)
    : turn data (UInt32.ofNat first) sizes (.reloc (UInt32.ofNat i) curHunk)
        = .ok (.skip, .relocEntry (UInt32.ofNat (i + 2)) curHunk (UInt32.ofNat target) rcnt) := by
  have hparts := stored_append h
  have hnumber : long data (UInt32.ofNat (i + 1)) = .ok (UInt32.ofNat (first + target)) :=
    long_of_stored hdata hparts.2
  have hrhunk : UInt32.ofNat (first + target) - UInt32.ofNat first = UInt32.ofNat target := by
    rw [UInt32.ofNat_add, add_sub_cancel_left]
  unfold turn relocTurn
  dsimp only
  rw [long_of_stored hdata hparts.1]
  show (if rcnt = 0 then _ else _) = _
  rw [if_neg hrcnt, ofNat_succ, hnumber]
  show (if sizes.length ≤ (UInt32.ofNat (first + target) - UInt32.ofNat first).toNat then _
    else _) = _
  rw [hrhunk, toNat_index (by omega), if_neg (by omega), ofNat_succ]
  rfl

omit hdata in
theorem turn_relocEntry_end {rhunk : UInt32}
    : turn data firstHunk sizes (.relocEntry (UInt32.ofNat i) curHunk rhunk 0)
        = .ok (.skip, .reloc (UInt32.ofNat i) curHunk) :=
  rfl

omit hdata in
/-- An offset that is inside the hunk passes the check. -/
theorem offset_inside {size offs : UInt32} (h : offs.toNat + 4 ≤ 4 * size.toNat)
    (hsize : size.toNat < 2 ^ 30)
    : ¬size * 4 ≤ offs := by
  have hfour : (4 : UInt32).toNat = 4 := rfl
  rw [UInt32.le_iff_toNat_le, UInt32.toNat_mul, hfour]
  omega

theorem turn_relocEntry {rhunk offs : UInt32} {n : Nat}
    (h : Stored data (4 * i) (longBytes offs)) (hn : n + 1 < 2 ^ 32)
    (hinside : offs.toNat + 4 ≤ 4 * (hunkSize sizes (relocated curHunk)).toNat)
    (hsize : (hunkSize sizes (relocated curHunk)).toNat < 2 ^ 30)
    : turn data firstHunk sizes (.relocEntry (UInt32.ofNat i) curHunk rhunk (UInt32.ofNat (n + 1)))
        = .ok (.relocate (relocated curHunk) offs rhunk,
            .relocEntry (UInt32.ofNat (i + 1)) curHunk rhunk (UInt32.ofNat n)) := by
  have hleft : UInt32.ofNat (n + 1) ≠ 0 := by
    intro heq
    have hzero : (UInt32.ofNat (n + 1)).toNat = 0 := by
      rw [heq]
      rfl
    rw [toNat_index hn] at hzero
    contradiction
  have hless : UInt32.ofNat (n + 1) - 1 = UInt32.ofNat n := by
    rw [← ofNat_succ, add_sub_cancel_right]
  unfold turn relocEntryTurn
  dsimp only
  rw [if_neg hleft, long_of_stored hdata h]
  show (if hunkSize sizes (relocated curHunk) * 4 ≤ offs then _ else _) = _
  rw [if_neg (offset_inside hinside hsize), hless, ofNat_succ]
  rfl

theorem turn_short_end {c : Nat} (h : Stored data (4 * i + c) (wordBytes 0)) (hi : 1 ≤ i)
    : turn data firstHunk sizes (.short (UInt32.ofNat i) (UInt32.ofNat c) curHunk)
        = .ok (.skip, .block (UInt32.ofNat (i + (c + 5) / 4)) curHunk) := by
  have hinside := stored_length_of_ne h (by simp)
  rw [length_wordBytes] at hinside
  have hround : (UInt32.ofNat c + 2 + 3) / 4 = UInt32.ofNat ((c + 5) / 4) := by
    have hsum : UInt32.ofNat c + 2 + 3 = UInt32.ofNat (c + 5) := by
      rw [UInt32.add_assoc]
      exact (UInt32.ofNat_add c 5).symm
    have hfour : (4 : UInt32).toNat = 4 := rfl
    apply UInt32.toNat_inj.mp
    rw [hsum, UInt32.toNat_div, toNat_index (by omega), toNat_index (by omega), hfour]
  unfold turn shortTurn
  dsimp only
  rw [shortWord_of_stored hdata h, UInt32.ofNat_add, ← hround]
  rfl

theorem turn_short_group {first target c : Nat} {rcnt : UInt16}
    (h : Stored data (4 * i + c) (wordBytes rcnt ++ wordBytes (UInt16.ofNat (first + target))))
    (hrcnt : rcnt ≠ 0) (htarget : target < sizes.length) (hsizes : sizes.length ≤ 16)
    : turn data (UInt32.ofNat first) sizes (.short (UInt32.ofNat i) (UInt32.ofNat c) curHunk)
        = .ok (.skip, .shortEntry (UInt32.ofNat i) (UInt32.ofNat (c + 4)) curHunk
            (UInt16.ofNat target) rcnt) := by
  have hparts := stored_append h
  have hnumber : shortWord data (UInt32.ofNat i) (UInt32.ofNat (c + 2))
      = .ok (UInt16.ofNat (first + target)) :=
    shortWord_of_stored hdata hparts.2
  have hrhunk : UInt16.ofNat (first + target) - (UInt32.ofNat first).toUInt16
      = UInt16.ofNat target := by
    rw [UInt32.toUInt16_ofNat', UInt16.ofNat_add, add_sub_cancel_left]
  have hfew : (UInt16.ofNat target).toNat = target :=
    UInt16.toNat_ofNat_of_lt' (Nat.lt_of_lt_of_le htarget (Nat.le_trans hsizes (by decide)))
  have htwo : UInt32.ofNat c + 2 = UInt32.ofNat (c + 2) := (UInt32.ofNat_add c 2).symm
  have hfour : UInt32.ofNat (c + 2) + 2 = UInt32.ofNat (c + 4) := (UInt32.ofNat_add (c + 2) 2).symm
  unfold turn shortTurn
  dsimp only
  rw [shortWord_of_stored hdata hparts.1]
  show (if rcnt = 0 then _ else _) = _
  rw [if_neg hrcnt, htwo, hnumber]
  show (if sizes.length ≤ (UInt16.ofNat (first + target) - (UInt32.ofNat first).toUInt16).toNat
    then _ else _) = _
  rw [hrhunk, hfew, if_neg (by omega), hfour]
  rfl

omit hdata in
theorem turn_shortEntry_end {c : UInt32} {rhunk : UInt16}
    : turn data firstHunk sizes (.shortEntry (UInt32.ofNat i) c curHunk rhunk 0)
        = .ok (.skip, .short (UInt32.ofNat i) c curHunk) :=
  rfl

theorem turn_shortEntry {c n : Nat} {rhunk offs : UInt16}
    (h : Stored data (4 * i + c) (wordBytes offs)) (hn : n + 1 < 2 ^ 16)
    (hinside : offs.toNat + 4 ≤ 4 * (hunkSize sizes (relocated curHunk)).toNat)
    (hsize : (hunkSize sizes (relocated curHunk)).toNat < 2 ^ 30)
    : turn data firstHunk sizes
          (.shortEntry (UInt32.ofNat i) (UInt32.ofNat c) curHunk rhunk (UInt16.ofNat (n + 1)))
        = .ok (.relocate (relocated curHunk) offs.toUInt32 rhunk.toUInt32,
            .shortEntry (UInt32.ofNat i) (UInt32.ofNat (c + 2)) curHunk rhunk (UInt16.ofNat n)) := by
  have hleft : UInt16.ofNat (n + 1) ≠ 0 := by
    intro heq
    have hzero : (UInt16.ofNat (n + 1)).toNat = 0 := by
      rw [heq]
      rfl
    rw [UInt16.toNat_ofNat_of_lt' hn] at hzero
    contradiction
  have hless : UInt16.ofNat (n + 1) - 1 = UInt16.ofNat n := by
    rw [UInt16.ofNat_add]
    exact add_sub_cancel_right _ _
  have htwo : UInt32.ofNat c + 2 = UInt32.ofNat (c + 2) := (UInt32.ofNat_add c 2).symm
  have hfits : ¬hunkSize sizes (relocated curHunk) * 4 ≤ offs.toUInt32 := by
    apply offset_inside _ hsize
    rw [UInt16.toNat_toUInt32]
    exact hinside
  unfold turn shortEntryTurn
  dsimp only
  rw [if_neg hleft, shortWord_of_stored hdata h]
  show (if hunkSize sizes (relocated curHunk) * 4 ≤ offs.toUInt32 then _ else _) = _
  rw [if_neg hfits, hless, htwo]
  rfl

end Blocks

end ZZSd
