import ZZ9000.SdBoot.HunkWay

/-!
This module contains the way of `fsrelocate_simple` through whole blocks and hunks of a load file.
-/

namespace ZZSd

open Machines
open Streams

/-- What is done for a relocation of the hunk `c`. -/
def entryAction (c : UInt32) (entry : Nat × Nat) : HunkAction :=
  .relocate c (UInt32.ofNat entry.1) (UInt32.ofNat entry.2)

section Groups

variable {data : List UInt8} {sizes : List UInt32} {curHunk : UInt32} {first i c : Nat}
  (hdata : data.length < 2 ^ 32) (hsizes : sizes.length ≤ 16)
  (hsize : (hunkSize sizes (relocated curHunk)).toNat < 2 ^ 30)

include hdata hsize

theorem goes_relocEntries {target : Nat} {offsets : List UInt32}
    (h : Stored data (4 * i) (offsets.flatMap longBytes)) (hi : 4 * i ≤ data.length)
    (hinside : ∀ offset ∈ offsets,
      offset.toNat + 4 ≤ 4 * (hunkSize sizes (relocated curHunk)).toNat)
    : Goes data (UInt32.ofNat first) sizes
        (.relocEntry (UInt32.ofNat i) curHunk (UInt32.ofNat target) (UInt32.ofNat offsets.length))
        (offsets.map fun offset => entryAction (relocated curHunk) (offset.toNat, target))
        (.reloc (UInt32.ofNat (i + offsets.length)) curHunk) := by
  induction offsets generalizing i with
  | nil => exact goes_skip turn_relocEntry_end
  | cons offset offsets ih =>
    rw [List.forall_mem_cons] at hinside
    have hall := stored_length h hi
    rw [length_flatMap_longBytes, List.length_cons] at hall
    have hparts := stored_append h
    have hturn : turn data (UInt32.ofNat first) sizes
        (.relocEntry (UInt32.ofNat i) curHunk (UInt32.ofNat target)
          (UInt32.ofNat (offsets.length + 1))) = _ :=
      turn_relocEntry hdata hparts.1 (by omega) hinside.1 hsize
    have hrest := ih (i := i + 1) hparts.2 (by omega) hinside.2
    have haction : HunkAction.relocate (relocated curHunk) offset (UInt32.ofNat target)
        = entryAction (relocated curHunk) (offset.toNat, target) := by
      unfold entryAction
      rw [UInt32.ofNat_toNat]
    rw [haction] at hturn
    rw [List.length_cons, List.map_cons, Nat.add_comm offsets.length 1, ← Nat.add_assoc]
    rw [Nat.add_comm 1 offsets.length]
    exact goes_trans (goes_turn hturn nofun) hrest

theorem goes_shortEntries {target : Nat} {offsets : List UInt16} (htarget : target < 2 ^ 16)
    (h : Stored data (4 * i + c) (offsets.flatMap wordBytes)) (hlength : offsets.length < 2 ^ 16)
    (hinside : ∀ offset ∈ offsets,
      offset.toNat + 4 ≤ 4 * (hunkSize sizes (relocated curHunk)).toNat)
    : Goes data (UInt32.ofNat first) sizes
        (.shortEntry (UInt32.ofNat i) (UInt32.ofNat c) curHunk (UInt16.ofNat target)
          (UInt16.ofNat offsets.length))
        (offsets.map fun offset => entryAction (relocated curHunk) (offset.toNat, target))
        (.short (UInt32.ofNat i) (UInt32.ofNat (c + 2 * offsets.length)) curHunk) := by
  induction offsets generalizing c with
  | nil => exact goes_skip turn_shortEntry_end
  | cons offset offsets ih =>
    rw [List.forall_mem_cons] at hinside
    rw [List.length_cons] at hlength
    have hparts := stored_append h
    have hturn : turn data (UInt32.ofNat first) sizes
        (.shortEntry (UInt32.ofNat i) (UInt32.ofNat c) curHunk (UInt16.ofNat target)
          (UInt16.ofNat (offsets.length + 1))) = _ :=
      turn_shortEntry hdata hparts.1 hlength hinside.1 hsize
    have hrest := ih (c := c + 2) hparts.2 (by omega) hinside.2
    have haction : HunkAction.relocate (relocated curHunk) offset.toUInt32
          (UInt16.ofNat target).toUInt32
        = entryAction (relocated curHunk) (offset.toNat, target) := by
      have hoffset : offset.toUInt32 = UInt32.ofNat offset.toNat := by
        apply UInt32.toNat_inj.mp
        have hlt := offset.toNat_lt
        rw [UInt16.toNat_toUInt32, toNat_index (by omega)]
      unfold entryAction
      rw [UInt16.toUInt32_ofNat' htarget, hoffset]
    rw [haction] at hturn
    have hplace : c + 2 + 2 * offsets.length = c + 2 * (offsets.length + 1) := by omega
    rw [hplace] at hrest
    exact goes_trans (goes_turn hturn nofun) hrest

include hsizes

theorem goes_relocGroups {groups : List (RelocGroup UInt32)}
    (h : Stored data (4 * i) (groups.flatMap (RelocGroup.bytes32 first) ++ longBytes 0))
    (hgroups : ∀ group ∈ groups, group.WellFormed UInt32.toNat
      (hunkSize sizes (relocated curHunk)).toNat sizes.length)
    : ∃ j, 4 * j = 4 * i + (groups.flatMap (RelocGroup.bytes32 first) ++ longBytes 0).length
        ∧ Goes data (UInt32.ofNat first) sizes (.reloc (UInt32.ofNat i) curHunk)
            ((groups.flatMap (RelocGroup.entries UInt32.toNat)).map
              (entryAction (relocated curHunk)))
            (.block (UInt32.ofNat j) curHunk) := by
  induction groups generalizing i with
  | nil => exact ⟨i + 1, rfl, goes_skip (turn_reloc_end hdata h)⟩
  | cons group groups ih =>
    rw [List.forall_mem_cons] at hgroups
    rw [List.flatMap_cons, List.append_assoc] at h ⊢
    have hparts := stored_append h
    have hgroup := stored_append hparts.1
    have hoffsets : Stored data (4 * (i + 2)) (group.offsets.flatMap longBytes) := hgroup.2
    have hinside := stored_length_of_ne hgroup.1 (by simp)
    rw [List.length_append, length_longBytes, length_longBytes] at hinside
    -- the number of offsets does not wrap, as they are all in the file
    have hend := stored_length hoffsets (by omega)
    rw [length_flatMap_longBytes] at hend
    have hne : UInt32.ofNat group.offsets.length ≠ 0 := by
      intro heq
      have hzero : (UInt32.ofNat group.offsets.length).toNat = 0 := by
        rw [heq]
        rfl
      rw [toNat_index (by omega)] at hzero
      exact hgroups.1.some_ (List.length_eq_zero_iff.mp hzero)
    have hlength : (group.bytes32 first).length = 4 * (2 + group.offsets.length) := by
      unfold RelocGroup.bytes32
      rw [List.length_append, List.length_append, length_flatMap_longBytes, length_longBytes,
        length_longBytes]
      omega
    have hturn : turn data (UInt32.ofNat first) sizes (.reloc (UInt32.ofNat i) curHunk) = _ :=
      turn_reloc_group hdata hgroup.1 hne hgroups.1.target hsizes
    have hentries : Goes data (UInt32.ofNat first) sizes (.relocEntry (UInt32.ofNat (i + 2)) curHunk
          (UInt32.ofNat group.target) (UInt32.ofNat group.offsets.length)) _ _ :=
      goes_relocEntries hdata hsize hoffsets (by omega) hgroups.1.inside
    have hnext := hparts.2
    have hplace : 4 * i + (group.bytes32 first).length = 4 * (i + 2 + group.offsets.length) := by
      omega
    rw [hplace] at hnext
    obtain ⟨j, hj, hrest⟩ := ih hnext hgroups.2
    refine ⟨j, ?_, ?_⟩
    . rw [List.length_append, hj]
      omega
    . rw [List.flatMap_cons, List.map_append]
      apply goes_skip_trans hturn
      refine goes_trans ?_ hrest
      unfold RelocGroup.entries
      rw [List.map_map]
      exact hentries

theorem goes_shortGroups {groups : List (RelocGroup UInt16)} (hi : 1 ≤ i)
    (h : Stored data (4 * i + c) (shortBytes first groups))
    (hgroups : ∀ group ∈ groups, group.WellFormed UInt16.toNat
      (hunkSize sizes (relocated curHunk)).toNat sizes.length ∧ group.offsets.length < 2 ^ 16)
    : Goes data (UInt32.ofNat first) sizes (.short (UInt32.ofNat i) (UInt32.ofNat c) curHunk)
        ((groups.flatMap (RelocGroup.entries UInt16.toNat)).map (entryAction (relocated curHunk)))
        (.block (UInt32.ofNat (i + (c + (shortBytes first groups).length + 3) / 4)) curHunk) := by
  induction groups generalizing c with
  | nil => exact goes_skip (turn_short_end hdata h hi)
  | cons group groups ih =>
    rw [List.forall_mem_cons] at hgroups
    have hbytes : shortBytes first (group :: groups)
        = group.bytes16 first ++ shortBytes first groups := by
      unfold shortBytes
      rw [List.flatMap_cons, List.append_assoc]
    rw [hbytes] at h ⊢
    have hparts := stored_append h
    have hgroup := stored_append hparts.1
    have hoffsets : Stored data (4 * i + (c + 4)) (group.offsets.flatMap wordBytes) := hgroup.2
    have hne : UInt16.ofNat group.offsets.length ≠ 0 := by
      intro heq
      have hzero : (UInt16.ofNat group.offsets.length).toNat = 0 := by
        rw [heq]
        rfl
      rw [UInt16.toNat_ofNat_of_lt' hgroups.1.2] at hzero
      exact hgroups.1.1.some_ (List.length_eq_zero_iff.mp hzero)
    have hlength : (group.bytes16 first).length = 4 + 2 * group.offsets.length := by
      unfold RelocGroup.bytes16
      rw [List.length_append, List.length_append, length_flatMap_wordBytes, length_wordBytes,
        length_wordBytes]
    have htarget := hgroups.1.1.target
    have hturn : turn data (UInt32.ofNat first) sizes
        (.short (UInt32.ofNat i) (UInt32.ofNat c) curHunk) = _ :=
      turn_short_group hdata hgroup.1 hne htarget hsizes
    have hentries : Goes data (UInt32.ofNat first) sizes (.shortEntry (UInt32.ofNat i)
          (UInt32.ofNat (c + 4)) curHunk (UInt16.ofNat group.target)
          (UInt16.ofNat group.offsets.length)) _ _ :=
      goes_shortEntries hdata hsize (by omega) hoffsets hgroups.1.2 hgroups.1.1.inside
    have hnext := hparts.2
    have hplace : 4 * i + c + (group.bytes16 first).length
        = 4 * i + (c + 4 + 2 * group.offsets.length) := by
      omega
    rw [hplace] at hnext
    have hrest := ih hnext hgroups.2
    have hend : c + (group.bytes16 first ++ shortBytes first groups).length
        = c + 4 + 2 * group.offsets.length + (shortBytes first groups).length := by
      rw [List.length_append]
      omega
    rw [hend, List.flatMap_cons, List.map_append]
    apply goes_skip_trans hturn
    refine goes_trans ?_ hrest
    unfold RelocGroup.entries
    rw [List.map_map]
    exact hentries

end Groups

/-- What is done for the content of the hunk `c`. -/
def LoadContent.actions (c : UInt32) (content : LoadContent) : List HunkAction :=
  match content with
  | .code ls => [.copy c (ls.flatMap longBytes)]
  | .data ls => [.copy c (ls.flatMap longBytes)]
  | .bss _ => []

/-- What is done for the hunk `c`. -/
def LoadHunk.actions (c : UInt32) (hunk : LoadHunk) : List HunkAction :=
  hunk.content.actions c ++ (hunk.parts.flatMap LoadPart.entries).map (entryAction c)

/-- The way through some bytes, wherever they are behind the header. -/
def Crosses (data : List UInt8) (first : Nat) (sizes : List UInt32) (bytes : List UInt8)
    (curHunk : UInt32) (actions : List HunkAction) (curHunk' : UInt32) : Prop :=
  ∀ i, 1 ≤ i → 4 * i ≤ data.length → Stored data (4 * i) bytes →
    ∃ j, 4 * j = 4 * i + bytes.length
      ∧ Goes data (UInt32.ofNat first) sizes (.block (UInt32.ofNat i) curHunk) actions
          (.block (UInt32.ofNat j) curHunk')

section Crosses

variable {data bytes bytes' : List UInt8} {first : Nat} {sizes : List UInt32}
  {curHunk curHunk' curHunk'' : UInt32} {actions actions' : List HunkAction}

theorem crosses_nil : Crosses data first sizes [] curHunk [] curHunk :=
  fun i _ _ _ => ⟨i, rfl, goes_here _⟩

theorem crosses_append (h : Crosses data first sizes bytes curHunk actions curHunk')
    (h' : Crosses data first sizes bytes' curHunk' actions' curHunk'')
    : Crosses data first sizes (bytes ++ bytes') curHunk (actions ++ actions') curHunk'' := by
  intro i hi hlength hstored
  have hparts := stored_append hstored
  have hend := stored_length hparts.1 hlength
  obtain ⟨j, hj, hgoes⟩ := h i hi hlength hparts.1
  rw [← hj] at hparts hend
  obtain ⟨k, hk, hgoes'⟩ := h' j (by omega) hend hparts.2
  refine ⟨k, ?_, goes_trans hgoes hgoes'⟩
  rw [hk, hj, List.length_append]
  omega

theorem crosses_flatMap {α : Type} {encode : α → List UInt8} {act : α → List HunkAction}
    {xs : List α} (h : ∀ x ∈ xs, Crosses data first sizes (encode x) curHunk (act x) curHunk)
    : Crosses data first sizes (xs.flatMap encode) curHunk (xs.flatMap act) curHunk := by
  induction xs with
  | nil => exact crosses_nil
  | cons x xs ih =>
    rw [List.forall_mem_cons] at h
    rw [List.flatMap_cons, List.flatMap_cons]
    exact crosses_append h.1 (ih h.2)

variable (hdata : data.length < 2 ^ 32)

include hdata

theorem goes_symbols {symbols : List LoadSymbol} {i : Nat}
    (h : Stored data (4 * i) (symbols.flatMap LoadSymbol.bytes ++ longBytes 0))
    (hsymbols : ∀ symbol ∈ symbols, symbol.WellFormed)
    : ∃ j, 4 * j = 4 * i + (symbols.flatMap LoadSymbol.bytes ++ longBytes 0).length
        ∧ Goes data (UInt32.ofNat first) sizes (.symbol (UInt32.ofNat i) curHunk) []
            (.block (UInt32.ofNat j) curHunk) := by
  induction symbols generalizing i with
  | nil => exact ⟨i + 1, rfl, goes_skip (turn_symbol_end hdata h)⟩
  | cons symbol symbols ih =>
    rw [List.forall_mem_cons] at hsymbols
    rw [List.flatMap_cons, List.append_assoc] at h ⊢
    have hparts := stored_append h
    have hhead := (stored_append (stored_append hparts.1).1).1
    obtain ⟨hne, hname⟩ := head_of_wellFormed hsymbols.1
    have hlength : symbol.bytes.length = 4 * (2 + symbol.name.length) := by
      unfold LoadSymbol.bytes
      rw [List.length_append, List.length_append, length_flatMap_longBytes, length_longBytes,
        length_longBytes]
      omega
    have hplace : 4 * i + symbol.bytes.length = 4 * (i + 2 + symbol.name.length) := by
      omega
    have hnext := hparts.2
    rw [hplace] at hnext
    obtain ⟨j, hj, hrest⟩ := ih hnext hsymbols.2
    refine ⟨j, ?_, goes_skip_trans (turn_symbol_name hdata hhead hne hname) hrest⟩
    rw [List.length_append, hj]
    omega

theorem crosses_note {note : LoadNote} (h : note.WellFormed)
    : Crosses data first sizes note.bytes curHunk [] curHunk := by
  intro i hi hlength hstored
  cases note with
  | symbol symbols =>
    have hbytes : (LoadNote.symbol symbols).bytes
        = longBytes hunkSymbol ++ (symbols.flatMap LoadSymbol.bytes ++ longBytes 0) :=
      List.append_assoc _ _ _
    rw [hbytes] at hstored ⊢
    have hparts := stored_append hstored
    have hsymbols : ∃ j, 4 * j = 4 * (i + 1) + _ ∧ Goes data (UInt32.ofNat first) sizes
        (.symbol (UInt32.ofNat (i + 1)) curHunk) [] (.block (UInt32.ofNat j) curHunk) :=
      goes_symbols hdata hparts.2 h
    obtain ⟨j, hj, hgoes⟩ := hsymbols
    refine ⟨j, ?_, goes_skip_trans (turn_symbol hdata hparts.1) hgoes⟩
    rw [List.length_append, length_longBytes, hj]
    omega
  | debug ls =>
    refine ⟨i + 2 + ls.length, ?_, goes_skip (turn_counted hdata hstored (Or.inl rfl))⟩
    show _ = 4 * i + (longBytes hunkDebug ++ countedBytes ls).length
    rw [List.length_append, length_longBytes, length_countedBytes]
    omega
  | name ls =>
    refine ⟨i + 2 + ls.length, ?_, goes_skip (turn_counted hdata hstored (Or.inr rfl))⟩
    show _ = 4 * i + (longBytes hunkName ++ countedBytes ls).length
    rw [List.length_append, length_longBytes, length_countedBytes]
    omega

omit hdata in
theorem length_shortBytes (groups : List (RelocGroup UInt16))
    : (shortBytes first groups).length % 2 = 0 := by
  unfold shortBytes
  rw [List.length_append, length_wordBytes]
  induction groups with
  | nil =>
    rw [List.flatMap_nil, List.length_nil]
  | cons group groups ih =>
    rw [List.flatMap_cons, List.length_append]
    unfold RelocGroup.bytes16
    rw [List.length_append, List.length_append, length_flatMap_wordBytes, length_wordBytes,
      length_wordBytes]
    unfold RelocGroup.bytes16 at ih
    omega

omit hdata in
theorem stored_of_padded {p : Nat} {padding : UInt16} (h : Stored data p (padded bytes padding))
    : Stored data p bytes := by
  unfold padded at h
  split at h
  . exact h
  . exact (stored_append h).1

omit hdata in
theorem length_padded {padding : UInt16} (heven : bytes.length % 2 = 0)
    : (padded bytes padding).length = 4 * ((bytes.length + 3) / 4) := by
  unfold padded
  split
  . omega
  . rw [List.length_append, length_wordBytes]
    omega

variable (hsizes : sizes.length ≤ 16)

include hsizes

theorem crosses_part {part : LoadPart}
    (h : part.WellFormed (hunkSize sizes (relocated curHunk)).toNat sizes.length)
    (hsize : (hunkSize sizes (relocated curHunk)).toNat < 2 ^ 30)
    : Crosses data first sizes (part.bytes first) curHunk
        (part.entries.map (entryAction (relocated curHunk))) curHunk := by
  cases part with
  | note note => exact crosses_note hdata h
  | reloc32 groups =>
    intro i hi hlength hstored
    have hbytes : (LoadPart.reloc32 groups).bytes first
        = longBytes hunkReloc32
          ++ (groups.flatMap (RelocGroup.bytes32 first) ++ longBytes 0) :=
      List.append_assoc _ _ _
    rw [hbytes] at hstored ⊢
    have hparts := stored_append hstored
    have hgroups : Stored data (4 * (i + 1)) _ := hparts.2
    obtain ⟨j, hj, hgoes⟩ := goes_relocGroups hdata hsizes hsize hgroups h
    refine ⟨j, ?_, goes_skip_trans (turn_reloc32 hdata hparts.1) hgoes⟩
    rw [List.length_append, length_longBytes, hj]
    omega
  | short drel groups padding =>
    intro i hi hlength hstored
    have hparts := stored_append hstored
    have hshort : Stored data (4 * (i + 1) + 0) (shortBytes first groups) :=
      stored_of_padded hparts.2
    have hgoes := goes_shortGroups hdata hsizes hsize (by omega) hshort h
    refine ⟨_, ?_, goes_skip_trans (turn_short hdata hparts.1 ?_) hgoes⟩
    . show _ = 4 * i + (longBytes _ ++ padded (shortBytes first groups) padding).length
      rw [List.length_append, length_longBytes, length_padded (length_shortBytes groups)]
      omega
    . cases drel with
      | true => exact Or.inr rfl
      | false => exact Or.inl rfl

omit hdata hsizes in
/-- The relocations of a hunk come after its content. -/
theorem relocated_succ {c : Nat} (hc : c < 16)
    : relocated (UInt32.ofNat (c + 1)) = UInt32.ofNat c := by
  have hpos : 0 < UInt32.ofNat (c + 1) := by
    rw [UInt32.lt_iff_toNat_lt, toNat_index (by omega)]
    exact Nat.succ_pos c
  unfold relocated
  rw [if_pos hpos, ← ofNat_succ, add_sub_cancel_right]

omit hsizes in
theorem crosses_content {content : LoadContent} (hcur : curHunk.toNat < sizes.length)
    (h : content.length ≤ (hunkSize sizes curHunk).toNat)
    : Crosses data first sizes content.bytes curHunk (content.actions curHunk) (curHunk + 1) := by
  intro i hi hlength hstored
  cases content with
  | code ls =>
    refine ⟨i + 2 + ls.length, ?_,
      goes_turn (turn_content hdata hstored (Or.inl rfl) hcur h) nofun⟩
    show _ = 4 * i + (longBytes hunkCode ++ countedBytes ls).length
    rw [List.length_append, length_longBytes, length_countedBytes]
    omega
  | data ls =>
    refine ⟨i + 2 + ls.length, ?_,
      goes_turn (turn_content hdata hstored (Or.inr rfl) hcur h) nofun⟩
    show _ = 4 * i + (longBytes hunkData ++ countedBytes ls).length
    rw [List.length_append, length_longBytes, length_countedBytes]
    omega
  | bss size =>
    refine ⟨i + 2, ?_, goes_skip (turn_bss hdata hstored hcur)⟩
    show _ = 4 * i + (longBytes hunkBss ++ longBytes size).length
    rw [List.length_append, length_longBytes, length_longBytes]
    omega

/-- The hunk `c` up to its end. -/
theorem crosses_body {hunk : LoadHunk} {c : Nat} (h : hunk.WellFormed sizes.length)
    (hc : c < sizes.length) (hsize : hunkSize sizes (UInt32.ofNat c) = UInt32.ofNat hunk.size)
    : Crosses data first sizes (hunk.body first) (UInt32.ofNat c) (hunk.actions (UInt32.ofNat c))
        (UInt32.ofNat (c + 1)) := by
  have hlt := h.size
  have htoNat : (hunkSize sizes (UInt32.ofNat c)).toNat = hunk.size := by
    rw [hsize, toNat_index (by omega)]
  have hcur : (UInt32.ofNat c).toNat = c := toNat_index (by omega)
  have hlast := relocated_succ (c := c) (by omega)
  have hbefore : Crosses data first sizes (hunk.before.flatMap LoadNote.bytes) (UInt32.ofNat c)
      (hunk.before.flatMap fun _ => []) (UInt32.ofNat c) := by
    apply crosses_flatMap
    intro note hnote
    exact crosses_note hdata (h.before note hnote)
  have hcontent : Crosses data first sizes hunk.content.bytes (UInt32.ofNat c)
      (hunk.content.actions (UInt32.ofNat c)) (UInt32.ofNat c + 1) := by
    apply crosses_content hdata
    . omega
    . rw [htoNat]
      exact h.content
  -- the content has moved on to the hunk `c + 1`, the relocations go back by one
  have hparts : Crosses data first sizes (hunk.parts.flatMap (LoadPart.bytes first))
      (UInt32.ofNat (c + 1))
      (hunk.parts.flatMap fun part => part.entries.map (entryAction (UInt32.ofNat c)))
      (UInt32.ofNat (c + 1)) := by
    apply crosses_flatMap
    intro part hpart
    have hwell := h.parts part hpart
    rw [← htoNat, ← hlast] at hwell
    rw [← hlast]
    apply crosses_part hdata hsizes hwell
    rw [hlast, htoNat]
    exact hlt
  have hnothing : (hunk.before.flatMap fun _ => ([] : List HunkAction)) = [] :=
    List.flatMap_eq_nil_iff.mpr (fun _ _ => rfl)
  rw [hnothing] at hbefore
  rw [ofNat_succ] at hcontent
  have hall := crosses_append (crosses_append hbefore hcontent) hparts
  rw [List.nil_append] at hall
  unfold LoadHunk.actions
  rw [List.map_flatMap]
  exact hall

/-- What is done for the hunks from `c` on. -/
def hunkActions (c : Nat) (hunks : List LoadHunk) : List HunkAction :=
  match hunks with
  | [] => []
  | hunk :: hunks => hunk.actions (UInt32.ofNat c) ++ hunkActions (c + 1) hunks

/-- The end of the last hunk is the end of the way. -/
theorem goes_hunks {hunks : List LoadHunk} {c i : Nat} (hi : 1 ≤ i) (hlength : 4 * i ≤ data.length)
    (h : Stored data (4 * i) (hunks.flatMap (LoadHunk.bytes first)))
    (hunksWell : ∀ k hunk, hunks[k]? = some hunk → hunk.WellFormed sizes.length
      ∧ hunkSize sizes (UInt32.ofNat (c + k)) = UInt32.ofNat hunk.size)
    (hcount : c + hunks.length = sizes.length) (hsome : hunks ≠ [])
    : ∃ place, Goes data (UInt32.ofNat first) sizes (.block (UInt32.ofNat i) (UInt32.ofNat c))
          (hunkActions c hunks) place
        ∧ next data (UInt32.ofNat first) sizes place = .stops .finished := by
  induction hunks generalizing c i with
  | nil => contradiction
  | cons hunk hunks ih =>
    rw [List.length_cons] at hcount
    obtain ⟨hwell, hsize⟩ := hunksWell 0 hunk rfl
    rw [List.flatMap_cons, LoadHunk.bytes, List.append_assoc] at h
    have hparts := stored_append h
    have hend := stored_append hparts.2
    have hinside := stored_length hparts.1 hlength
    obtain ⟨j, hj, hgoes⟩ := crosses_body hdata hsizes hwell (by omega) hsize i hi hlength hparts.1
    rw [← hj] at hend hinside
    have hcur : (UInt32.ofNat (c + 1)).toNat = c + 1 := toNat_index (by omega)
    cases hunks with
    | nil =>
      -- all hunks have their content, so the loop ends at this `HUNK_END`
      rw [List.length_nil] at hcount
      refine ⟨.block (UInt32.ofNat j) (UInt32.ofNat (c + 1)), ?_, ?_⟩
      . show Goes _ _ _ _ (hunk.actions (UInt32.ofNat c) ++ []) _
        rw [List.append_nil]
        exact hgoes
      . exact next_end hdata hend.1 (by omega)
    | cons after hunks =>
      rw [List.length_cons] at hcount
      have hturn : turn data (UInt32.ofNat first) sizes
          (.block (UInt32.ofNat j) (UInt32.ofNat (c + 1))) = _ :=
        turn_end hdata hend.1 (by omega)
      have hlast := stored_length hend.1 hinside
      rw [length_longBytes] at hlast
      have hnext : Stored data (4 * (j + 1)) ((after :: hunks).flatMap (LoadHunk.bytes first)) :=
        hend.2
      obtain ⟨place, hrest, hstops⟩ := ih (c := c + 1) (i := j + 1) (by omega) (by omega) hnext
        (by
          intro k other hother
          have hthis := hunksWell (k + 1) other hother
          rw [Nat.add_assoc, Nat.add_comm 1 k]
          exact hthis)
        (by
          rw [List.length_cons]
          omega)
        (List.cons_ne_nil after hunks)
      exact ⟨place, goes_trans hgoes (goes_skip_trans hturn hrest), hstops⟩

end Crosses

end ZZSd
