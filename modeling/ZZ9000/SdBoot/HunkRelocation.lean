import ZZ9000.SdBoot.HunkBlocks
import ZZ9000.SdBoot.HunkImages

/-!
This module contains the correctness of `fsrelocate_simple` for the load files.
-/

namespace ZZSd

open Machines
open Streams

section Images

variable {base : Nat → UInt32} {images : Nat → Nat → UInt8} {c count : Nat}

theorem imagesAfter_append (actions actions' : List HunkAction)
    : imagesAfter base images (actions ++ actions')
        = imagesAfter base (imagesAfter base images actions) actions' :=
  List.foldl_append

theorem imagesAfter_entries {entries : List (Nat × Nat)} (hc : c < 16)
    (hentries : ∀ entry ∈ entries, entry.1 < 2 ^ 32 ∧ entry.2 < 2 ^ 32)
    : imagesAfter base images (entries.map (entryAction (UInt32.ofNat c)))
        = Function.update images c (entries.foldl
            (fun image entry => relocateAt image entry.1 (base entry.2)) (images c)) := by
  induction entries generalizing images with
  | nil => exact (Function.update_eq_self c images).symm
  | cons entry entries ih =>
    rw [List.forall_mem_cons] at hentries
    have hfirst : (entryAction (UInt32.ofNat c) entry).onImages base images
        = Function.update images c (relocateAt (images c) entry.1 (base entry.2)) := by
      unfold entryAction HunkAction.onImages
      dsimp only
      rw [toNat_index (by omega), toNat_index hentries.1.1, toNat_index hentries.1.2]
    rw [List.map_cons]
    show imagesAfter base ((entryAction (UInt32.ofNat c) entry).onImages base images) _ = _
    rw [hfirst, ih hentries.2, Function.update_idem, Function.update_self]
    rfl

theorem store_blank (bytes : List UInt8)
    : store (fun _ => (0 : UInt8)) 0 bytes = fun i => bytes.getD i 0 := by
  funext i
  by_cases hi : i < bytes.length
  . have hcell : store (fun _ => (0 : UInt8)) 0 bytes (0 + i) = bytes[i] := store_getElem i hi
    rw [Nat.zero_add] at hcell
    rw [hcell, List.getD_eq_getElem?_getD, List.getElem?_eq_getElem hi]
    rfl
  . rw [store_of_ge (by omega), List.getD_eq_getElem?_getD, List.getElem?_eq_none (by omega)]
    rfl

theorem imagesAfter_content {content : LoadContent} (hc : c < 16)
    (hblank : images c = fun _ => 0)
    : imagesAfter base images (content.actions (UInt32.ofNat c))
        = Function.update images c content.image := by
  have hcopy (bytes : List UInt8) : imagesAfter base images [.copy (UInt32.ofNat c) bytes]
      = Function.update images c (fun i => bytes.getD i 0) := by
    show (HunkAction.copy (UInt32.ofNat c) bytes).onImages base images = _
    unfold HunkAction.onImages
    dsimp only
    rw [toNat_index (by omega), hblank, store_blank]
  cases content with
  | code ls => exact hcopy _
  | data ls => exact hcopy _
  | bss size =>
    have himage : (LoadContent.bss size).image = images c := by
      rw [hblank]
      rfl
    rw [himage]
    exact (Function.update_eq_self c images).symm

/-- The relocations of a hunk are inside it and for hunks of the file. -/
theorem entries_of_wellFormed {hunk : LoadHunk} (h : hunk.WellFormed count) {entry : Nat × Nat}
    (hentry : entry ∈ hunk.parts.flatMap LoadPart.entries)
    : entry.1 + 4 ≤ 4 * hunk.size ∧ entry.2 < count := by
  obtain ⟨part, hpart, hentry⟩ := List.mem_flatMap.mp hentry
  have hwell := h.parts part hpart
  cases part with
  | note note => contradiction
  | reloc32 groups =>
    obtain ⟨group, hgroup, hentry⟩ := List.mem_flatMap.mp hentry
    obtain ⟨offset, hoffset, heq⟩ := List.mem_map.mp hentry
    rw [← heq]
    exact ⟨(hwell group hgroup).inside offset hoffset, (hwell group hgroup).target⟩
  | short drel groups padding =>
    obtain ⟨group, hgroup, hentry⟩ := List.mem_flatMap.mp hentry
    obtain ⟨offset, hoffset, heq⟩ := List.mem_map.mp hentry
    rw [← heq]
    exact ⟨(hwell group hgroup).1.inside offset hoffset, (hwell group hgroup).1.target⟩

theorem imagesAfter_hunk {hunk : LoadHunk} (hc : c < 16) (h : hunk.WellFormed count)
    (hcount : count ≤ 16) (hblank : images c = fun _ => 0)
    : imagesAfter base images (hunk.actions (UInt32.ofNat c))
        = Function.update images c (hunk.image base) := by
  have hsize := h.size
  unfold LoadHunk.actions
  rw [imagesAfter_append, imagesAfter_content hc hblank, imagesAfter_entries hc]
  . rw [Function.update_idem, Function.update_self]
    rfl
  . intro entry hentry
    have hinside := entries_of_wellFormed h hentry
    omega

theorem imagesAfter_hunks {hunks : List LoadHunk} (hc : c + hunks.length ≤ 16)
    (h : ∀ hunk ∈ hunks, hunk.WellFormed count) (hcount : count ≤ 16)
    (hblank : ∀ k, c ≤ k → images k = fun _ => 0)
    : (∀ k < c, imagesAfter base images (hunkActions c hunks) k = images k)
        ∧ ∀ k hunk, hunks[k]? = some hunk →
          imagesAfter base images (hunkActions c hunks) (c + k) = hunk.image base := by
  induction hunks generalizing c images with
  | nil =>
    refine ⟨fun _ _ => rfl, ?_⟩
    intro k hunk hget
    contradiction
  | cons hunk hunks ih =>
    rw [List.length_cons] at hc
    rw [List.forall_mem_cons] at h
    unfold hunkActions
    rw [imagesAfter_append, imagesAfter_hunk (by omega) h.1 hcount (hblank c (Nat.le_refl c))]
    have hblank' : ∀ k, c + 1 ≤ k → Function.update images c (hunk.image base) k = fun _ => 0 := by
      intro k hk
      rw [Function.update_of_ne (by omega)]
      exact hblank k (by omega)
    have hrest := ih (by omega) h.2 hblank'
    constructor
    . intro k hk
      rw [hrest.1 k (by omega), Function.update_of_ne (by omega)]
    . intro k other hget
      cases k with
      | zero =>
        have hsame : hunk = other := Option.some.inj hget
        show imagesAfter base _ (hunkActions (c + 1) hunks) c = _
        rw [hrest.1 c (by omega), Function.update_self, hsame]
      | succ k =>
        have hthis := hrest.2 k other hget
        rw [Nat.add_assoc, Nat.add_comm 1 k] at hthis
        exact hthis

end Images

section Valid

variable {hs : List Hunk}

section Hunk

variable {hunk : LoadHunk} {there : Hunk} {c : Nat} (hwell : hunk.WellFormed hs.length)
  (hthere : hs[c]? = some there) (hsize : there.size.toNat = hunk.size) (hc : c < 16)

include hwell hthere hsize hc

/-- The content is part of the hunk. -/
theorem valid_contentActions {action : HunkAction}
    (h : action ∈ hunk.content.actions (UInt32.ofNat c))
    : action.Valid hs := by
  have hlength := hwell.content
  have hcopy (ls : List UInt32) (hls : ls.length ≤ hunk.size)
      : (HunkAction.copy (UInt32.ofNat c) (ls.flatMap longBytes)).Valid hs := by
    refine ⟨there, ?_, ?_⟩
    . rw [toNat_index (by omega)]
      exact hthere
    . rw [length_flatMap_longBytes, hsize]
      omega
  cases hkind : hunk.content with
  | code ls =>
    rw [hkind] at h hlength
    rw [List.mem_singleton.mp h]
    exact hcopy ls hlength
  | data ls =>
    rw [hkind] at h hlength
    rw [List.mem_singleton.mp h]
    exact hcopy ls hlength
  | bss size =>
    rw [hkind] at h
    contradiction

/-- A relocation changes a longword of the hunk by the address of a hunk of the file. -/
theorem valid_entryAction {entry : Nat × Nat} (hfew : hs.length ≤ 16)
    (hentry : entry ∈ hunk.parts.flatMap LoadPart.entries)
    : (entryAction (UInt32.ofNat c) entry).Valid hs := by
  have hlt := hwell.size
  obtain ⟨hinside, htarget⟩ := entries_of_wellFormed hwell hentry
  refine ⟨?_, there, ?_, ?_⟩
  . rw [toNat_index (by omega)]
    exact htarget
  . rw [toNat_index (by omega)]
    exact hthere
  . rw [toNat_index (by omega), hsize]
    exact hinside

end Hunk

theorem valid_hunkActions {hunks : List LoadHunk} {c : Nat} (hfew : hs.length ≤ 16)
    (h : ∀ k hunk, hunks[k]? = some hunk → hunk.WellFormed hs.length
      ∧ ∃ there, hs[c + k]? = some there ∧ there.size.toNat = hunk.size)
    : ∀ action ∈ hunkActions c hunks, action.Valid hs := by
  induction hunks generalizing c with
  | nil => exact nofun
  | cons hunk hunks ih =>
    obtain ⟨hwell, there, hthere, hsize⟩ := h 0 hunk rfl
    have hc : c < hs.length := (List.getElem?_eq_some_iff.mp hthere).1
    intro action haction
    cases List.mem_append.mp haction with
    | inl haction =>
      cases List.mem_append.mp haction with
      | inl hcontent => exact valid_contentActions hwell hthere hsize (by omega) hcontent
      | inr hentries =>
        obtain ⟨entry, hentry, heq⟩ := List.mem_map.mp hentries
        rw [← heq]
        exact valid_entryAction hwell hthere hsize (by omega) hfew hentry
    | inr hrest =>
      apply ih _ action hrest
      intro k other hother
      have hthis := h (k + 1) other hother
      rw [Nat.add_assoc, Nat.add_comm 1 k]
      exact hthis

end Valid

section Table

variable {memory : HunkMemory} {size : Nat}

theorem word_and (memory : HunkMemory) (size : Nat) (mask : UInt32)
    : memory.word size &&& mask = UInt32.ofNat size &&& mask ||| memory.flags &&& mask :=
  UInt32.toBitVec_inj.mp BitVec.and_or_distrib_right

theorem ofNat_and_low (h : size < 2 ^ 30)
    : UInt32.ofNat size &&& 0x3fffffff = UInt32.ofNat size := by
  have hmask : (0x3fffffff : UInt32).toNat = 2 ^ 30 - 1 := rfl
  apply UInt32.toNat_inj.mp
  rw [UInt32.toNat_and, toNat_index (by omega), hmask, Nat.and_two_pow_sub_one_eq_mod]
  exact Nat.mod_eq_of_lt h

theorem flags_and (memory : HunkMemory)
    : memory.flags &&& 0x3fffffff = 0 ∧ memory.flags &&& 0xc0000000 = memory.flags := by
  cases memory with
  | any => decide
  | chip => decide
  | fast => decide
  | extra flags =>
    show (0xc0000000 : UInt32) &&& 0x3fffffff = 0 ∧ (0xc0000000 : UInt32) &&& 0xc0000000 = 0xc0000000
    decide

theorem tableSize_word (h : size < 2 ^ 30)
    : tableSize (memory.word size) = UInt32.ofNat size := by
  unfold tableSize
  rw [word_and, ofNat_and_low h, (flags_and memory).1, UInt32.or_zero]

theorem flags_word (h : size < 2 ^ 30)
    : memory.word size &&& 0xc0000000 = memory.flags := by
  have hmasks : (0x3fffffff : UInt32) &&& 0xc0000000 = 0 := rfl
  have hhigh : UInt32.ofNat size &&& 0xc0000000 = 0 := by
    rw [← ofNat_and_low h, UInt32.and_assoc, hmasks, UInt32.and_zero]
  rw [word_and, hhigh, (flags_and memory).2, UInt32.zero_or]

theorem stored_word {data : List UInt8} {p : Nat} (h : Stored data p (memory.bytes size))
    : Stored data p (longBytes (memory.word size)) := by
  cases memory with
  | any => exact h
  | chip => exact h
  | fast => exact h
  | extra flags => exact (stored_append h).1

/-- The entry of a hunk is one word, or two. -/
theorem tableNext_word (memory : HunkMemory) (h : size < 2 ^ 30) (i : Nat)
    : ∃ j, 4 * j = 4 * i + (memory.bytes size).length
        ∧ tableNext (UInt32.ofNat i) (memory.word size) = UInt32.ofNat j := by
  unfold tableNext
  rw [flags_word h]
  cases memory with
  | any => exact ⟨i + 1, rfl, ofNat_succ i⟩
  | chip => exact ⟨i + 1, rfl, ofNat_succ i⟩
  | fast => exact ⟨i + 1, rfl, ofNat_succ i⟩
  | extra flags =>
    refine ⟨i + 2, rfl, ?_⟩
    show UInt32.ofNat i + 1 + 1 = _
    rw [ofNat_succ, ofNat_succ]

end Table

section Alloc

variable {A : Allocator} {file : LoadFile} {address : Nat → Nat}

theorem getElem?_hunksAt {h : Nat} {hunk : LoadHunk} (hget : file.hunks[h]? = some hunk)
    : (file.hunksAt address)[h]?
        = some { ptr := address h + 8, size := UInt32.ofNat hunk.size } := by
  unfold LoadFile.hunksAt
  rw [List.getElem?_mapIdx, hget]
  rfl

theorem hunk_of_getElem?_hunksAt {h : Nat} {hunk : Hunk}
    (hget : (file.hunksAt address)[h]? = some hunk)
    : ∃ there, file.hunks[h]? = some there
        ∧ hunk = { ptr := address h + 8, size := UInt32.ofNat there.size } := by
  unfold LoadFile.hunksAt at hget
  rw [List.getElem?_mapIdx] at hget
  cases hthere : file.hunks[h]? with
  | none =>
    rw [hthere] at hget
    contradiction
  | some there =>
    rw [hthere] at hget
    exact ⟨there, rfl, (Option.some.inj hget).symm⟩

@[simp] theorem length_hunksAt : (file.hunksAt address).length = file.hunks.length := by
  unfold LoadFile.hunksAt
  rw [List.length_mapIdx]

variable (hfile : file.WellFormed) (hgranted : file.Granted A address)
  (hsizes : ∀ hunk ∈ file.hunks, hunk.size ≠ 0x3fffffff)

include hfile hgranted hsizes

/-- The memory of a hunk is large enough. -/
theorem size_granted {h : Nat} {hunk : LoadHunk} (hget : file.hunks[h]? = some hunk)
    : hunk.size < 0x3ffffffe := by
  have hmem := List.mem_of_getElem? hget
  have hlt := (hfile.hunks hunk hmem).size
  have hne := hsizes hunk hmem
  have havailable := (A.available _ _ _ _ (hgranted h hunk hget)).size
  have hword : tableSize (hunk.memory.word hunk.size) = UInt32.ofNat hunk.size :=
    tableSize_word hlt
  rw [← hword] at havailable
  cases size_cases havailable with
  | inl hsmall =>
    rw [hword, toNat_index (by omega)] at hsmall
    exact hsmall
  | inr hlast =>
    have hvalue : (tableSize (hunk.memory.word hunk.size)).toNat = 0x3fffffff := by
      rw [hlast]
      rfl
    rw [hword, toNat_index (by omega)] at hvalue
    contradiction

theorem placed_granted : HunksPlaced (file.hunksAt address) := by
  constructor
  . intro hunk hhunk
    obtain ⟨h, hget⟩ := List.getElem?_of_mem hhunk
    obtain ⟨there, hthere, heq⟩ := hunk_of_getElem?_hunksAt hget
    have hsize := size_granted hfile hgranted hsizes hthere
    rw [heq, toNat_index (by omega)]
    exact hsize
  . intro hunk hhunk
    obtain ⟨h, hget⟩ := List.getElem?_of_mem hhunk
    obtain ⟨there, _, heq⟩ := hunk_of_getElem?_hunksAt hget
    rw [heq]
    exact Nat.le_add_left 8 _
  . have hlater : ∀ (h h' : Nat) (hunk hunk' : Hunk), (file.hunksAt address)[h]? = some hunk →
        (file.hunksAt address)[h']? = some hunk' → h < h' → hunk'.block.apart hunk.block := by
      intro h h' hunk hunk' hget hget' hlt
      obtain ⟨there, hthere, heq⟩ := hunk_of_getElem?_hunksAt hget'
      have havailable := A.available _ _ _ _ (hgranted h' there hthere)
      have hmem : hunk.block ∈ ((file.hunksAt address).take h').map Hunk.block := by
        apply List.mem_map_of_mem
        apply List.mem_of_getElem? (i := h)
        rw [List.getElem?_take_of_lt hlt]
        exact hget
      have hapart := havailable.apart _ hmem
      rw [heq]
      exact hapart
    intro h h' hunk hunk' hget hget' hne
    cases Nat.lt_or_gt_of_ne hne with
    | inl hlt => exact (hlater h h' hunk hunk' hget hget' hlt).symm
    | inr hgt => exact hlater h' h hunk' hunk hget' hget hgt

theorem allocHunks_granted {hunks : List LoadHunk} {data : List UInt8} {c i : Nat} {s : Loader}
    (hdata : data.length < 2 ^ 32) (hdrop : file.hunks.drop c = hunks)
    (hstored : Stored data (4 * i) (hunks.flatMap fun hunk => hunk.memory.bytes hunk.size))
    (hblocks : s.blocks = ((file.hunksAt address).take c).map Hunk.block)
    : ∃ j, 4 * j = 4 * i + (hunks.flatMap fun hunk => hunk.memory.bytes hunk.size).length
        ∧ allocHunks A data hunks.length (UInt32.ofNat i) s
          = (.ok (UInt32.ofNat j), ((file.hunksAt address).drop c).foldl Loader.extended s) := by
  induction hunks generalizing c i s with
  | nil =>
    have hnone : (file.hunksAt address).drop c = [] := by
      rw [List.drop_eq_nil_iff, length_hunksAt]
      exact List.drop_eq_nil_iff.mp hdrop
    rw [hnone]
    exact ⟨i, rfl, rfl⟩
  | cons hunk hunks ih =>
    have hget : file.hunks[c]? = some hunk := by
      have hhead : (file.hunks.drop c)[0]? = some hunk := by
        rw [hdrop]
        rfl
      rw [List.getElem?_drop, Nat.add_zero] at hhead
      exact hhead
    have hdrop' : file.hunks.drop (c + 1) = hunks := by
      rw [← List.drop_drop, hdrop]
      rfl
    have hthere : (file.hunksAt address)[c]? = _ := getElem?_hunksAt hget
    obtain ⟨hc, hhere⟩ := List.getElem?_eq_some_iff.mp hthere
    have hlt := (hfile.hunks hunk (List.mem_of_getElem? hget)).size
    have hsize := size_granted hfile hgranted hsizes hget
    have hword : tableSize (hunk.memory.word hunk.size) = UInt32.ofNat hunk.size :=
      tableSize_word hlt
    -- the entry of this hunk in the table, and the memory for it
    have hentry := stored_append hstored
    have hlong : long data (UInt32.ofNat i) = .ok (hunk.memory.word hunk.size) := by
      apply long_of_stored hdata
      exact stored_word hentry.1
    have halloc : A.allocMem s.blocks (hunkBytes (tableSize (hunk.memory.word hunk.size)))
        (tableFlags (hunk.memory.word hunk.size) ||| memfClear) = some (address c) := by
      rw [hblocks, hword]
      exact hgranted c hunk hget
    have hhunk : tableHunk (address c) (hunk.memory.word hunk.size)
        = { ptr := address c + 8, size := UInt32.ofNat hunk.size } := by
      unfold tableHunk
      rw [hword]
    -- what is left of the table and of the hunks
    obtain ⟨k, hk, hnext⟩ := tableNext_word hunk.memory hlt i
    have hrest := hentry.2
    rw [← hk] at hrest
    have hblocks' : (s.extended { ptr := address c + 8, size := UInt32.ofNat hunk.size }).blocks
        = ((file.hunksAt address).take (c + 1)).map Hunk.block := by
      show s.blocks ++ _ = _
      rw [hblocks, List.take_add_one, hthere, List.map_append]
      rfl
    obtain ⟨j, hj, hallocs⟩ := ih hdrop' hrest hblocks'
    refine ⟨j, ?_, ?_⟩
    . rw [List.flatMap_cons, List.length_append, hj]
      omega
    . rw [List.length_cons, allocHunks_extended hlong halloc (by
        rw [hword, toNat_index (by omega)]
        exact hsize)]
      rw [hhunk, hnext, hallocs, List.drop_eq_getElem_cons hc, hhere]
      rfl

end Alloc

section Header

variable {file : LoadFile}

theorem stored_bytes (file : LoadFile)
    : Stored file.bytes 0 file.header ∧ Stored file.bytes (4 * 5) file.sizeTable
        ∧ Stored file.bytes (4 * 5 + file.sizeTable.length)
            (file.hunks.flatMap (LoadHunk.bytes file.firstHunk)) := by
  have hall : Stored file.bytes 0 file.bytes := by
    unfold Stored
    rw [List.drop_zero]
  have hhunks : Stored file.bytes 0 (file.header ++ file.sizeTable) ∧ _ := stored_append hall
  have htable := stored_append hhunks.1
  refine ⟨htable.1, htable.2, ?_⟩
  have hthen := hhunks.2
  rw [Nat.zero_add, List.length_append] at hthen
  exact hthen

/-- The header passes the checks. -/
theorem fileHeader_of_values {data : List UInt8} {table first last : UInt32}
    (hlength : 20 ≤ data.length)
    (h0 : readBe32 (fileByte data) (4 * 0) = hunkHeader)
    (h1 : readBe32 (fileByte data) (4 * 1) = 0)
    (h2 : readBe32 (fileByte data) (4 * 2) = table)
    (h3 : readBe32 (fileByte data) (4 * 3) = first)
    (h4 : readBe32 (fileByte data) (4 * 4) = last) (htable : table ≠ 0)
    (hsigns : ¬(0x80000000 ≤ first ∨ 0x80000000 ≤ last ∨ last < first))
    (hfew : ¬16 < last - first + 1)
    : fileHeader data = .ok (first, last - first + 1) := by
  have hlong : ¬data.length < 20 := by omega
  have hmagic : ¬readBe32 (fileByte data) (4 * 0) ≠ hunkHeader := fun h => h h0
  have hnone : ¬readBe32 (fileByte data) (4 * 1) ≠ 0 := fun h => h h1
  rw [← h2] at htable
  rw [← h3, ← h4] at hsigns hfew ⊢
  unfold fileHeader
  dsimp only
  rw [if_neg hlong, if_neg hmagic, if_neg hnone, if_neg htable, if_neg hsigns, if_neg hfew]

theorem length_header (file : LoadFile) : file.header.length = 20 := rfl

theorem fileHeader_bytes (hfile : file.WellFormed)
    : fileHeader file.bytes
        = .ok (UInt32.ofNat file.firstHunk, UInt32.ofNat file.hunks.length) := by
  have hsome := hfile.some_
  have hcount := hfile.count
  have hfirst := hfile.firstHunk
  obtain ⟨n, hn⟩ := Nat.exists_eq_add_of_le' hsome
  have hstored := (stored_bytes file).1
  have hlength := stored_length hstored (Nat.zero_le _)
  rw [length_header] at hlength
  have hfour := stored_append hstored
  have hthree := stored_append hfour.1
  have htwo := stored_append hthree.1
  have hone := stored_append htwo.1
  have hlast : file.firstHunk + file.hunks.length - 1 = file.firstHunk + n := by omega
  rw [hlast] at hfour
  have hdifference : UInt32.ofNat (file.firstHunk + n) - UInt32.ofNat file.firstHunk + 1
      = UInt32.ofNat file.hunks.length := by
    rw [UInt32.ofNat_add, add_sub_cancel_left, ofNat_succ, hn]
  rw [← hdifference]
  apply fileHeader_of_values (by omega) (readBe32_of_stored hone.1) (readBe32_of_stored hone.2)
    (readBe32_of_stored htwo.2) (readBe32_of_stored hthree.2) (readBe32_of_stored hfour.2)
    hfile.tableSize
  . have hsign : (0x80000000 : UInt32).toNat = 2 ^ 31 := rfl
    rw [UInt32.le_iff_toNat_le, UInt32.le_iff_toNat_le, UInt32.lt_iff_toNat_lt, hsign]
    rw [toNat_index (by omega), toNat_index (by omega)]
    omega
  . have hsixteen : (16 : UInt32).toNat = 16 := rfl
    rw [hdifference, UInt32.lt_iff_toNat_lt, toNat_index (by omega), hsixteen]
    omega

end Header

section Load

variable {A : Allocator} {file : LoadFile} {address : Nat → Nat} {s : Loader} {i : Nat}
  (hfile : file.WellFormed) (hgranted : file.Granted A address)
  (hsizes : ∀ hunk ∈ file.hunks, hunk.size ≠ 0x3fffffff)

include hfile hgranted hsizes

theorem hunks_granted {h : Nat} {hunk : LoadHunk} (hget : file.hunks[h]? = some hunk)
    : hunk.WellFormed file.hunks.length
        ∧ hunkSize ((file.hunksAt address).map Hunk.size) (UInt32.ofNat h)
          = UInt32.ofNat hunk.size
        ∧ ∃ there, (file.hunksAt address)[h]? = some there ∧ there.size.toNat = hunk.size := by
  have hsize := size_granted hfile hgranted hsizes hget
  have hcount := hfile.count
  have hlt := (List.getElem?_eq_some_iff.mp hget).1
  have hthere : (file.hunksAt address)[h]? = _ := getElem?_hunksAt hget
  refine ⟨hfile.hunks hunk (List.mem_of_getElem? hget), ?_, _, hthere, toNat_index (by omega)⟩
  unfold hunkSize
  rw [toNat_index (by omega), List.getD_eq_getElem?_getD, List.getElem?_map, hthere]
  rfl

/-- The way through the blocks makes the images of the file. -/
theorem run_granted (hhunks : s.hunks = file.hunksAt address) (hi : 1 ≤ i)
    (hlength : 4 * i ≤ file.bytes.length)
    (hstored : Stored file.bytes (4 * i) (file.hunks.flatMap (LoadHunk.bytes file.firstHunk)))
    (hblank : Shows s.memory s.hunks (fun _ _ => 0))
    : ∃ fuel memory,
        run (next file.bytes (UInt32.ofNat file.firstHunk) (s.hunks.map Hunk.size)) perform fuel
            (.block (UInt32.ofNat i) 0) s
          = some (.finished, { s with memory })
        ∧ SameHeads s.memory memory s.hunks
        ∧ ∀ h hunk, file.hunks[h]? = some hunk → ∀ k < 4 * hunk.size,
          memory (address h + 8 + k) = hunk.image (LoadFile.base address) k := by
  have hcount := hfile.count
  have hsome := hfile.some_
  have hplaced := placed_granted hfile hgranted hsizes
  have hsizes' : ((file.hunksAt address).map Hunk.size).length = file.hunks.length := by
    rw [List.length_map, length_hunksAt]
  have hwell : ∀ k hunk, file.hunks[k]? = some hunk →
      hunk.WellFormed ((file.hunksAt address).map Hunk.size).length
      ∧ hunkSize ((file.hunksAt address).map Hunk.size) (UInt32.ofNat (0 + k))
        = UInt32.ofNat hunk.size := by
    intro k hunk hget
    have hthis := hunks_granted hfile hgranted hsizes hget
    rw [hsizes', Nat.zero_add]
    exact ⟨hthis.1, hthis.2.1⟩
  obtain ⟨place, ⟨all, hleads, hall⟩, hstops⟩ := goes_hunks hfile.size (by omega) hi hlength
    hstored hwell (by omega) (List.ne_nil_of_length_pos hsome)
  have hvalid : ∀ action ∈ hunkActions 0 file.hunks, action.Valid s.hunks := by
    rw [hhunks]
    apply valid_hunkActions
    . rw [length_hunksAt]
      exact hcount
    . intro k hunk hget
      have hthis := hunks_granted hfile hgranted hsizes hget
      rw [length_hunksAt, Nat.zero_add]
      exact ⟨hthis.1, hthis.2.2⟩
  have hbase : ∀ r hunk, s.hunks[r]? = some hunk →
      LoadFile.base address r = UInt32.ofNat hunk.ptr := by
    intro r hunk hget
    rw [hhunks] at hget
    obtain ⟨there, _, heq⟩ := hunk_of_getElem?_hunksAt hget
    rw [heq]
    rfl
  rw [← hhunks] at hplaced hleads hstops
  -- what is done on the way is what makes the images
  obtain ⟨memory, hperforms, hshows, hheads⟩ := performs_images hplaced hvalid hbase hblank
  rw [← hall, ← performs_filter] at hperforms
  refine ⟨all.length + 1, memory, ?_, hheads, ?_⟩
  . show run _ perform _ (Place.block (UInt32.ofNat i) (UInt32.ofNat 0)) s = _
    rw [run_of_leads hleads hperforms, run, hstops]
  . intro h hunk hget k hk
    have himages : imagesAfter (LoadFile.base address) (fun _ _ => 0)
        (hunkActions 0 file.hunks) (0 + h) = hunk.image (LoadFile.base address) :=
      (imagesAfter_hunks (by omega) hfile.hunks hcount (fun _ _ => rfl)).2 h hunk hget
    have hsize := size_granted hfile hgranted hsizes hget
    have hthere : s.hunks[h]? = some { ptr := address h + 8, size := UInt32.ofNat hunk.size } := by
      rw [hhunks]
      exact getElem?_hunksAt hget
    have hbyte := hshows h _ hthere k (by
      show k < 4 * (UInt32.ofNat hunk.size).toNat
      rw [toNat_index (by omega)]
      exact hk)
    rw [Nat.zero_add] at himages
    rw [himages] at hbyte
    exact hbyte

/-- What the memory of the hunks is before the first block. -/
theorem linked_granted (hhunks : s.hunks = file.hunksAt address) {memory : Nat → UInt8}
    (hblank : ∀ hunk ∈ s.hunks, Blank s.memory hunk) (hlinked : Linked s.memory memory s.hunks)
    : Shows memory s.hunks (fun _ _ => 0)
        ∧ ∀ hunk ∈ s.hunks, readBe32 memory hunk.block.address = hunk.block.size := by
  have hplaced := placed_granted hfile hgranted hsizes
  rw [← hhunks] at hplaced
  -- the links are not in the content, nor in the sizes
  have hother : ∀ hunk ∈ s.hunks, ∀ k < 4 * hunk.size.toNat + 8, (k < 4 ∨ 8 ≤ k) →
      memory (hunk.block.address + k) = s.memory (hunk.block.address + k) := by
    intro hunk hhunk k hk hout
    apply hlinked.same
    intro after hafter
    obtain ⟨h, hget⟩ := List.getElem?_of_mem hhunk
    obtain ⟨h', hget'⟩ := List.getElem?_of_mem hafter
    by_cases hsame : h = h'
    . rw [hsame, hget', Option.some.injEq] at hget
      rw [hget]
      omega
    . obtain ⟨hsize, _⟩ := size_block hplaced hget
      obtain ⟨hsize', _⟩ := size_block hplaced hget'
      have hapart := hplaced.apart h h' hunk after hget hget' hsame
      unfold MemBlock.apart at hapart
      omega
  constructor
  . intro h hunk hget k hk
    have hmem := List.mem_of_getElem? hget
    obtain ⟨hsize, hptr⟩ := size_block hplaced hget
    have hsame := hother hunk hmem (8 + k) (by omega) (by omega)
    rw [← Nat.add_assoc] at hsame
    rw [← hptr, hsame]
    exact (hblank hunk hmem).content k hk
  . intro hunk hhunk
    rw [← (hblank hunk hhunk).size]
    apply readBe32_congr
    intro k hk hlt
    rw [← Nat.add_sub_cancel' hk]
    exact hother hunk hhunk _ (by omega) (by omega)

omit hfile hgranted hsizes in
theorem readBe32_of_sameHeads {memory memory' : Nat → UInt8} {hunks : List Hunk}
    (h : SameHeads memory memory' hunks) {hunk : Hunk} (hhunk : hunk ∈ hunks) {o : Nat}
    (ho : o + 4 ≤ 8)
    : readBe32 memory' (hunk.block.address + o) = readBe32 memory (hunk.block.address + o) := by
  apply readBe32_congr
  intro k hk hlt
  have hk' : hunk.block.address ≤ k := by omega
  rw [← Nat.add_sub_cancel' hk']
  exact h hunk hhunk _ (by omega)

omit hfile hgranted hsizes in
theorem block_at (a : Nat) (size : UInt32)
    : ({ ptr := a + 8, size } : Hunk).block = { address := a, size := hunkBytes size } := by
  unfold Hunk.block
  rw [Nat.add_sub_cancel]

section Loaded

variable {memory memory' : Nat → UInt8} (hhunks : s.hunks = file.hunksAt address)
  (hblank : ∀ hunk ∈ s.hunks, Blank s.memory hunk) (hlinked : Linked s.memory memory s.hunks)
  (hheads : SameHeads memory memory' s.hunks)

include hhunks

omit hfile hgranted hsizes in
theorem getElem?_loaded {h : Nat} {hunk : LoadHunk} (hget : file.hunks[h]? = some hunk)
    : s.hunks[h]? = some { ptr := address h + 8, size := UInt32.ofNat hunk.size } := by
  rw [hhunks]
  exact getElem?_hunksAt hget

include hlinked hheads

omit hfile hsizes in
/-- The longword of a hunk leads to the one of the hunk after it. -/
theorem link_loaded {h : Nat} (hlt : h + 1 < file.hunks.length)
    : 4 * (readBe32 memory' (address h + 4)).toNat = address (h + 1) + 4 := by
  obtain ⟨hunk, hget⟩ : ∃ hunk, file.hunks[h]? = some hunk :=
    ⟨_, List.getElem?_eq_getElem (by omega)⟩
  obtain ⟨after, hafter⟩ : ∃ after, file.hunks[h + 1]? = some after :=
    ⟨_, List.getElem?_eq_getElem hlt⟩
  have hthere := getElem?_loaded hhunks hget
  have hmem := List.mem_of_getElem? hthere
  have hsame := readBe32_of_sameHeads hheads hmem (o := 4) (by omega)
  have hlink := hlinked.link h _ _ hthere (getElem?_loaded hhunks hafter)
  rw [block_at] at hsame hlink
  -- memory is aligned, so nothing is lost in the pointer
  have havailable := A.available _ _ _ _ (hgranted (h + 1) after hafter)
  have haligned : 4 ∣ address (h + 1) := havailable.aligned
  have hroom : address (h + 1) + _ ≤ 2 ^ 32 := havailable.room
  have hvalue : readBe32 memory' (address h + 4)
      = UInt32.ofNat ((address (h + 1) + 8 - 4) / 4) := hsame.trans hlink
  rw [hvalue, toNat_index (by omega)]
  omega

include hblank

theorem size_loaded {h : Nat} {hunk : LoadHunk} (hget : file.hunks[h]? = some hunk)
    : (readBe32 memory' (address h)).toNat = 4 * hunk.size + 8 := by
  obtain ⟨_, hblockSizes⟩ := linked_granted hfile hgranted hsizes hhunks hblank hlinked
  have hmem := List.mem_of_getElem? (getElem?_loaded hhunks hget)
  have hsize := size_granted hfile hgranted hsizes hget
  have hsame := readBe32_of_sameHeads hheads hmem (o := 0) (by omega)
  have hblock := hblockSizes _ hmem
  rw [block_at] at hsame hblock
  have hbytes : (hunkBytes (UInt32.ofNat hunk.size)).toNat
      = 4 * (UInt32.ofNat hunk.size).toNat + 8 := by
    apply toNat_hunkBytes
    rw [toNat_index (by omega)]
    exact hsize
  rw [toNat_index (by omega)] at hbytes
  have hvalue : readBe32 memory' (address h) = hunkBytes (UInt32.ofNat hunk.size) :=
    hsame.trans hblock
  rw [hvalue, hbytes]

omit hgranted hsizes in
/-- The last hunk is linked to nothing. -/
theorem last_loaded
    : readBe32 memory' (address (file.hunks.length - 1) + 4) = 0 := by
  have hsome := hfile.some_
  obtain ⟨hunk, hget⟩ : ∃ hunk, file.hunks[file.hunks.length - 1]? = some hunk :=
    ⟨_, List.getElem?_eq_getElem (by omega)⟩
  have hlast := getElem?_loaded hhunks hget
  have hmem := List.mem_of_getElem? hlast
  have hgetLast : s.hunks.getLast?
      = some { ptr := address (file.hunks.length - 1) + 8, size := UInt32.ofNat hunk.size } := by
    rw [List.getLast?_eq_getElem?, hhunks, length_hunksAt, ← hhunks]
    exact hlast
  have hsame := readBe32_of_sameHeads hheads hmem (o := 4) (by omega)
  have hkept := hlinked.last _ hgetLast
  have hnone := (hblank _ hmem).link
  rw [block_at] at hsame hkept hnone
  exact hsame.trans (hkept.trans hnone)

theorem loaded_granted (hblocks : s.blocks = (file.hunksAt address).map Hunk.block)
    (himages : ∀ h hunk, file.hunks[h]? = some hunk → ∀ k < 4 * hunk.size,
      memory' (address h + 8 + k) = hunk.image (LoadFile.base address) k)
    : file.Loaded address (address 0 + 4) { s with memory := memory' } := by
  constructor
  . rfl
  . exact hblocks
  . intro h hunk hget
    exact size_loaded hfile hgranted hsizes hhunks hblank hlinked hheads hget
  . intro h hlt
    exact link_loaded hgranted hhunks hlinked hheads hlt
  . exact last_loaded hfile hhunks hblank hlinked hheads
  . exact himages

end Loaded

/-- A file with sizes that are not too large is loaded. -/
theorem loads_granted (memory : Nat → UInt8)
    : file.Loads A address memory := by
  have hsome := hfile.some_
  have hcount := hfile.count
  have hplaced := placed_granted hfile hgranted hsizes
  obtain ⟨hheader, htable, hblocks⟩ := stored_bytes file
  have hlength := stored_length hheader (Nat.zero_le _)
  rw [length_header] at hlength
  have hend := stored_length htable (by omega)
  -- the first loop gets the memory of all hunks
  let start : Loader := { memory, blocks := [], log := [], hunks := [] }
  obtain ⟨j, hj, halloc⟩ := allocHunks_granted hfile hgranted hsizes (c := 0) (i := 5) (s := start)
    hfile.size List.drop_zero htable rfl
  rw [List.drop_zero] at halloc
  have htableEnd : 4 * j = 4 * 5 + file.sizeTable.length := hj
  rw [← htableEnd] at hblocks hend
  have hblank : ∀ hunk ∈ file.hunksAt address, Blank
      ((file.hunksAt address).foldl Loader.extended start).memory hunk :=
    blank_extended hplaced
  have hextended : ((file.hunksAt address).foldl Loader.extended start).hunks
        = file.hunksAt address
      ∧ ((file.hunksAt address).foldl Loader.extended start).blocks
        = (file.hunksAt address).map Hunk.block :=
    extended_rest
  generalize (file.hunksAt address).foldl Loader.extended start = s at halloc hblank hextended
  obtain ⟨hhunks, hheld⟩ := hextended
  rw [← hhunks] at hplaced hblank
  -- the second one links them, and the third one goes through the blocks
  obtain ⟨memory', hlink, hlinked⟩ := linkHunks_linked (s := s) hplaced
  have hshows := (linked_granted hfile hgranted hsizes hhunks hblank hlinked).1
  obtain ⟨fuel, memory'', hrun, hsame, himages⟩ := run_granted (s := { s with memory := memory' })
    hfile hgranted hsizes hhunks (by omega) hend hblocks hshows
  have hloaded := loaded_granted hfile hgranted hsizes hhunks hblank hlinked hsame hheld himages
  refine ⟨fuel, address 0 + 4, { s with memory := memory'' }, ?_, hloaded⟩
  have hfirst : (s.hunks.getD 0 default).ptr - 4 = address 0 + 4 := by
    obtain ⟨hunk, hget⟩ : ∃ hunk, file.hunks[0]? = some hunk :=
      ⟨_, List.getElem?_eq_getElem (by omega)⟩
    rw [hhunks, List.getD_eq_getElem?_getD, getElem?_hunksAt hget]
    show address 0 + 8 - 4 = address 0 + 4
    omega
  have hnum : (UInt32.ofNat file.hunks.length).toNat = file.hunks.length :=
    toNat_index (by omega)
  have halloc' : allocHunks A file.bytes file.hunks.length 5 start = (.ok (UInt32.ofNat j), s) :=
    halloc
  unfold fsrelocateSimple
  rw [fileHeader_bytes hfile]
  dsimp only
  rw [hnum, halloc']
  dsimp only
  rw [hlink]
  dsimp only
  rw [hrun]
  show HunkOutcome.returned (some ((s.hunks.getD 0 default).ptr - 4)) _ _ = _
  rw [hfirst]

end Load

/-- No number of 32 bits is the size of a block that is too large for them. -/
theorem sizes_of_loads {A : Allocator} {file : LoadFile} {address : Nat → Nat}
    {memory : Nat → UInt8} (h : file.Loads A address memory)
    : ∀ hunk ∈ file.hunks, hunk.size ≠ 0x3fffffff := by
  intro hunk hhunk heq
  obtain ⟨fuel, segment, s, _, hloaded⟩ := h
  obtain ⟨k, hget⟩ := List.getElem?_of_mem hhunk
  have hsize := hloaded.size k hunk hget
  have hlt := (readBe32 s.memory (address k)).toNat_lt
  omega

/-- A file of hunks is loaded exactly if the size of none of them wraps around. -/
theorem fsrelocateSimple_loads_iff {A : Allocator} {file : LoadFile} {address : Nat → Nat}
    (hfile : file.WellFormed) (hgranted : file.Granted A address) (memory : Nat → UInt8)
    : file.Loads A address memory ↔ ∀ hunk ∈ file.hunks, hunk.size ≠ 0x3fffffff :=
  ⟨sizes_of_loads, fun h => loads_granted hfile hgranted h memory⟩

section Examples

/-- There is memory for one small block. -/
def smallAllocator : Allocator where
  allocMem blocks size _ :=
    if blocks = [] ∧ 0 < size.toNat ∧ size.toNat ≤ 16 then some 0x1000 else none
  available := by
    intro blocks size flags address h
    split at h
    . next hsmall =>
      rw [Option.some.injEq] at h
      obtain ⟨hblocks, hpos, hle⟩ := hsmall
      rw [hblocks, ← h]
      refine ⟨Nat.succ_pos _, ⟨0x400, rfl⟩, hpos, ?_, nofun⟩
      show 0x1000 + size.toNat ≤ 2 ^ 32
      omega
    . contradiction

/-- A hunk with its own address added to two of its longwords. -/
def smallFile : LoadFile where
  tableSize := 1
  firstHunk := 0
  hunks := [
    {
      memory := .chip
      size := 2
      before := [.name [0x61626364]]
      content := .code [0x4e754e75]
      parts := [
        .reloc32 [{ target := 0, offsets := [4] }],
        .note (.symbol [{ kind := 1, name := [0x61620000], value := 0 }]),
        .short false [{ target := 0, offsets := [0] }] 0
      ]
    }
  ]

/-- A hunk whose block is larger than what a number of 32 bits can tell. -/
def wrappedFile : LoadFile where
  tableSize := 1
  firstHunk := 0
  hunks := [
    { memory := .any, size := 0x3fffffff, before := [], content := .bss 0, parts := [] }
  ]

theorem granted_small {file : LoadFile} {hunk : LoadHunk} (hfile : file.hunks = [hunk])
    (hpos : 0 < (hunkBytes (UInt32.ofNat hunk.size)).toNat)
    (hle : (hunkBytes (UInt32.ofNat hunk.size)).toNat ≤ 16)
    : file.Granted smallAllocator (fun _ => 0x1000) := by
  intro h other hget
  rw [hfile] at hget
  cases h with
  | zero =>
    rw [← Option.some.inj hget, List.take_zero, List.map_nil]
    exact if_pos ⟨rfl, hpos, hle⟩
  | succ h => contradiction

theorem fsrelocateSimple_loads_iff_small
    : smallFile.Loads smallAllocator (fun _ => 0x1000) (fun _ => 0) := by
  refine (fsrelocateSimple_loads_iff ?_ ?_ (fun _ => 0)).mpr ?_
  . refine ⟨by decide, by decide, by decide, by decide, ?_, by decide⟩
    rw [show smallFile.hunks = [_] from rfl, List.forall_mem_singleton]
    refine ⟨by decide, ?_, by decide, ?_⟩
    . exact List.forall_mem_singleton.mpr trivial
    . dsimp only
      rw [List.forall_mem_cons, List.forall_mem_cons, List.forall_mem_singleton]
      refine ⟨?_, ?_, ?_⟩
      . exact List.forall_mem_singleton.mpr
          ⟨by decide, by decide, List.forall_mem_singleton.mpr (by decide)⟩
      . exact List.forall_mem_singleton.mpr ⟨by decide, by decide⟩
      . exact List.forall_mem_singleton.mpr
          ⟨⟨by decide, by decide, List.forall_mem_singleton.mpr (by decide)⟩, by decide⟩
  . exact granted_small rfl (by decide) (by decide)
  . rw [show smallFile.hunks = [_] from rfl, List.forall_mem_singleton]
    decide

theorem fsrelocateSimple_wrapped_size
    : wrappedFile.WellFormed ∧ wrappedFile.Granted smallAllocator (fun _ => 0x1000)
        ∧ ¬wrappedFile.Loads smallAllocator (fun _ => 0x1000) (fun _ => 0) := by
  refine ⟨?_, granted_small rfl (by decide) (by decide), ?_⟩
  . refine ⟨by decide, by decide, by decide, by decide, ?_, by decide⟩
    rw [show wrappedFile.hunks = [_] from rfl, List.forall_mem_singleton]
    exact ⟨by decide, nofun, by decide, nofun⟩
  . exact fun h => sizes_of_loads h _ List.mem_cons_self rfl

end Examples

end ZZSd
