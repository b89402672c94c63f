import ZZ9000.SdBoot.HunkFile
import ZZ9000.SdBoot.HunkRobust

/-!
This module contains what `fsrelocate_simple` does to the memory of its hunks, which is told hunk by
hunk, as their blocks do not overlap.
-/

namespace ZZSd

open Machines
open Streams

/-- The hunks have blocks of their own. -/
structure HunksPlaced (hunks : List Hunk) : Prop where
  room : ∀ hunk ∈ hunks, hunk.size.toNat < 0x3ffffffe
  ptr : ∀ hunk ∈ hunks, 8 ≤ hunk.ptr
  apart : ∀ (h h' : Nat) (hunk hunk' : Hunk), hunks[h]? = some hunk → hunks[h']? = some hunk' →
    h ≠ h' → hunk.block.apart hunk'.block

/-- The memory of each hunk is what `images` has for it. -/
def Shows (memory : Nat → UInt8) (hunks : List Hunk) (images : Nat → Nat → UInt8) : Prop :=
  ∀ h hunk, hunks[h]? = some hunk → ∀ i < 4 * hunk.size.toNat, memory (hunk.ptr + i) = images h i

/-- The sizes and the links of the hunks have not changed. -/
def SameHeads (memory memory' : Nat → UInt8) (hunks : List Hunk) : Prop :=
  ∀ hunk ∈ hunks, ∀ i < 8, memory' (hunk.block.address + i) = memory (hunk.block.address + i)

/-- What an action does to the images. -/
def HunkAction.onImages (base : Nat → UInt32) (images : Nat → Nat → UInt8) (action : HunkAction)
    : Nat → Nat → UInt8 :=
  match action with
  | .skip => images
  | .copy c bytes => Function.update images c.toNat (store (images c.toNat) 0 bytes)
  | .relocate c offs r =>
    Function.update images c.toNat (relocateAt (images c.toNat) offs.toNat (base r.toNat))

/-- The action is about hunks that are there, and stays inside the one that it changes. -/
def HunkAction.Valid (hunks : List Hunk) (action : HunkAction) : Prop :=
  match action with
  | .skip => True
  | .copy c bytes => ∃ hunk, hunks[c.toNat]? = some hunk ∧ bytes.length ≤ 4 * hunk.size.toNat
  | .relocate c offs r =>
    r.toNat < hunks.length
      ∧ ∃ hunk, hunks[c.toNat]? = some hunk ∧ offs.toNat + 4 ≤ 4 * hunk.size.toNat

section Store

variable {hunks : List Hunk} {memory : Nat → UInt8} {images : Nat → Nat → UInt8} {c offset : Nat}
  {hunk : Hunk} {bytes : List UInt8}

theorem size_block {h : Nat} (hplaced : HunksPlaced hunks) (hget : hunks[h]? = some hunk)
    : hunk.block.size.toNat = 4 * hunk.size.toNat + 8 ∧ hunk.block.address + 8 = hunk.ptr := by
  have hmem := List.mem_of_getElem? hget
  have hptr := hplaced.ptr hunk hmem
  refine ⟨toNat_hunkBytes (hplaced.room hunk hmem), ?_⟩
  show hunk.ptr - 8 + 8 = hunk.ptr
  omega

/-- Bytes that are written to a hunk leave the other blocks alone. -/
theorem store_apart (hplaced : HunksPlaced hunks) (hget : hunks[c]? = some hunk)
    (hinside : offset + bytes.length ≤ 4 * hunk.size.toNat) {h : Nat} {other : Hunk}
    (hother : hunks[h]? = some other) (hne : h ≠ c) {i : Nat} (hi : i < 4 * other.size.toNat + 8)
    : store memory (hunk.ptr + offset) bytes (other.block.address + i)
        = memory (other.block.address + i) := by
  obtain ⟨hsize, hptr⟩ := size_block hplaced hget
  obtain ⟨hsize', hptr'⟩ := size_block hplaced hother
  have hapart := hplaced.apart h c other hunk hother hget hne
  unfold MemBlock.apart at hapart
  cases hapart with
  | inl hbefore =>
    apply store_of_lt
    omega
  | inr hbehind =>
    apply store_of_ge
    omega

theorem shows_store (hplaced : HunksPlaced hunks) (hget : hunks[c]? = some hunk)
    (hinside : offset + bytes.length ≤ 4 * hunk.size.toNat) (h : Shows memory hunks images)
    : Shows (store memory (hunk.ptr + offset) bytes) hunks
        (Function.update images c (store (images c) offset bytes)) := by
  intro k other hother i hi
  by_cases hk : k = c
  . rw [hk, hget, Option.some.injEq] at hother
    rw [hk, Function.update_self, ← hother, store_shift]
    apply store_congr
    apply h c hunk hget
    rw [hother]
    exact hi
  . obtain ⟨hsize, hptr⟩ := size_block hplaced hother
    have hsame : store memory (hunk.ptr + offset) bytes (other.block.address + (8 + i)) = _ :=
      store_apart hplaced hget hinside hother hk (by omega)
    rw [← Nat.add_assoc, hptr] at hsame
    rw [Function.update_of_ne hk, hsame]
    exact h k other hother i hi

theorem sameHeads_store (hplaced : HunksPlaced hunks) (hget : hunks[c]? = some hunk)
    (hinside : offset + bytes.length ≤ 4 * hunk.size.toNat)
    : SameHeads memory (store memory (hunk.ptr + offset) bytes) hunks := by
  intro other hother i hi
  obtain ⟨k, hk⟩ := List.getElem?_of_mem hother
  by_cases hkc : k = c
  . obtain ⟨hsize, hptr⟩ := size_block hplaced hk
    rw [hkc, hget, Option.some.injEq] at hk
    rw [← hk] at hptr ⊢
    apply store_of_lt
    omega
  . exact store_apart hplaced hget hinside hk hkc (by omega)

end Store

section Perform

variable {base : Nat → UInt32} {images : Nat → Nat → UInt8} {action : HunkAction} {s : Loader}

/-- The images of the hunks after some actions. -/
def imagesAfter (base : Nat → UInt32) (images : Nat → Nat → UInt8) (actions : List HunkAction)
    : Nat → Nat → UInt8 :=
  actions.foldl (HunkAction.onImages base) images

theorem getD_of_getElem? {hunks : List Hunk} {c : Nat} {hunk : Hunk} (h : hunks[c]? = some hunk)
    : hunks.getD c default = hunk := by
  rw [List.getD_eq_getElem?_getD, h]
  rfl

/-- A longword of a hunk is the one of its image. -/
theorem readBe32_of_shows {memory : Nat → UInt8} {hunks : List Hunk} {c o : Nat} {hunk : Hunk}
    (h : Shows memory hunks images) (hget : hunks[c]? = some hunk)
    (hinside : o + 4 ≤ 4 * hunk.size.toNat)
    : readBe32 memory (hunk.ptr + o) = readBe32 (images c) o := by
  have hbyte (j : Nat) (hj : j < 4) : memory (hunk.ptr + (o + j)) = images c (o + j) :=
    h c hunk hget (o + j) (by omega)
  have hfirst : memory (hunk.ptr + o) = images c o := hbyte 0 (by omega)
  have hsecond := hbyte 1 (by omega)
  have hthird := hbyte 2 (by omega)
  have hfourth := hbyte 3 (by omega)
  rw [← Nat.add_assoc] at hsecond hthird hfourth
  unfold readBe32
  rw [hfirst, hsecond, hthird, hfourth]

theorem perform_images (hplaced : HunksPlaced s.hunks) (hvalid : action.Valid s.hunks)
    (hbase : ∀ r hunk, s.hunks[r]? = some hunk → base r = UInt32.ofNat hunk.ptr)
    (h : Shows s.memory s.hunks images)
    : ∃ memory, perform action s = .ok { s with memory }
        ∧ Shows memory s.hunks (action.onImages base images)
        ∧ SameHeads s.memory memory s.hunks := by
  cases action with
  | skip => exact ⟨s.memory, rfl, h, fun _ _ _ _ => rfl⟩
  | copy c bytes =>
    obtain ⟨hunk, hget, hinside⟩ := hvalid
    have hcur := getD_of_getElem? hget
    obtain ⟨hsize, _⟩ := size_block hplaced hget
    have hinside' : 0 + bytes.length ≤ 4 * hunk.size.toNat := by omega
    refine ⟨store s.memory hunk.ptr bytes, ?_, shows_store hplaced hget hinside' h,
      sameHeads_store hplaced hget hinside'⟩
    unfold perform
    dsimp only
    rw [hcur, if_pos (by omega)]
  | relocate c offs r =>
    obtain ⟨hr, hunk, hget, hinside⟩ := hvalid
    have hcur := getD_of_getElem? hget
    have htarget : UInt32.ofNat (s.hunks.getD r.toNat default).ptr = base r.toNat := by
      rw [List.getD_eq_getElem?_getD, List.getElem?_eq_getElem hr]
      exact (hbase r.toNat _ (List.getElem?_eq_getElem hr)).symm
    obtain ⟨hsize, hptr⟩ := size_block hplaced hget
    have hread := readBe32_of_shows h hget hinside
    have hplace : hunk.block.address + (8 + offs.toNat) = hunk.ptr + offs.toNat := by omega
    refine ⟨writeBe32 s.memory (hunk.ptr + offs.toNat)
      (readBe32 (images c.toNat) offs.toNat + base r.toNat), ?_,
      shows_store hplaced hget hinside h, sameHeads_store hplaced hget hinside⟩
    unfold perform
    dsimp only
    rw [hcur, htarget, hread, poke_memory (by omega), hplace]

theorem sameHeads_trans {memory memory' memory'' : Nat → UInt8} {hunks : List Hunk}
    (h : SameHeads memory memory' hunks) (h' : SameHeads memory' memory'' hunks)
    : SameHeads memory memory'' hunks :=
  fun hunk hhunk i hi => (h' hunk hhunk i hi).trans (h hunk hhunk i hi)

/-- The actions of a way. -/
theorem performs_images {actions : List HunkAction} (hplaced : HunksPlaced s.hunks)
    (hvalid : ∀ action ∈ actions, action.Valid s.hunks)
    (hbase : ∀ r hunk, s.hunks[r]? = some hunk → base r = UInt32.ofNat hunk.ptr)
    (h : Shows s.memory s.hunks images)
    : ∃ memory, actions.foldlM (fun s action => perform action s) s = .ok { s with memory }
        ∧ Shows memory s.hunks (imagesAfter base images actions)
        ∧ SameHeads s.memory memory s.hunks := by
  induction actions generalizing s images with
  | nil => exact ⟨s.memory, rfl, h, fun _ _ _ _ => rfl⟩
  | cons action actions ih =>
    rw [List.forall_mem_cons] at hvalid
    obtain ⟨memory, hperform, hshows, hheads⟩ := perform_images hplaced hvalid.1 hbase h
    have hrest := ih (s := { s with memory }) hplaced hvalid.2 hbase hshows
    obtain ⟨memory', hperforms, hshows', hheads'⟩ := hrest
    refine ⟨memory', ?_, hshows', sameHeads_trans hheads hheads'⟩
    rw [List.foldlM_cons, hperform]
    exact hperforms

/-- The turns that leave the hunks alone do not count. -/
theorem performs_filter (all : List HunkAction) (s : Loader)
    : all.foldlM (fun s action => perform action s) s
        = (all.filter (fun action => action ≠ .skip)).foldlM
            (fun s action => perform action s) s := by
  induction all generalizing s with
  | nil => rfl
  | cons action all ih =>
    by_cases haction : action = .skip
    . rw [haction, List.filter_cons_of_neg (by simp), List.foldlM_cons]
      exact ih s
    . rw [List.filter_cons_of_pos (by simpa using haction), List.foldlM_cons, List.foldlM_cons]
      congr 1
      funext t
      exact ih t

end Perform

section Blank

/-- A hunk without content and without a hunk after it. -/
structure Blank (memory : Nat → UInt8) (hunk : Hunk) : Prop where
  size : readBe32 memory hunk.block.address = hunk.block.size
  link : readBe32 memory (hunk.block.address + 4) = 0
  content : ∀ i < 4 * hunk.size.toNat, memory (hunk.block.address + 8 + i) = 0

variable {memory memory' : Nat → UInt8} {hunk : Hunk} {hunks : List Hunk}

theorem blank_congr
    (hsame : ∀ i < 4 * hunk.size.toNat + 8,
      memory' (hunk.block.address + i) = memory (hunk.block.address + i))
    (h : Blank memory hunk)
    : Blank memory' hunk := by
  constructor
  . rw [← h.size]
    apply readBe32_congr
    intro i hi hlt
    rw [← Nat.add_sub_cancel' hi]
    exact hsame _ (by omega)
  . rw [← h.link]
    apply readBe32_congr
    intro i hi hlt
    have hi' : hunk.block.address ≤ i := by omega
    rw [← Nat.add_sub_cancel' hi']
    exact hsame _ (by omega)
  . intro i hi
    rw [← h.content i hi, Nat.add_assoc]
    exact hsame (8 + i) (by omega)

theorem blank_blankHunk (hsize : hunk.size.toNat < 0x3ffffffe)
    : Blank (blankHunk memory hunk) hunk := by
  have hblock : hunk.block.size.toNat = 4 * hunk.size.toNat + 8 := toNat_hunkBytes hsize
  unfold blankHunk
  constructor
  . rw [readBe32_writeBe32_of_apart _ (Or.inl (Nat.le_refl _)), readBe32_writeBe32]
  . rw [readBe32_writeBe32]
  . intro i hi
    rw [writeBe32_of_outside _ (Or.inr (by omega)), writeBe32_of_outside _ (Or.inr (by omega))]
    rw [if_pos ⟨by omega, by omega⟩]

theorem blankHunk_of_outside (hsize : hunk.size.toNat < 0x3ffffffe) {i : Nat}
    (hi : i < hunk.block.address ∨ hunk.block.address + hunk.block.size.toNat ≤ i)
    : blankHunk memory hunk i = memory i := by
  have hblock : hunk.block.size.toNat = 4 * hunk.size.toNat + 8 := toNat_hunkBytes hsize
  unfold blankHunk
  rw [writeBe32_of_outside _ (by omega), writeBe32_of_outside _ (by omega)]
  rw [if_neg (by omega)]

theorem placed_append_left {hs hs' : List Hunk} (h : HunksPlaced (hs ++ hs'))
    : HunksPlaced hs := by
  constructor
  . exact fun hunk hmem => h.room hunk (List.mem_append_left hs' hmem)
  . exact fun hunk hmem => h.ptr hunk (List.mem_append_left hs' hmem)
  . intro k k' hunk hunk' hget hget' hne
    have hk := (List.getElem?_eq_some_iff.mp hget).1
    have hk' := (List.getElem?_eq_some_iff.mp hget').1
    apply h.apart k k' hunk hunk' _ _ hne
    . rw [List.getElem?_append_left hk]
      exact hget
    . rw [List.getElem?_append_left hk']
      exact hget'

theorem apart_last {hs : List Hunk} {last : Hunk} (h : HunksPlaced (hs ++ [last])) {hunk : Hunk}
    (hhunk : hunk ∈ hs)
    : hunk.block.apart last.block := by
  obtain ⟨k, hget⟩ := List.getElem?_of_mem hhunk
  have hk := (List.getElem?_eq_some_iff.mp hget).1
  apply h.apart k hs.length hunk last
  . rw [List.getElem?_append_left hk]
    exact hget
  . exact List.getElem?_concat_length
  . omega

/-- The hunks are blank after the size table. -/
theorem blank_extended {s : Loader} {hs : List Hunk} (hplaced : HunksPlaced hs)
    : ∀ hunk ∈ hs, Blank (hs.foldl Loader.extended s).memory hunk := by
  induction hs using List.reverseRecOn with
  | nil => exact nofun
  | append_singleton hs last ih =>
    have hlast := hplaced.room last (List.mem_append_right hs List.mem_cons_self)
    rw [List.foldl_append]
    intro hunk hhunk
    show Blank (blankHunk (hs.foldl Loader.extended s).memory last) hunk
    cases List.mem_append.mp hhunk with
    | inl hearlier =>
      have hroom := hplaced.room hunk hhunk
      have hblock : hunk.block.size.toNat = 4 * hunk.size.toNat + 8 := toNat_hunkBytes hroom
      have hapart := apart_last hplaced hearlier
      unfold MemBlock.apart at hapart
      apply blank_congr _ (ih (placed_append_left hplaced) hunk hearlier)
      intro i hi
      apply blankHunk_of_outside hlast
      omega
    | inr hthis =>
      rw [List.mem_singleton.mp hthis]
      exact blank_blankHunk hlast

theorem extended_rest {s : Loader} {hs : List Hunk}
    : (hs.foldl Loader.extended s).hunks = s.hunks ++ hs
        ∧ (hs.foldl Loader.extended s).blocks = s.blocks ++ hs.map Hunk.block := by
  induction hs generalizing s with
  | nil =>
    rw [List.map_nil, List.append_nil, List.append_nil]
    exact ⟨rfl, rfl⟩
  | cons hunk hs ih =>
    rw [List.foldl_cons, ih.1, ih.2]
    unfold Loader.extended
    rw [List.append_assoc, List.append_assoc]
    exact ⟨rfl, rfl⟩

end Blank

section Link

variable {hunk : Hunk} {hs : List Hunk} {memory memory' : Nat → UInt8}

theorem placed_tail (h : HunksPlaced (hunk :: hs))
    : HunksPlaced hs := by
  constructor
  . exact fun other hmem => h.room other (List.mem_cons_of_mem hunk hmem)
  . exact fun other hmem => h.ptr other (List.mem_cons_of_mem hunk hmem)
  . intro k k' other other' hget hget' hne
    exact h.apart (k + 1) (k' + 1) other other' hget hget' (by omega)

theorem apart_head (h : HunksPlaced (hunk :: hs)) {other : Hunk} (hother : other ∈ hs)
    : hunk.block.apart other.block := by
  obtain ⟨k, hget⟩ := List.getElem?_of_mem hother
  exact h.apart 0 (k + 1) hunk other rfl hget (by omega)

/-- The heads of two hunks do not overlap. -/
theorem heads_apart (h : HunksPlaced (hunk :: hs)) {other : Hunk} (hother : other ∈ hs)
    : hunk.block.address + 8 ≤ other.block.address
        ∨ other.block.address + 8 ≤ hunk.block.address := by
  have hapart := apart_head h hother
  have hsize := toNat_hunkBytes (h.room hunk List.mem_cons_self)
  have hsize' := toNat_hunkBytes (h.room other (List.mem_cons_of_mem hunk hother))
  unfold MemBlock.apart at hapart
  have hblock : hunk.block.size.toNat = 4 * hunk.size.toNat + 8 := hsize
  have hblock' : other.block.size.toNat = 4 * other.size.toNat + 8 := hsize'
  omega

/-- What the links are, and that nothing else has changed. -/
structure Linked (memory memory' : Nat → UInt8) (hs : List Hunk) : Prop where
  same : ∀ i, (∀ hunk ∈ hs, i < hunk.block.address + 4 ∨ hunk.block.address + 8 ≤ i) →
    memory' i = memory i
  link : ∀ k hunk after, hs[k]? = some hunk → hs[k + 1]? = some after →
    readBe32 memory' (hunk.block.address + 4) = UInt32.ofNat ((after.ptr - 4) / 4)
  last : ∀ hunk, hs.getLast? = some hunk →
    readBe32 memory' (hunk.block.address + 4) = readBe32 memory (hunk.block.address + 4)

/-- Another hunk is linked to the first of those that are linked. -/
theorem linked_cons {after : Hunk} (hplaced : HunksPlaced (hunk :: after :: hs))
    (h : Linked (writeBe32 memory (hunk.block.address + 4) (UInt32.ofNat ((after.ptr - 4) / 4)))
      memory' (after :: hs))
    : Linked memory memory' (hunk :: after :: hs) := by
  constructor
  . intro i hi
    rw [List.forall_mem_cons] at hi
    rw [h.same i hi.2, writeBe32_of_outside _ (by omega)]
  . intro k first second hget hget'
    cases k with
    | zero =>
      rw [← Option.some.inj hget, ← Option.some.inj hget']
      have hsame : readBe32 memory' (hunk.block.address + 4)
          = readBe32 (writeBe32 memory (hunk.block.address + 4)
              (UInt32.ofNat ((after.ptr - 4) / 4))) (hunk.block.address + 4) := by
        apply readBe32_congr
        intro i hi hlt
        apply h.same
        intro other hother
        have hapart := heads_apart hplaced hother
        omega
      rw [hsame, readBe32_writeBe32]
    | succ k => exact h.link k first second hget hget'
  . intro last hlast
    rw [List.getLast?_cons_cons] at hlast
    have hapart := heads_apart hplaced (List.mem_of_getLast? hlast)
    rw [h.last last hlast, readBe32_writeBe32_of_apart _ (by omega)]

theorem linkHunks_linked {s : Loader} (hplaced : HunksPlaced hs)
    : ∃ memory, linkHunks hs s = .ok { s with memory } ∧ Linked s.memory memory hs := by
  induction hs generalizing s with
  | nil =>
    refine ⟨s.memory, rfl, fun _ _ => rfl, ?_, nofun⟩
    intro k hunk after hget
    contradiction
  | cons hunk hs ih =>
    cases hs with
    | nil =>
      refine ⟨s.memory, rfl, fun _ _ => rfl, ?_, fun _ _ => rfl⟩
      intro k first second _ hget'
      contradiction
    | cons after hs =>
      have hsize : hunk.block.size.toNat = 4 * hunk.size.toNat + 8 :=
        toNat_hunkBytes (hplaced.room hunk List.mem_cons_self)
      let linked : Loader := {
        s with
        memory := writeBe32 s.memory (hunk.block.address + 4) (UInt32.ofNat ((after.ptr - 4) / 4))
      }
      have hpoke : s.poke hunk 4 (UInt32.ofNat ((after.ptr - 4) / 4)) = .ok linked :=
        poke_memory (by omega)
      obtain ⟨memory, hlink, hlinked⟩ := ih (s := linked) (placed_tail hplaced)
      refine ⟨memory, ?_, linked_cons hplaced hlinked⟩
      unfold linkHunks
      rw [hpoke]
      exact hlink

end Link

end ZZSd
