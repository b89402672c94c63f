import ZZ9000.Rtg.Bitmaps

/-!
This module contains the accounting of the bitmaps in the memory of the card: over all calls of the
hooks the surfaces of the firmware are the ones on the list of bitmaps, and what a bitmap is
recorded to be fits what was allocated for it.
-/

namespace ZZRtg

/-- Clearing the bits of `mask` takes at most `mask` away. -/
theorem toNat_le_and_not (x mask : UInt32) : x.toNat ≤ (x &&& ~~~mask).toNat + mask.toNat := by
  have hsplit : (x &&& mask) + (x &&& ~~~mask) = x := by
    rw [← UInt32.toBitVec_inj]
    rw [UInt32.toBitVec_add, UInt32.toBitVec_and, UInt32.toBitVec_and, UInt32.toBitVec_not]
    rw [BitVec.add_eq_or_of_and_eq_zero]
    . rw [← BitVec.and_or_distrib_left, BitVec.or_not_self, BitVec.and_allOnes]
    . rw [BitVec.and_comm x.toBitVec, BitVec.and_assoc, ← BitVec.and_assoc x.toBitVec,
        BitVec.and_self, BitVec.and_comm x.toBitVec, ← BitVec.and_assoc, BitVec.and_not_self]
      exact BitVec.zero_and
  have hmask : (x &&& mask).toNat ≤ mask.toNat := UInt32.and_le_right
  have hsum : ((x &&& mask) + (x &&& ~~~mask)).toNat = x.toNat := by rw [hsplit]
  rw [UInt32.toNat_add] at hsum
  omega

theorem le_offscreenPadPitchTo {bytes align : UInt32} (h : offscreenPadPitchTo bytes align ≠ 0)
    : bytes.toNat ≤ (offscreenPadPitchTo bytes align).toNat := by
  unfold offscreenPadPitchTo at *
  dsimp only at *
  generalize (if align < offscreenPitchAlign then offscreenPitchAlign else align) = align at *
  have hassoc : bytes + align - 1 = bytes + (align - 1) := by
    rw [UInt32.sub_eq_add_neg, UInt32.add_assoc, ← UInt32.sub_eq_add_neg]
  rw [hassoc] at *
  generalize align - 1 = mask at *
  split at h
  . contradiction
  next hle =>
    rw [if_neg hle]
    have hclear := toNat_le_and_not (bytes + mask) mask
    rw [UInt32.not_lt, UInt32.le_iff_toNat_le, UInt32.toNat_sub_of_le] at hle
    . rw [UInt32.toNat_add] at hclear
      have hmax : (0xFFFFFFFF : UInt32).toNat = 0xFFFFFFFF := rfl
      omega
    . rw [UInt32.le_iff_toNat_le]
      apply Nat.le_of_lt_succ
      exact mask.toNat_lt

theorem offscreenBytesPerRow_toNat {rgbformat width : UInt32}
    (h : offscreenBytesPerRow rgbformat width ≠ 0)
    : (offscreenBytesPerRow rgbformat width).toNat
        = width.toNat * (rgbformatBytesPerPixel rgbformat).toNat := by
  unfold offscreenBytesPerRow at *
  dsimp only at *
  split at h
  . contradiction
  next hnot =>
    rw [if_neg hnot]
    rw [not_or, UInt32.not_lt, UInt32.le_iff_toNat_le, UInt32.toNat_div] at hnot
    rw [UInt32.toNat_mul]
    apply Nat.mod_eq_of_lt
    apply Nat.lt_of_le_of_lt (Nat.mul_le_of_le_div _ _ _ hnot.2)
    decide

theorem overlayLineBytes_toNat {srcW : UInt32} (h : overlayLineBytes srcW ≠ 0)
    : srcW.toNat * 2 ≤ (overlayLineBytes srcW).toNat := by
  unfold overlayLineBytes at *
  split at h
  . contradiction
  next hnot =>
    rw [if_neg hnot]
    rw [not_or, UInt32.not_lt, UInt32.le_iff_toNat_le] at hnot
    have hmax : overlayMaxDim.toNat = 4096 := rfl
    have hpair : overlayPairBytes.toNat = 4 := rfl
    rw [UInt32.toNat_mul, UInt32.toNat_div, UInt32.toNat_add, hpair]
    have hone : (1 : UInt32).toNat = 1 := rfl
    have htwo : (2 : UInt32).toNat = 2 := rfl
    rw [hone, htwo]
    omega

theorem overlaySurfaceSize_eq_some {srcW srcH size : UInt32}
    (h : overlaySurfaceSize srcW srcH = some size)
    : overlayLineBytes srcW ≠ 0
        ∧ (overlayLineBytes srcW).toNat * srcH.toNat = size.toNat := by
  unfold overlaySurfaceSize at h
  dsimp only at h
  split at h
  . contradiction
  next hnot =>
    rw [not_or, not_or, UInt32.not_lt, UInt32.le_iff_toNat_le, UInt32.toNat_div] at hnot
    obtain ⟨hpitch, _, hle⟩ := hnot
    split at h
    . contradiction
    . refine ⟨hpitch, ?_⟩
      rw [← Option.some.inj h, UInt32.toNat_mul]
      symm
      apply Nat.mod_eq_of_lt
      rw [Nat.mul_comm]
      apply Nat.lt_of_le_of_lt (Nat.mul_le_of_le_div _ _ _ hle)
      decide

theorem rgbformatBytesPerPixel_of_variant {rgbformat : UInt32}
    (h : (overlayVariant rgbformat).isSome) : rgbformatBytesPerPixel rgbformat = 2 := by
  unfold overlayVariant at h
  split at h
  . rfl
  . rfl
  . rfl
  . contradiction

namespace BitMapRequest

variable {r : BitMapRequest}

theorem rowBytes_of_valid (h : r.valid)
    : r.width.toNat * (rgbformatBytesPerPixel r.rgbformat).toNat ≤ r.rowBytes.toNat
        ∧ r.rowBytes.toNat ≤ 0xFFFF
        ∧ (r.rowBytes * r.height).toNat = r.rowBytes.toNat * r.height.toNat
        ∧ 0 < (rgbformatBytesPerPixel r.rgbformat).toNat := by
  unfold valid at h
  simp only [Bool.and_eq_true, bne_iff_ne, decide_eq_true_eq] at h
  obtain ⟨⟨⟨⟨⟨hbpp, _⟩, hrow⟩, _⟩, hmax⟩, hheight⟩ := h
  rw [UInt32.le_iff_toNat_le] at hmax hheight
  have hword : (0xFFFF : UInt32).toNat = 0xFFFF := rfl
  rw [UInt32.toNat_div] at hheight
  rw [hword] at hmax
  have hpad := le_offscreenPadPitchTo hrow
  have hpos : 0 < (rgbformatBytesPerPixel r.rgbformat).toNat := by
    apply Nat.pos_of_ne_zero
    intro hzero
    exact hbpp (UInt32.toNat.inj hzero)
  refine ⟨?_, hmax, ?_, hpos⟩
  . by_cases hzero : offscreenBytesPerRow r.rgbformat r.pitchWidth = 0
    . -- the rows of no bytes were refused: padding does not make them longer
      exfalso
      apply hrow
      unfold rowBytes offscreenPadPitchTo
      dsimp only
      rw [hzero, UInt32.zero_add, UInt32.and_not_self, ite_self]
    . have hbytes := offscreenBytesPerRow_toNat hzero
      have hwidth : r.width.toNat ≤ r.pitchWidth.toNat := by
        unfold pitchWidth
        split
        next hmode =>
          rw [Bool.and_eq_true, decide_eq_true_eq, UInt32.lt_iff_toNat_lt] at hmode
          omega
        . exact Nat.le_refl _
      apply Nat.le_trans (Nat.mul_le_mul_right _ hwidth)
      rw [← hbytes]
      exact hpad
  . rw [UInt32.toNat_mul]
    apply Nat.mod_eq_of_lt
    rw [Nat.mul_comm]
    apply Nat.lt_of_le_of_lt (Nat.mul_le_of_le_div _ _ _ hheight)
    decide

end BitMapRequest

/-- The rows hold the recorded width, and all of them together the recorded height. -/
structure Placement.Sound (p : Placement) : Prop where
  width : p.width.toNat * (rgbformatBytesPerPixel p.format).toNat ≤ p.bytesPerRow.toNat
  size : p.bytesPerRow.toNat * p.height.toNat ≤ p.size.toNat

structure PipRequest.Sound (request : PipRequest) : Prop where
  width : request.width.toNat * (rgbformatBytesPerPixel request.format).toNat ≤ request.pitch.toNat
  size : request.pitch.toNat * request.height.toNat ≤ request.size.toNat

/--
What holds of a bitmap that `ZZ_AllocBitMap` returned. On the Zorro III board its surface was issued
for its size, and it is recorded with the width and the format that were asked for. On the Zorro II
board it lies in the pool.
-/
structure Sized (b : P96Board) (wire : List SurfaceOp) (r : BitMapRequest) (zbm : ZZBitMap)
    : Prop where
  width : zbm.width.toNat * (rgbformatBytesPerPixel zbm.rgbformat).toNat ≤ zbm.bm.bytesPerRow.toNat
  rows : zbm.bm.bytesPerRow.toNat * zbm.bm.rows.toNat ≤ zbm.allocationSize.toNat
  height : zbm.bm.bytesPerRow.toNat * r.height.toNat ≤ zbm.allocationSize.toNat
  surface : b.isZ3 → zbm.width.toUInt32 = r.width ∧ zbm.rgbformat = r.rgbformat
    ∧ ∃ keep, .allocSurface zbm.allocationSize keep zbm.cardOffset ∈ wire
  pool : b.isZ3 = false → zbm.allocationSize ≤ b.pipSize ∧ zbm.cardOffset = b.pipOffset

def ledger (wire : List SurfaceOp) : List (Ledger.Entry UInt32) := wire.filterMap SurfaceOp.entry

theorem SurfaceOp.entry_allocSurface {size cardOffset : UInt32} {keep : Bool} (h : cardOffset ≠ 0)
    : (SurfaceOp.allocSurface size keep cardOffset).entry = some (.issue cardOffset) :=
  if_neg h

theorem ledger_concat (wire : List SurfaceOp) (op : SurfaceOp)
    : ledger (wire ++ [op]) = ledger wire ++ op.entry.toList := by
  unfold ledger
  rw [List.filterMap_append]
  cases h : op.entry with
  | none => simp [h]
  | some entry => simp [h]

namespace Sized

variable {b : P96Board} {wire wire' : List SurfaceOp} {r : BitMapRequest} {zbm : ZZBitMap}

theorem mono (h : Sized b wire r zbm) (hsub : wire ⊆ wire') : Sized b wire' r zbm where
  width := h.width
  rows := h.rows
  height := h.height
  surface := by
    intro hz3
    obtain ⟨hwidth, hformat, keep, hmem⟩ := h.surface hz3
    exact ⟨hwidth, hformat, keep, hsub hmem⟩
  pool := h.pool

/-- The 16 bits of the record are enough where the row is not longer than they allow. -/
theorem of_placement {p : Placement} (hp : p.Sound)
    (hheight : p.bytesPerRow.toNat * r.height.toNat ≤ p.size.toNat)
    (hsurface : b.isZ3 → p.width.toUInt16.toUInt32 = r.width ∧ p.format = r.rgbformat
      ∧ ∃ keep, .allocSurface p.size keep p.cardOffset ∈ wire)
    (hpool : b.isZ3 = false → p.size ≤ b.pipSize ∧ p.cardOffset = b.pipOffset)
    : Sized b wire r (BitmapState.wrapper b p) where
  width := by
    unfold BitmapState.wrapper
    dsimp only
    apply Nat.le_trans (Nat.mul_le_mul_right _ _) hp.width
    rw [UInt32.toNat_toUInt16]
    apply Nat.mod_le
  rows := by
    unfold BitmapState.wrapper
    dsimp only
    apply Nat.le_trans (Nat.mul_le_mul_left _ _) hp.size
    rw [UInt32.toNat_toUInt16]
    apply Nat.mod_le
  height := hheight
  surface := hsurface
  pool := hpool

end Sized

/-- The entry that a search finds, and the rest. -/
theorem perm_cons_eraseP {α : Type} {p : α → Bool} {l : List α} {a : α} (h : l.find? p = some a)
    : l.Perm (a :: l.eraseP p) := by
  induction l with
  | nil => contradiction
  | cons b l ih =>
    rw [List.find?_cons] at h
    rw [List.eraseP_cons]
    split at h
    next hp =>
      rw [Option.some.inj h, ← Option.some.inj h, hp, cond_true]
    next hp =>
      rw [hp, cond_false]
      apply List.Perm.trans (List.Perm.cons b (ih h))
      apply List.Perm.swap

namespace BitmapState

/-- The surfaces of the bitmaps on the list. -/
def surfaces (b : P96Board) (s : BitmapState) : List UInt32 :=
  if b.isZ3 then s.bitmaps.map (fun entry => entry.2.cardOffset) else []

/--
The accounts of the driver are right. `inHand` are surfaces that a hook has got and has not yet put
on the list.
-/
structure Accounted (b : P96Board) (inHand : List UInt32) (s : BitmapState) : Prop where
  surfaces : Ledger.Accounts (ledger s.wire) (inHand ++ s.surfaces b)
  pointers : s.pointers.Nodup
  pool : b.isZ3 = false → ∀ entry ∈ s.bitmaps,
    s.pipBitmap = some entry.1 ∧ b.layoutActive ∧ entry.2.cardOffset = b.pipOffset
  owner : ∀ ptr, s.pipBitmap = some ptr → b.isZ3 = false ∧ ptr ∈ s.pointers
  request : s.pipRequest.Sound
  made : ∀ entry ∈ s.made, Sized b s.wire entry.1 entry.2

variable {b : P96Board} {inHand : List UInt32} {s : BitmapState}

namespace Accounted

theorem start : BitmapState.start.Accounted b [] where
  surfaces := by
    unfold BitmapState.surfaces
    split
    . exact Ledger.Accounts.nil
    . exact Ledger.Accounts.nil
  pointers := List.nodup_nil
  pool := by
    intro _ entry hmem
    contradiction
  owner := by
    intro ptr hptr
    contradiction
  request := ⟨by decide, by decide⟩
  made := by
    intro entry hmem
    contradiction

theorem setOverlay (h : s.Accounted b inHand) (overlay : OverlayState)
    : { s with overlay := overlay }.Accounted b inHand :=
  ⟨h.surfaces, h.pointers, h.pool, h.owner, h.request, h.made⟩

theorem setOverlayBitmap (h : s.Accounted b inHand) (bm : Option BitMapPtr)
    : { s with overlayBitmap := bm }.Accounted b inHand :=
  ⟨h.surfaces, h.pointers, h.pool, h.owner, h.request, h.made⟩

theorem setP96Base (h : s.Accounted b inHand) (base : Bool)
    : { s with p96Base := base }.Accounted b inHand :=
  ⟨h.surfaces, h.pointers, h.pool, h.owner, h.request, h.made⟩

theorem setRequest (h : s.Accounted b inHand) {request : PipRequest} (hsound : request.Sound)
    : { s with pipRequest := request }.Accounted b inHand :=
  ⟨h.surfaces, h.pointers, h.pool, h.owner, hsound, h.made⟩

theorem setPending (h : s.Accounted b inHand) (pending : Bool)
    : { s with pipRequest := { s.pipRequest with pending := pending } }.Accounted b inHand :=
  h.setRequest ⟨h.request.width, h.request.size⟩

/-- A command that gets or returns a surface changes what is in hand. -/
theorem command {inHand' : List UInt32} (h : s.Accounted b inHand) (op : SurfaceOp)
    (hop : Ledger.Accounts (ledger s.wire ++ op.entry.toList) (inHand' ++ s.surfaces b))
    : (s.command op).Accounted b inHand' where
  surfaces := by
    unfold BitmapState.command
    dsimp only
    rw [ledger_concat]
    exact hop
  pointers := h.pointers
  pool := h.pool
  owner := h.owner
  request := h.request
  made := by
    intro entry hmem
    apply (h.made entry hmem).mono
    apply List.subset_append_left

theorem command_of_entry_none (h : s.Accounted b inHand) {op : SurfaceOp} (hop : op.entry = none)
    : (s.command op).Accounted b inHand := by
  apply h.command
  rw [hop, Option.toList_none, List.append_nil]
  exact h.surfaces

/-- The new wrapper takes the surface that was in hand. -/
theorem wrap {r : BitMapRequest} {p : Placement} (mem : AllocMem)
    (h : s.Accounted b (if b.isZ3 then [p.cardOffset] else []))
    (hempty : b.isZ3 = false → s.bitmaps = [] ∧ b.layoutActive ∧ p.cardOffset = b.pipOffset)
    (hsized : Sized b s.wire r (wrapper b p))
    : (s.wrap b r p mem).1.Accounted b [] := by
  unfold BitmapState.wrap
  cases hz3 : b.isZ3 with
  | true =>
    rw [hz3, if_pos rfl] at h
    split
    . rw [if_pos rfl]
      apply h.command
      exact h.surfaces.giveBack
    next ptr hrun =>
      rw [if_pos rfl]
      dsimp only
      rw [if_pos rfl]
      refine ⟨?_, ?_, ?_, ?_, h.request, ?_⟩
      . have := h.surfaces
        unfold BitmapState.surfaces at *
        rw [hz3, if_pos rfl] at *
        exact this
      . exact List.nodup_cons.mpr ⟨mem.fresh _ _ hrun, h.pointers⟩
      . intro hz2
        rw [hz3] at hz2
        contradiction
      . intro q hq
        have := (h.owner q hq).1
        rw [hz3] at this
        contradiction
      . intro entry hmem
        rw [List.mem_append, List.mem_singleton] at hmem
        cases hmem with
        | inl hmem => exact h.made entry hmem
        | inr heq =>
          rw [heq]
          exact hsized
  | false =>
    rw [hz3, if_neg Bool.false_ne_true] at h
    obtain ⟨hbitmaps, hactive, hoffset⟩ := hempty hz3
    split
    . rw [if_neg Bool.false_ne_true]
      exact h
    next ptr hrun =>
      rw [if_neg Bool.false_ne_true]
      dsimp only
      rw [if_neg Bool.false_ne_true]
      have hclear : (s.command (.clear p.cardOffset p.size)).Accounted b [] := by
        apply h.command_of_entry_none
        rfl
      refine ⟨?_, ?_, ?_, ?_, h.request, ?_⟩
      . have := hclear.surfaces
        unfold BitmapState.surfaces at *
        rw [hz3, if_neg Bool.false_ne_true] at *
        exact this
      . exact List.nodup_cons.mpr ⟨mem.fresh _ _ hrun, h.pointers⟩
      . intro _ entry hmem
        change entry ∈ (ptr, wrapper b p) :: s.bitmaps at hmem
        rw [hbitmaps, List.mem_singleton] at hmem
        rw [hmem]
        exact ⟨rfl, hactive, hoffset⟩
      . intro q hq
        refine ⟨hz3, ?_⟩
        rw [← Option.some.inj hq]
        apply List.mem_cons_self
      . intro entry hmem
        rw [List.mem_append, List.mem_singleton] at hmem
        cases hmem with
        | inl hmem => exact hclear.made entry hmem
        | inr heq =>
          rw [heq]
          apply hsized.mono
          apply List.subset_append_left

theorem pipPlacement_eq_some {r : BitMapRequest} {p : Placement} (h : s.Accounted b [])
    (hz2 : b.isZ3 = false) (hp : s.pipPlacement b r = some p)
    : p.Sound ∧ p.bytesPerRow.toNat * r.height.toNat ≤ p.size.toNat
        ∧ p.size ≤ b.pipSize ∧ p.cardOffset = b.pipOffset ∧ b.layoutActive ∧ s.bitmaps = [] := by
  unfold pipPlacement at hp
  split at hp
  . contradiction
  next hnot =>
    simp only [Bool.or_eq_true, not_or, Bool.not_eq_true, Bool.not_eq_false', bne_eq_false_iff_eq,
      decide_eq_false_iff_not, UInt32.not_lt] at hnot
    obtain ⟨⟨⟨⟨⟨⟨hactive, _⟩, howner⟩, _⟩, hheight⟩, hpitch⟩, hsize⟩ := hnot
    have hword : s.pipRequest.pitch.toUInt16.toNat = s.pipRequest.pitch.toNat := by
      rw [UInt32.toNat_toUInt16]
      apply Nat.mod_eq_of_lt
      rw [UInt32.le_iff_toNat_le] at hpitch
      exact Nat.lt_succ_of_le hpitch
    rw [← Option.some.inj hp]
    refine ⟨⟨?_, ?_⟩, ?_, hsize, rfl, hactive, ?_⟩
    . dsimp only
      rw [hword]
      exact h.request.width
    . dsimp only
      rw [hword]
      exact h.request.size
    . dsimp only
      rw [hword, hheight]
      exact h.request.size
    . rw [List.eq_nil_iff_forall_not_mem]
      intro entry hmem
      rw [(h.pool hz2 entry hmem).1] at howner
      contradiction

theorem allocBitMap (h : s.Accounted b []) (r : BitMapRequest) (cardOffset : UInt32)
    (mem : AllocMem)
    : (s.allocBitMap b r cardOffset mem).1.Accounted b [] := by
  unfold BitmapState.allocBitMap
  split
  . exact h
  next hvalid =>
    rw [Bool.not_eq_true, Bool.not_eq_false'] at hvalid
    split
    next hz3 =>
      obtain ⟨hwidth, hmax, hsize, hpos⟩ := r.rowBytes_of_valid hvalid
      dsimp only
      split
      next hzero =>
        apply h.command_of_entry_none
        exact if_pos hzero
      next hissued =>
        have hword : r.rowBytes.toUInt16.toNat = r.rowBytes.toNat := by
          rw [UInt32.toNat_toUInt16]
          apply Nat.mod_eq_of_lt
          omega
        apply wrap
        . rw [hz3, if_pos rfl]
          apply h.command
          rw [SurfaceOp.entry_allocSurface hissued]
          exact h.surfaces.issue cardOffset
        . intro hz2
          rw [hz3] at hz2
          contradiction
        . apply Sized.of_placement
          . constructor
            . dsimp only
              omega
            . dsimp only
              rw [hsize, hword]
          . dsimp only
            rw [hsize, hword]
          . intro _
            refine ⟨?_, rfl, _, List.mem_append_right _ (List.mem_singleton.mpr rfl)⟩
            have hnarrow : r.width.toNat ≤ 0xFFFF := by
              have := Nat.le_mul_of_pos_right r.width.toNat hpos
              omega
            rw [← UInt32.toNat_inj, UInt16.toNat_toUInt32, UInt32.toNat_toUInt16]
            apply Nat.mod_eq_of_lt
            exact Nat.lt_succ_of_le hnarrow
          . intro hz2
            rw [hz3] at hz2
            contradiction
    next hz2 =>
      rw [Bool.not_eq_true] at hz2
      split
      . exact h
      next p hp =>
        obtain ⟨hsound, hheight, hsize, hoffset, hactive, hempty⟩ :=
          pipPlacement_eq_some h hz2 hp
        apply wrap
        . rw [hz2]
          exact h
        . intro _
          exact ⟨hempty, hactive, hoffset⟩
        . apply Sized.of_placement hsound hheight
          . intro hz3
            rw [hz2] at hz3
            contradiction
          . intro _
            exact ⟨hsize, hoffset⟩

end Accounted

theorem ours_eq_some {bm : Option BitMapPtr} {entry : BitMapPtr × ZZBitMap}
    (h : s.ours b bm = some entry)
    : bm = some entry.1 ∧ s.bitmaps.find? (fun e => e.1 == entry.1) = some entry := by
  unfold ours at h
  split at h
  . contradiction
  next ptr =>
    split at h
    . contradiction
    next found hfind =>
      rw [Option.ite_none_right_eq_some] at h
      . rw [← Option.some.inj h.2]
        have hptr : (found.1 == ptr) = true := List.find?_some (p := fun e : BitMapPtr × ZZBitMap => e.1 == ptr) hfind
        rw [eq_of_beq hptr]
        exact ⟨rfl, hfind⟩

/-- A bitmap that is not on the list is not one of ours, whatever its fields are. -/
theorem ours_eq_none {bm : Option BitMapPtr} (h : ∀ ptr, bm = some ptr → ptr ∉ s.pointers)
    : s.ours b bm = none := by
  cases hours : s.ours b bm with
  | none => rfl
  | some entry =>
    obtain ⟨hptr, hfind⟩ := ours_eq_some hours
    exfalso
    apply h entry.1 hptr
    exact List.mem_map_of_mem (List.mem_of_find?_eq_some hfind)

theorem storeBytesPerRow_kept (ptr : BitMapPtr) (bytesPerRow : UInt16)
    (entry : BitMapPtr × ZZBitMap)
    : (storeBytesPerRow ptr bytesPerRow entry).1 = entry.1
        ∧ (storeBytesPerRow ptr bytesPerRow entry).2.cardOffset = entry.2.cardOffset := by
  unfold storeBytesPerRow
  split
  next heq => exact ⟨heq.symm, rfl⟩
  . exact ⟨rfl, rfl⟩

namespace Accounted

theorem freeBitMap (h : s.Accounted b []) (bm : Option BitMapPtr)
    : (s.freeBitMap b bm).1.Accounted b [] := by
  unfold BitmapState.freeBitMap
  split
  . exact h
  next ptr zbm hours =>
    obtain ⟨hptr, hfind⟩ := ours_eq_some hours
    have hperm := perm_cons_eraseP hfind
    have hsub : s.bitmaps.eraseP (fun e => e.1 == ptr) ⊆ s.bitmaps := List.eraseP_subset
    have hnodup : (ptr :: (s.bitmaps.eraseP (fun e => e.1 == ptr)).map Prod.fst).Nodup :=
      (hperm.map Prod.fst).nodup_iff.mp h.pointers
    dsimp only
    split
    next hz3 =>
      have howner : ∀ q, s.pipBitmap ≠ some q := by
        intro q hq
        have := (h.owner q hq).1
        rw [hz3] at this
        contradiction
      have hsurfaces := h.surfaces
      unfold BitmapState.surfaces at hsurfaces
      rw [hz3, if_pos rfl] at hsurfaces
      refine ⟨?_, (List.nodup_cons.mp hnodup).2, ?_, ?_, h.request, ?_⟩
      . unfold BitmapState.surfaces BitmapState.command
        rw [hz3, if_pos rfl]
        dsimp only
        rw [ledger_concat]
        apply Ledger.Accounts.giveBack
        exact hsurfaces.reorder (hperm.map fun entry : BitMapPtr × ZZBitMap => entry.2.cardOffset)
      . intro hz2
        rw [hz3] at hz2
        contradiction
      . intro q hq
        exact absurd hq (howner q)
      . intro entry hmem
        apply (h.made entry hmem).mono
        apply List.subset_append_left
    next hz2 =>
      rw [Bool.not_eq_true] at hz2
      obtain ⟨howner, hactive, hoffset⟩ :=
        h.pool hz2 (ptr, zbm) (List.mem_of_find?_eq_some hfind)
      have hpool : b.layoutActive && zbm.cardOffset == b.pipOffset := by
        rw [hactive, Bool.true_and]
        exact beq_iff_eq.mpr hoffset
      rw [if_pos hpool, if_pos howner]
      have hempty : s.bitmaps.eraseP (fun e => e.1 == ptr) = [] := by
        rw [List.eq_nil_iff_forall_not_mem]
        intro entry hmem
        have hnot := (List.nodup_cons.mp hnodup).1
        have := (h.pool hz2 entry (hsub hmem)).1
        rw [howner] at this
        apply hnot
        have hmapped := List.mem_map_of_mem (f := Prod.fst) hmem
        rw [← Option.some.inj this] at hmapped
        exact hmapped
      refine ⟨?_, (List.nodup_cons.mp hnodup).2, ?_, ?_, h.request, h.made⟩
      . have hsurfaces := h.surfaces
        unfold BitmapState.surfaces at *
        rw [hz2, if_neg Bool.false_ne_true] at *
        exact hsurfaces
      . intro _ entry hmem
        dsimp only at hmem
        rw [hempty] at hmem
        contradiction
      . intro q hq
        contradiction

theorem hook (h : s.Accounted b []) (call : BitmapHook) : (s.hook b call).Accounted b [] := by
  unfold BitmapState.hook
  cases call with
  | allocBitMap width height memory tags turns cardOffset mem =>
    dsimp only
    split
    . exact h
    . apply h.allocBitMap
  | freeBitMap bm => apply h.freeBitMap

theorem hooks (h : s.Accounted b []) (calls : List BitmapHook)
    : (s.hooks b calls).Accounted b [] := by
  unfold BitmapState.hooks
  induction calls generalizing s with
  | nil => exact h
  | cons call calls ih => exact ih (h.hook call)

theorem setBytesPerRow (h : s.Accounted b []) (ptr : BitMapPtr) (bytesPerRow : UInt16)
    : (s.setBytesPerRow ptr bytesPerRow).Accounted b [] := by
  have hpointers : (s.setBytesPerRow ptr bytesPerRow).pointers = s.pointers := by
    unfold BitmapState.setBytesPerRow BitmapState.pointers
    rw [List.map_map]
    apply List.map_congr_left
    intro entry _
    exact (storeBytesPerRow_kept ptr bytesPerRow entry).1
  refine ⟨?_, ?_, ?_, ?_, h.request, h.made⟩
  . have hsurfaces : (s.setBytesPerRow ptr bytesPerRow).surfaces b = s.surfaces b := by
      unfold BitmapState.surfaces BitmapState.setBytesPerRow
      rw [List.map_map]
      congr 1
      apply List.map_congr_left
      intro entry _
      exact (storeBytesPerRow_kept ptr bytesPerRow entry).2
    rw [hsurfaces]
    exact h.surfaces
  . rw [hpointers]
    exact h.pointers
  . intro hz2 entry hmem
    unfold BitmapState.setBytesPerRow at *
    rw [List.mem_map] at hmem
    obtain ⟨old, hold, heq⟩ := hmem
    obtain ⟨hptr, hoffset⟩ := storeBytesPerRow_kept ptr bytesPerRow old
    rw [← heq, hptr, hoffset]
    exact h.pool hz2 old hold
  . rw [hpointers]
    exact h.owner

theorem reclaimPip (h : s.Accounted b []) : (s.reclaimPip b).Accounted b [] := by
  unfold BitmapState.reclaimPip
  split
  . exact h
  . apply h.freeBitMap

theorem overlayFreeSource (h : s.Accounted b []) (freed : List BitmapHook)
    : (s.overlayFreeSource b freed).Accounted b [] := by
  unfold BitmapState.overlayFreeSource
  dsimp only
  split
  . apply h.setPending
  . apply reclaimPip
    apply setOverlayBitmap
    apply hooks
    apply h.setPending

theorem overlayPush (h : s.Accounted b []) (bm : Option BitMap) (status : UInt32)
    : (s.overlayPush b bm status).1.Accounted b [] := by
  unfold BitmapState.overlayPush
  split
  . exact h
  . exact h.command_of_entry_none rfl

theorem requestPip {s' : BitmapState} (h : s.Accounted b [])
    (hvalid : overlaySourceValid s.overlay.srcW.toUInt32 s.overlay.srcH.toUInt32
      s.overlay.rgbformat)
    (hs : s.requestPip b = some s')
    : s'.Accounted b [] := by
  unfold BitmapState.requestPip at hs
  split at hs
  . rw [← Option.some.inj hs]
    exact h
  . dsimp only at hs
    split at hs
    . contradiction
    next size hsize =>
      split at hs
      . contradiction
      . obtain ⟨hpitch, harea⟩ := overlaySurfaceSize_eq_some hsize
        rw [← Option.some.inj hs]
        apply h.setRequest
        constructor
        . unfold overlaySourceValid at hvalid
          rw [Bool.and_eq_true] at hvalid
          rw [rgbformatBytesPerPixel_of_variant hvalid.2]
          exact overlayLineBytes_toNat hpitch
        . exact Nat.le_of_eq harea

theorem showSource (h : s.Accounted b []) (ptr : BitMapPtr) (env : FeatureEnv)
    : (s.showSource b ptr env).1.Accounted b [] := by
  unfold BitmapState.showSource
  dsimp only
  split
  . apply h.overlayFreeSource
  next pitch _ =>
    have htight := h.setBytesPerRow ptr pitch
    split
    . apply htight.overlayFreeSource
    . have hshown : ((s.setBytesPerRow ptr pitch).command .enableOverlay).Accounted b [] := by
        apply htight.command_of_entry_none
        rfl
      split
      . apply overlayPush
        apply hshown.setOverlay
      . apply overlayFreeSource
        apply setOverlay
        apply overlayPush
        apply hshown.setOverlay

theorem createSource (h : s.Accounted b []) (env : FeatureEnv)
    : (s.createSource b env).1.Accounted b [] := by
  unfold BitmapState.createSource
  dsimp only
  have hpending :
      (if b.isZ3 then s
        else { s with pipRequest := { s.pipRequest with pending := true } }).Accounted b [] := by
    split
    . exact h
    . apply h.setPending
  have hsource := ((hpending.hooks env.allocated).setPending false).setOverlayBitmap env.source
  split
  . apply reclaimPip
    exact hsource
  . apply showSource
    exact hsource

theorem createFeature (h : s.Accounted b []) (type : UInt32) (memory : TagMemory) (tags : UInt32)
    (env : FeatureEnv)
    : (s.createFeature b type memory tags env).1.Accounted b [] := by
  unfold BitmapState.createFeature
  split
  . exact h
  split
  . exact h
  split
  . exact h
  dsimp only
  have hoverlay := h.setOverlay (overlayTags memory 64 tags .zero)
  split
  . exact hoverlay
  next hvalid =>
    rw [Bool.not_eq_true, Bool.not_eq_false'] at hvalid
    split
    . exact hoverlay
    next s' hs' =>
      have hrequest := (hoverlay.requestPip hvalid hs').setP96Base (s'.p96Base || env.openLibrary)
      split
      . exact hrequest
      split
      . exact hrequest
      . apply hrequest.createSource

theorem deleteFeature (h : s.Accounted b []) (type : UInt32) (cookie : Bool) (env : FeatureEnv)
    : (s.deleteFeature b type cookie env).1.Accounted b [] := by
  unfold BitmapState.deleteFeature
  split
  . exact h
  . apply overlayFreeSource
    apply setOverlay
    apply h.overlayPush

theorem call (h : s.Accounted b []) (c : BitmapCall) : (s.call b c).Accounted b [] := by
  cases c with
  | hook c => exact h.hook c
  | createFeature type memory tags env => exact h.createFeature type memory tags env
  | deleteFeature type cookie env => exact h.deleteFeature type cookie env

theorem calls (h : s.Accounted b []) (cs : List BitmapCall) : (s.calls b cs).Accounted b [] := by
  unfold BitmapState.calls
  induction cs generalizing s with
  | nil => exact h
  | cons c cs ih => exact ih (h.call c)

end Accounted

/-- The pool of the Zorro II board has no second owner. -/
theorem Accounted.bitmaps_length_le (h : s.Accounted b []) (hz2 : b.isZ3 = false)
    : s.bitmaps.length ≤ 1 := by
  have hpool := h.pool hz2
  have hnodup : (s.bitmaps.map Prod.fst).Nodup := h.pointers
  generalize s.bitmaps = bitmaps at *
  match bitmaps with
  | [] => exact Nat.zero_le 1
  | [_] => exact Nat.le_refl 1
  | first :: second :: rest =>
    have hfirst := (hpool first List.mem_cons_self).1
    have hsecond := (hpool second (List.mem_cons_of_mem _ List.mem_cons_self)).1
    rw [hfirst] at hsecond
    exfalso
    apply (List.nodup_cons.mp hnodup).1
    rw [Option.some.inj hsecond]
    exact List.mem_cons_self

/-- A foreign bitmap is no memory of the driver. -/
theorem setBytesPerRow_foreign {ptr : BitMapPtr} (h : ptr ∉ s.pointers) (bytesPerRow : UInt16)
    : s.setBytesPerRow ptr bytesPerRow = s := by
  have hsame : s.bitmaps.map (storeBytesPerRow ptr bytesPerRow) = s.bitmaps := by
    rw [← List.map_id s.bitmaps, List.map_map]
    apply List.map_congr_left
    intro entry hmem
    have hne : entry.1 ≠ ptr := by
      intro heq
      apply h
      rw [← heq]
      exact List.mem_map_of_mem hmem
    exact if_neg hne
  unfold setBytesPerRow
  rw [hsame]

/--
Over all calls of the four hooks the surfaces of the firmware that were issued and not returned are
the ones on the list, no surface is returned that was not issued before, a foreign bitmap changes
nothing, the pool has one owner at most, and every bitmap fits its memory.
-/
theorem calls_accounted (b : P96Board) (cs : List BitmapCall)
    : let s := start.calls b cs
      let log := ledger s.wire
      (∀ surface, (Ledger.returned log).count surface + (s.surfaces b).count surface
          = (Ledger.issued log).count surface)
        ∧ (∀ part, part <+: log → ∀ surface,
          (Ledger.returned part).count surface ≤ (Ledger.issued part).count surface)
        ∧ s.pointers.Nodup
        ∧ (b.isZ3 = false → s.bitmaps.length ≤ 1)
        ∧ (∀ bm, (∀ ptr, bm = some ptr → ptr ∉ s.pointers) → s.freeBitMap b bm = (s, false))
        ∧ (∀ ptr bytesPerRow, ptr ∉ s.pointers → s.setBytesPerRow ptr bytesPerRow = s)
        ∧ ∀ entry ∈ s.made, Sized b s.wire entry.1 entry.2 := by
  intro s log
  have h : s.Accounted b [] := Accounted.start.calls cs
  refine ⟨h.surfaces.count_add, h.surfaces.ordered, h.pointers, h.bitmaps_length_le, ?_, ?_,
    h.made⟩
  . intro bm hforeign
    unfold freeBitMap
    rw [ours_eq_none hforeign]
  . intro ptr bytesPerRow hforeign
    exact setBytesPerRow_foreign hforeign bytesPerRow

/-- A Zorro II board with a pool of 64 KiB, under a screen of one byte a pixel. -/
def pipBoard : P96Board where
  toBoardInfo :=
    { (default : BoardInfo) with
      memoryBase := 0x200000
      memorySize := 0x300000
      cardFlags := 0
      rgbFormat := 1
      cardData := fun i =>
        if i = CardData.gfxData ∨ i = CardData.apertureInfo ∨ i = CardData.templateOffset then
          0x280000
        else if i = CardData.pipOffset then
          0x290000
        else if i = CardData.pipSize then
          0x10000
        else
          0 }
  allocBitMap := true
  cardWindowSize := 0x3F0000

/-- Two lists of tags: a source of 16 times 16 pixels of YUY2, and the format alone. -/
def pipTags : TagMemory := fun tag =>
  match tag with
  | 8 => ⟨0x8000000A, 16⟩
  | 16 => ⟨0x8000000B, 16⟩
  | 24 => ⟨0x80000007, 14⟩
  | 40 => ⟨0x80000002, 14⟩
  | _ => ⟨tagDone, 0⟩

def oneBitMap : AllocMem where
  run := fun used => if 1 ∈ used then none else some 1
  fresh := by
    intro used ptr hrun
    split at hrun
    . contradiction
    next hnot =>
      rw [← Option.some.inj hrun]
      exact hnot

/--
P96 asks for the 32 pixels of the nominal width in the format of the source, which are 64 bytes, and
gets the rows of the pool, which are 32.
-/
def pipCall : BitmapCall :=
  .createFeature sftMemoryWindow pipTags 8
    { openLibrary := true
      allocated := [.allocBitMap 32 16 pipTags 40 2 0 oneBitMap]
      source := some 1
      foreign := ⟨0, 0, 0, 0⟩
      status := 0
      freed := [] }

theorem calls_pitch_narrow
    : ¬ ∀ (b : P96Board) (cs : List BitmapCall), ∀ entry ∈ (start.calls b cs).made,
      entry.1.width.toNat * (rgbformatBytesPerPixel entry.1.rgbformat).toNat
        ≤ entry.2.bm.bytesPerRow.toNat := by
  intro h
  have hmade : ((start.calls pipBoard [pipCall]).made.map fun entry =>
      (entry.1.width, entry.1.rgbformat, entry.2.bm.bytesPerRow)) = [(32, 14, 32)] := by
    decide +kernel
  have hall := h pipBoard [pipCall]
  cases hlist : (start.calls pipBoard [pipCall]).made with
  | nil =>
    rw [hlist] at hmade
    contradiction
  | cons entry rest =>
    rw [hlist] at hmade hall
    have hhead := (List.cons.inj hmade).1
    have hpitch := hall entry List.mem_cons_self
    rw [(Prod.mk.inj hhead).1, (Prod.mk.inj (Prod.mk.inj hhead).2).1,
      (Prod.mk.inj (Prod.mk.inj hhead).2).2] at hpitch
    revert hpitch
    decide

end BitmapState

end ZZRtg
