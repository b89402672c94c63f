import ZZ9000.Mhi.Player
import Mathlib.Data.List.Pairwise

/-!
This module contains the list of buffers as a stream of bytes: what of it has been fed, and what has
not.
-/

namespace ZZMhi

/-- The bytes of the buffers. -/
def bufferBytes (nodes : List ListNode) : List UInt8 := (nodes.map ListNode.data).flatten

/-- The bytes that have been fed. -/
def fedBytes (nodes : List ListNode) : List UInt8 :=
  (nodes.map fun node => node.data.take node.index).flatten

/-- The bytes that have not been fed. -/
def unfedBytes (nodes : List ListNode) : List UInt8 :=
  (nodes.map fun node => node.data.drop node.index).flatten

/-- The buffers are fed one after the other, and only buffers that have been fed are played. -/
structure FedInOrder (nodes : List ListNode) : Prop where
  order : nodes.Pairwise fun a b => a.index < a.size → b.index = 0
  le : ∀ node ∈ nodes, node.index ≤ node.size
  pos : ∀ node ∈ nodes, 0 < node.size
  played : ∀ node ∈ nodes, node.played = true → node.size ≤ node.index
  ended : ∀ node ∈ nodes, node.streamEndValid = true → node.size ≤ node.index
  nodup : (nodes.map ListNode.ptr).Nodup

/-- Nothing has been fed. -/
def Untouched (nodes : List ListNode) : Prop := ∀ node ∈ nodes, node.index = 0

variable {nodes pre post : List ListNode} {node : ListNode}

theorem FedInOrder.tail (h : FedInOrder (node :: nodes))
    : FedInOrder nodes where
  order := (List.pairwise_cons.mp h.order).2
  le := by
    intro n hn
    exact h.le n (List.mem_cons_of_mem _ hn)
  pos := by
    intro n hn
    exact h.pos n (List.mem_cons_of_mem _ hn)
  played := by
    intro n hn
    exact h.played n (List.mem_cons_of_mem _ hn)
  ended := by
    intro n hn
    exact h.ended n (List.mem_cons_of_mem _ hn)
  nodup := (List.nodup_cons.mp h.nodup).2

theorem FedInOrder.nil
    : FedInOrder [] where
  order := List.Pairwise.nil
  le := by simp
  pos := by simp
  played := by simp
  ended := by simp
  nodup := List.nodup_nil

theorem fedBytes_untouched (h : Untouched nodes)
    : fedBytes nodes = [] := by
  unfold fedBytes
  rw [List.flatten_eq_nil_iff]
  intro bytes hbytes
  obtain ⟨node, hmem, rfl⟩ := List.mem_map.mp hbytes
  rw [h node hmem]
  rfl

theorem unfedBytes_untouched (h : Untouched nodes)
    : unfedBytes nodes = bufferBytes nodes := by
  unfold unfedBytes bufferBytes
  congr 1
  apply List.map_congr_left
  intro node hmem
  rw [h node hmem]
  rfl

theorem fedBytes_append
    : fedBytes (pre ++ post) = fedBytes pre ++ fedBytes post := by
  simp [fedBytes]

theorem unfedBytes_append
    : unfedBytes (pre ++ post) = unfedBytes pre ++ unfedBytes post := by
  simp [unfedBytes]

theorem bufferBytes_append
    : bufferBytes (pre ++ post) = bufferBytes pre ++ bufferBytes post := by
  simp [bufferBytes]

theorem fedBytes_cons
    : fedBytes (node :: nodes) = node.data.take node.index ++ fedBytes nodes := by
  rfl

theorem unfedBytes_cons
    : unfedBytes (node :: nodes) = node.data.drop node.index ++ unfedBytes nodes := by
  rfl

theorem bufferBytes_cons
    : bufferBytes (node :: nodes) = node.data ++ bufferBytes nodes := by
  rfl

theorem fedBytes_full (h : ∀ node ∈ nodes, node.size ≤ node.index)
    : fedBytes nodes = bufferBytes nodes := by
  unfold fedBytes bufferBytes
  congr 1
  apply List.map_congr_left
  intro node hmem
  exact List.take_of_length_le (h node hmem)

theorem unfedBytes_full (h : ∀ node ∈ nodes, node.size ≤ node.index)
    : unfedBytes nodes = [] := by
  unfold unfedBytes
  rw [List.flatten_eq_nil_iff]
  intro bytes hbytes
  obtain ⟨node, hmem, rfl⟩ := List.mem_map.mp hbytes
  exact List.drop_of_length_le (h node hmem)

/-- What has been fed comes before what has not. -/
theorem FedInOrder.bufferBytes_eq (h : FedInOrder nodes)
    : bufferBytes nodes = fedBytes nodes ++ unfedBytes nodes := by
  induction nodes with
  | nil => rfl
  | cons node nodes ih =>
    rw [bufferBytes_cons, fedBytes_cons, unfedBytes_cons]
    by_cases hfull : node.size ≤ node.index
    . rw [List.take_of_length_le hfull, List.drop_of_length_le hfull, ih h.tail]
      simp
    . have huntouched : Untouched nodes := by
        intro n hn
        exact (List.pairwise_cons.mp h.order).1 n hn (by omega)
      rw [fedBytes_untouched huntouched, unfedBytes_untouched huntouched, List.append_nil,
        ← List.append_assoc, List.take_append_drop]

/-- The first buffer that has not been fed comes between those that have and those to come. -/
theorem FedInOrder.firstUnfed_eq_some (h : FedInOrder nodes) (hfirst : firstUnfed nodes = some node)
    : ∃ pre post, nodes = pre ++ node :: post ∧ (∀ n ∈ pre, n.size ≤ n.index)
        ∧ node.index < node.size ∧ Untouched post := by
  rw [firstUnfed, List.find?_eq_some_iff_append] at hfirst
  obtain ⟨hunfed, pre, post, rfl, hpre⟩ := hfirst
  have hlt : node.index < node.size := by simpa using hunfed
  refine ⟨pre, post, rfl, ?_, hlt, ?_⟩
  . intro n hn
    simpa using hpre n hn
  . intro n hn
    have := (List.pairwise_append.mp h.order).2.1
    exact (List.pairwise_cons.mp this).1 n hn hlt

theorem firstUnfed_append_of_some (hfirst : firstUnfed nodes = some node)
    : firstUnfed (nodes ++ post) = some node := by
  unfold firstUnfed at *
  rw [List.find?_append, hfirst]
  rfl

theorem firstUnfed_tail (hfull : node.size ≤ node.index)
    : firstUnfed (node :: nodes) = firstUnfed nodes := by
  unfold firstUnfed
  rw [List.find?_cons_of_neg]
  simp
  omega

/-- `MHIQueueBuffer` keeps the order. -/
theorem FedInOrder.addTail (h : FedInOrder nodes) {ptr buffer : Nat} {data : List UInt8}
    (hdata : data ≠ []) (hptr : ptr ∉ nodes.map ListNode.ptr)
    : FedInOrder (nodes ++ [MhiPlayer.newNode ptr buffer data]) where
  order := by
    rw [List.pairwise_append]
    refine ⟨h.order, List.pairwise_singleton _ _, ?_⟩
    intro a _ b hb _
    rw [List.mem_singleton.mp hb]
    rfl
  le := by
    intro n hn
    rw [List.mem_append, List.mem_singleton] at hn
    cases hn with
    | inl hn => exact h.le n hn
    | inr hn =>
      rw [hn]
      exact Nat.zero_le _
  pos := by
    intro n hn
    rw [List.mem_append, List.mem_singleton] at hn
    cases hn with
    | inl hn => exact h.pos n hn
    | inr hn =>
      rw [hn]
      exact List.length_pos_iff.mpr hdata
  played := by
    intro n hn hplayed
    rw [List.mem_append, List.mem_singleton] at hn
    cases hn with
    | inl hn => exact h.played n hn hplayed
    | inr hn =>
      rw [hn] at hplayed
      contradiction
  ended := by
    intro n hn hended
    rw [List.mem_append, List.mem_singleton] at hn
    cases hn with
    | inl hn => exact h.ended n hn hended
    | inr hn =>
      rw [hn] at hended
      contradiction
  nodup := by
    rw [List.map_append, List.nodup_append]
    refine ⟨h.nodup, List.nodup_singleton _, ?_⟩
    intro a ha b hb heq
    rw [List.map_singleton, List.mem_singleton] at hb
    apply hptr
    rw [heq, hb] at ha
    exact ha

/-- The ends of the buffers are counted from the bytes before them, as far as they are known. -/
def EndsAfter (before : Nat) (nodes : List ListNode) : Prop :=
  match nodes with
  | [] => True
  | node :: nodes =>
    (node.streamEndValid = true → node.streamEnd = UInt32.ofNat (before + node.size))
      ∧ EndsAfter (before + node.size) nodes

theorem endsAfter_append {before : Nat}
    : EndsAfter before (pre ++ post)
        ↔
      EndsAfter before pre ∧ EndsAfter (before + (bufferBytes pre).length) post := by
  induction pre generalizing before with
  | nil => simp [EndsAfter, bufferBytes]
  | cons node pre ih =>
    rw [List.cons_append, EndsAfter, EndsAfter, ih, bufferBytes_cons, List.length_append,
      ListNode.size, Nat.add_assoc, and_assoc]

/-- The accepted chunk is accounted to the node that it was taken from. -/
theorem map_advance (hnodup : ((pre ++ node :: post).map ListNode.ptr).Nodup) {chunk : Nat}
    {submittedBytes : UInt32}
    : (pre ++ node :: post).map
          (fun n => if n.ptr = node.ptr then n.advance chunk submittedBytes else n)
        =
      pre ++ node.advance chunk submittedBytes :: post := by
  have hother (nodes : List ListNode) (h : node.ptr ∉ nodes.map ListNode.ptr)
      : nodes.map (fun n => if n.ptr = node.ptr then n.advance chunk submittedBytes else n)
          = nodes := by
    rw [List.map_congr_left (g := id)]
    . exact List.map_id _
    . intro n hn
      apply if_neg
      intro heq
      apply h
      rw [← heq]
      exact List.mem_map_of_mem hn
  rw [List.map_append, List.map_cons, List.nodup_append] at hnodup
  rw [List.map_append, List.map_cons, if_pos rfl, hother pre, hother post]
  . exact (List.nodup_cons.mp hnodup.2.1).1
  . intro hmem
    exact hnodup.2.2 _ hmem _ List.mem_cons_self rfl

/-- An accepted chunk keeps the order. -/
theorem FedInOrder.advance (h : FedInOrder (pre ++ node :: post))
    (hpre : ∀ n ∈ pre, n.size ≤ n.index) (hpost : Untouched post) {chunk : Nat}
    (hchunk : chunk ≤ node.size - node.index) (submittedBytes : UInt32)
    : FedInOrder (pre ++ node.advance chunk submittedBytes :: post) where
  order := by
    have horder := List.pairwise_append.mp h.order
    rw [List.pairwise_append]
    refine ⟨horder.1, ?_, ?_⟩
    . rw [List.pairwise_cons]
      refine ⟨?_, (List.pairwise_cons.mp horder.2.1).2⟩
      intro n hn _
      exact hpost n hn
    . intro a ha b _ hlt
      have := hpre a ha
      omega
  le := by
    intro n hn
    rw [List.mem_append, List.mem_cons] at hn
    obtain hn | rfl | hn := hn
    . exact h.le n (by simp [hn])
    . rw [ListNode.index_advance, ListNode.size_advance]
      have := h.le node (by simp)
      omega
    . exact h.le n (by simp [hn])
  pos := by
    intro n hn
    rw [List.mem_append, List.mem_cons] at hn
    obtain hn | rfl | hn := hn
    . exact h.pos n (by simp [hn])
    . rw [ListNode.size_advance]
      exact h.pos node (by simp)
    . exact h.pos n (by simp [hn])
  played := by
    intro n hn hplayed
    rw [List.mem_append, List.mem_cons] at hn
    obtain hn | rfl | hn := hn
    . exact h.played n (by simp [hn]) hplayed
    . rw [ListNode.played_advance] at hplayed
      have := h.played node (by simp) hplayed
      rw [ListNode.index_advance, ListNode.size_advance]
      omega
    . exact h.played n (by simp [hn]) hplayed
  ended := by
    intro n hn hended
    rw [List.mem_append, List.mem_cons] at hn
    obtain hn | rfl | hn := hn
    . exact h.ended n (by simp [hn]) hended
    . have hvalid := h.ended node (by simp)
      rw [ListNode.index_advance, ListNode.size_advance]
      dsimp only [ListNode.advance] at hended
      split at hended
      . next hfull => exact hfull
      . have := hvalid hended
        omega
    . exact h.ended n (by simp [hn]) hended
  nodup := by
    have := h.nodup
    rw [List.map_append, List.map_cons] at this ⊢
    rw [ListNode.ptr_advance]
    exact this

/-- It has been fed then. -/
theorem fedBytes_advance (hpost : Untouched post) {chunk : Nat} {submittedBytes : UInt32}
    : fedBytes (pre ++ node.advance chunk submittedBytes :: post)
        =
      fedBytes (pre ++ node :: post) ++ (node.data.drop node.index).take chunk := by
  rw [fedBytes_append, fedBytes_append, fedBytes_cons, fedBytes_cons, fedBytes_untouched hpost,
    ListNode.data_advance, ListNode.index_advance, List.take_add]
  simp

/-- The end of a buffer that has been fed is where the feeding stands. -/
theorem EndsAfter.advance {before chunk : Nat} (h : EndsAfter before (pre ++ node :: post))
    (hpre : ∀ n ∈ pre, n.size ≤ n.index) (hpost : Untouched post)
    (hle : node.index + chunk ≤ node.size) {submittedBytes : UInt32}
    (hsubmitted : submittedBytes = UInt32.ofNat
      (before + (fedBytes (pre ++ node.advance chunk submittedBytes :: post)).length))
    : EndsAfter before (pre ++ node.advance chunk submittedBytes :: post) := by
  rw [endsAfter_append] at h ⊢
  obtain ⟨hbefore, hnode, hafter⟩ := h
  refine ⟨hbefore, ?_, ?_⟩
  . intro hvalid
    rw [fedBytes_append, fedBytes_cons, fedBytes_untouched hpost, fedBytes_full hpre,
      ListNode.data_advance, ListNode.index_advance] at hsubmitted
    rw [ListNode.size_advance]
    dsimp only [ListNode.advance] at hvalid ⊢
    split
    . next hfull =>
      dsimp only
      rw [hsubmitted]
      congr 1
      dsimp only [ListNode.size] at hfull hle ⊢
      simp only [List.append_nil, List.length_append, List.length_take]
      omega
    . next hfull =>
      rw [if_neg hfull] at hvalid
      exact hnode hvalid
  . rw [ListNode.size_advance]
    exact hafter

section MarkPlayed

variable {drainAll : Bool} {bytesConsumed : UInt32}

/-- To mark buffers as played changes nothing else about them. -/
theorem map_markPlayed {f : ListNode → β} (hf : ∀ node, f { node with played := true } = f node)
    : (markPlayed drainAll bytesConsumed nodes).map f = nodes.map f := by
  induction nodes with
  | nil => rfl
  | cons node nodes ih =>
    unfold markPlayed
    split
    . rw [List.map_cons, List.map_cons, ih]
    . split
      . rfl
      . rw [List.map_cons, List.map_cons, ih, hf]

theorem fedBytes_markPlayed
    : fedBytes (markPlayed drainAll bytesConsumed nodes) = fedBytes nodes := by
  unfold fedBytes
  rw [map_markPlayed]
  intro node
  rfl

theorem unfedBytes_markPlayed
    : unfedBytes (markPlayed drainAll bytesConsumed nodes) = unfedBytes nodes := by
  unfold unfedBytes
  rw [map_markPlayed]
  intro node
  rfl

theorem firstUnfed_markPlayed
    : firstUnfed (markPlayed drainAll bytesConsumed nodes) = firstUnfed nodes := by
  induction nodes with
  | nil => rfl
  | cons node nodes ih =>
    unfold markPlayed
    split
    . unfold firstUnfed at *
      rw [List.find?_cons, List.find?_cons, ih]
    . split
      . rfl
      . next hmark =>
        simp only [Bool.or_eq_true, decide_eq_true_eq, not_or] at hmark
        have hfull : node.size ≤ node.index := by omega
        have hfull' : ({ node with played := true } : ListNode).size ≤ node.index := hfull
        rw [firstUnfed_tail hfull', firstUnfed_tail hfull, ih]

theorem endsAfter_markPlayed {before : Nat} (h : EndsAfter before nodes)
    : EndsAfter before (markPlayed drainAll bytesConsumed nodes) := by
  induction nodes generalizing before with
  | nil => exact h
  | cons node nodes ih =>
    unfold markPlayed
    split
    . exact ⟨h.1, ih h.2⟩
    . split
      . exact h
      . exact ⟨h.1, ih h.2⟩

/-- A buffer after the marking is one from before, or it was marked. -/
theorem mem_markPlayed_or (hmem : node ∈ markPlayed drainAll bytesConsumed nodes)
    : node ∈ nodes ∨ ∃ node' ∈ nodes, node = { node' with played := true }
        ∧ node'.size ≤ node'.index := by
  induction nodes with
  | nil => simp [markPlayed] at hmem
  | cons head nodes ih =>
    have hlater (hmem : node ∈ markPlayed drainAll bytesConsumed nodes)
        : node ∈ head :: nodes ∨ ∃ node' ∈ head :: nodes, node = { node' with played := true }
            ∧ node'.size ≤ node'.index := by
      cases ih hmem with
      | inl hmem => exact .inl (List.mem_cons_of_mem _ hmem)
      | inr hmarked =>
        obtain ⟨node', hmem', heq⟩ := hmarked
        exact .inr ⟨node', List.mem_cons_of_mem _ hmem', heq⟩
    unfold markPlayed at hmem
    split at hmem
    . cases List.mem_cons.mp hmem with
      | inl heq =>
        rw [heq]
        exact .inl List.mem_cons_self
      | inr hmem => exact hlater hmem
    . split at hmem
      . exact .inl hmem
      . next hmark =>
        simp only [Bool.or_eq_true, decide_eq_true_eq, not_or] at hmark
        cases List.mem_cons.mp hmem with
        | inl heq => exact .inr ⟨head, List.mem_cons_self, heq, by omega⟩
        | inr hmem => exact hlater hmem

theorem FedInOrder.markPlayed (h : FedInOrder nodes)
    : FedInOrder (markPlayed drainAll bytesConsumed nodes) where
  order := by
    have hindex : (ZZMhi.markPlayed drainAll bytesConsumed nodes).map
          (fun node => (node.index, node.size))
        = nodes.map fun node => (node.index, node.size) := by
      apply map_markPlayed
      intro node
      rfl
    have horder := h.order
    rw [← List.pairwise_map (f := fun node : ListNode => (node.index, node.size))
      (R := fun a b => a.1 < a.2 → b.1 = 0)] at horder ⊢
    rw [hindex]
    exact horder
  le := by
    intro n hn
    cases mem_markPlayed_or hn with
    | inl hmem => exact h.le n hmem
    | inr hmarked =>
      obtain ⟨n', hmem, rfl, _⟩ := hmarked
      exact h.le n' hmem
  pos := by
    intro n hn
    cases mem_markPlayed_or hn with
    | inl hmem => exact h.pos n hmem
    | inr hmarked =>
      obtain ⟨n', hmem, rfl, _⟩ := hmarked
      exact h.pos n' hmem
  played := by
    intro n hn hplayed
    cases mem_markPlayed_or hn with
    | inl hmem => exact h.played n hmem hplayed
    | inr hmarked =>
      obtain ⟨n', hmem, rfl, hfull⟩ := hmarked
      exact hfull
  ended := by
    intro n hn hended
    cases mem_markPlayed_or hn with
    | inl hmem => exact h.ended n hmem hended
    | inr hmarked =>
      obtain ⟨n', hmem, rfl, hfull⟩ := hmarked
      exact hfull
  nodup := by
    rw [map_markPlayed]
    . exact h.nodup
    . intro node
      rfl

/-- What a buffer that is marked has gone through. -/
theorem markPlayed_at {node' : ListNode}
    (hat : (markPlayed drainAll bytesConsumed (pre ++ node :: post))[pre.length]? = some node')
    (hold : node.played = false) (hnew : node'.played = true)
    : node.size ≤ node.index ∧ node.streamEndValid = true
        ∧ (drainAll = true ∨ cursorReached bytesConsumed node.streamEnd = true) := by
  induction pre with
  | nil =>
    simp only [List.nil_append, List.length_nil] at hat
    unfold markPlayed at hat
    rw [hold] at hat
    simp only [Bool.false_eq_true, if_false] at hat
    split at hat
    . simp only [List.getElem?_cons_zero, Option.some.injEq] at hat
      rw [← hat, hold] at hnew
      contradiction
    . next hmark =>
      simp only [Bool.or_eq_true, decide_eq_true_eq, not_or, Bool.not_eq_true,
        Bool.not_eq_false', Bool.and_eq_true, not_and] at hmark
      refine ⟨by omega, by simpa using hmark.1.2, ?_⟩
      cases drainAll with
      | false =>
        apply Or.inr
        simpa using hmark.2
      | true => exact .inl rfl
  | cons head pre ih =>
    apply ih
    rw [List.cons_append] at hat
    unfold markPlayed at hat
    split at hat
    . exact hat
    . split at hat
      . -- the loop has stopped before
        simp only [List.length_cons, List.getElem?_cons_succ] at hat
        rw [List.getElem?_append_right (Nat.le_refl _)] at hat
        simp only [Nat.sub_self, List.getElem?_cons_zero, Option.some.injEq] at hat
        rw [← hat, hold] at hnew
        contradiction
      . exact hat

end MarkPlayed

end ZZMhi
