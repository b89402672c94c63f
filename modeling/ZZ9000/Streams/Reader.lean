import Mathlib.Data.List.Basic

/-!
This module contains readers that are fed a stream piece by piece and stop when they have seen the
end of a word. A reader whose states stand for the rests of words does not see where the pieces end.
-/

namespace Streams

/-- What a round of the loop of a reader does with the rest of a piece. -/
inductive Round (σ ρ : Type) where
  | goes (used : Nat) (s : σ)
  | waits (s : σ)
  | stops (r : ρ) (s : σ)

/-- A round that ends the loop, with a result or without. -/
def Round.last {σ ρ : Type} (result : Option ρ) (s : σ) : Round σ ρ :=
  match result with
  | none => .waits s
  | some r => .stops r s

structure Reader (σ α β ρ : Type) where
  round : σ → List α → Round σ ρ
  /-- All that was written. -/
  log : σ → List β
  done : ρ

/-- The word and the piece agree as far as they both go. -/
def Comparable {α : Type} (w piece : List α) : Prop := w <+: piece ∨ piece <+: w

namespace Comparable

variable {α : Type} {w x left : List α}

theorem append_iff {taken : List α} : Comparable (taken ++ w) (taken ++ x) ↔ Comparable w x := by
  unfold Comparable
  rw [List.prefix_append_right_inj, List.prefix_append_right_inj]

theorem of_append (h : Comparable w (x ++ left)) : Comparable w x := by
  cases h with
  | inl hle => exact List.prefix_or_prefix_of_prefix hle (List.prefix_append _ _)
  | inr hge => exact .inr ((List.prefix_append _ _).trans hge)

/-- A word that is long enough goes on behind the bytes that are known. -/
theorem split (h : Comparable w (x ++ left)) (hlength : x.length ≤ w.length)
    : ∃ u, w = x ++ u := by
  cases of_append h with
  | inl hle =>
    refine ⟨[], ?_⟩
    rw [hle.eq_of_length_le hlength, List.append_nil]
  | inr hge =>
    obtain ⟨u, hu⟩ := hge
    exact ⟨u, hu.symm⟩

theorem of_start {w' : List α} (h : Comparable w x) (hle : w' <+: w) : Comparable w' x := by
  cases h with
  | inl h => exact .inl (hle.trans h)
  | inr h => exact List.prefix_or_prefix_of_prefix hle h

/-- The same number of bytes at the start. -/
theorem left_eq {x' u u' : List α} (h : Comparable (x ++ u) (x' ++ u'))
    (hlength : x.length = x'.length)
    : x = x' := by
  cases h with
  | inl hle =>
    obtain ⟨t, ht⟩ := hle
    rw [List.append_assoc] at ht
    exact (List.append_inj ht hlength).1
  | inr hge =>
    obtain ⟨t, ht⟩ := hge
    rw [List.append_assoc] at ht
    exact (List.append_inj ht hlength.symm).1.symm

end Comparable

namespace Reader

variable {σ α β γ ρ : Type} (M : Reader σ α β ρ)

/-- Feed a piece, none if that takes more rounds than `fuel`. -/
def feed (fuel : Nat) (s : σ) (piece : List α) : Option (Option ρ × σ) :=
  match fuel with
  | 0 => none
  | fuel + 1 =>
    match M.round s piece with
    | .goes used s' => feed fuel s' (piece.drop used)
    | .waits s' => some (none, s')
    | .stops r s' => some (some r, s')

/-- Feed one piece after the other until there is a result. -/
def feedAll (fuel : Nat) (s : σ) (pieces : List (List α)) : Option (Option ρ × σ) :=
  match pieces with
  | [] => some (none, s)
  | piece :: pieces =>
    match M.feed fuel s piece with
    | some (none, s') => feedAll fuel s' pieces
    | result => result

section Fuel

variable {M} {s : σ} {fuel : Nat} {piece : List α}

theorem feed_mono {x : Option ρ × σ} (h : M.feed fuel s piece = some x) (k : Nat)
    : M.feed (fuel + k) s piece = some x := by
  induction fuel generalizing s piece with
  | zero => contradiction
  | succ fuel ih =>
    rw [Nat.add_right_comm]
    unfold feed at h ⊢
    split at h
    . next used t hround => exact ih h
    . next t hround => exact h
    . next r t hround => exact h

theorem feedAll_mono {pieces : List (List α)} {x : Option ρ × σ}
    (h : M.feedAll fuel s pieces = some x) (k : Nat)
    : M.feedAll (fuel + k) s pieces = some x := by
  induction pieces generalizing s with
  | nil => exact h
  | cons piece pieces ih =>
    unfold feedAll at h ⊢
    cases hfeed : M.feed fuel s piece with
    | none =>
      rw [hfeed] at h
      contradiction
    | some y =>
      rw [hfeed] at h
      rw [feed_mono hfeed k]
      obtain ⟨r, t⟩ := y
      cases r with
      | none => exact ih h
      | some r => exact h

end Fuel

/-- The rests of words in `L g` are `taken` with a rest in `L g'`, as far as the piece goes. -/
structure Derives (L : γ → List α → List β → Prop) (g g' : γ) (taken left : List α)
    (out : List β) : Prop where
  sound : ∀ u o, L g' u o → L g (taken ++ u) (out ++ o)
  complete : ∀ w o, L g w o → Comparable w (taken ++ left) →
    ∃ u o', w = taken ++ u ∧ o = out ++ o' ∧ L g' u o'

namespace Derives

variable {L : γ → List α → List β → Prop} {g g' g'' : γ} {taken left : List α} {out out' : List β}

theorem refl (L : γ → List α → List β → Prop) (g : γ) (left : List α)
    : Derives L g g [] left [] where
  sound := fun _ _ h => h
  complete := fun w o h _ => ⟨w, o, rfl, rfl, h⟩

/-- What was read with a piece stays so when more comes. -/
theorem weaken (h : Derives L g g' taken [] out) (left : List α)
    : Derives L g g' taken left out where
  sound := h.sound
  complete := by
    intro w o hw hcomparable
    refine h.complete w o hw ?_
    rw [List.append_nil]
    exact hcomparable.of_append

theorem trans (h : Derives L g g' taken left out) (h' : Derives L g' g'' left [] out')
    : Derives L g g'' (taken ++ left) [] (out ++ out') where
  sound := by
    intro u o hu
    rw [List.append_assoc, List.append_assoc]
    exact h.sound _ _ (h'.sound u o hu)
  complete := by
    intro w o hw hcomparable
    rw [List.append_nil] at hcomparable
    obtain ⟨u, o', hu, ho, hrest⟩ := h.complete w o hw hcomparable
    rw [hu, Comparable.append_iff, ← List.append_nil left] at hcomparable
    obtain ⟨v, o'', hv, ho', hlast⟩ := h'.complete u o' hrest hcomparable
    refine ⟨v, o'', ?_, ?_, hlast⟩
    . rw [hu, hv, List.append_assoc]
    . rw [ho, ho', List.append_assoc]

end Derives

/-- A state of a reader stands for the rests of words that it will read and what it will write. -/
structure Meaning {σ α β ρ : Type} (_M : Reader σ α β ρ) (γ : Type) where
  Rest : γ → List α → List β → Prop
  Sim : γ → σ → Prop
  rank : σ → Nat
  gaveUp : ρ → Prop

namespace Meaning

/-- What a round at `s` does is right for the rests of words at `g`. -/
def Explains {M : Reader σ α β ρ} (R : M.Meaning γ) (g : γ) (s : σ) (piece : List α)
    : Round σ ρ → Prop
  | .goes used s' =>
    ∃ g' out, R.Sim g' s' ∧ M.log s' = M.log s ++ out
      ∧ Derives R.Rest g g' (piece.take used) (piece.drop used) out
      ∧ (piece.take used ≠ [] ∨ R.rank s' < R.rank s)
  | .waits s' =>
    ∃ g' out, R.Sim g' s' ∧ M.log s' = M.log s ++ out ∧ Derives R.Rest g g' piece [] out
      ∧ ∀ o, ¬R.Rest g' [] o
  | .stops r s' =>
    (r = M.done → ∃ w out, w <+: piece ∧ M.log s' = M.log s ++ out ∧ R.Rest g w out
        ∧ ∀ w' o, R.Rest g w' o → Comparable w' piece → o = out)
      ∧ (r ≠ M.done → R.gaveUp r ∨ ∀ w o, R.Rest g w o → ¬Comparable w piece)

/-- Every round is right. -/
def Explained {M : Reader σ α β ρ} (R : M.Meaning γ) : Prop :=
  ∀ {g s} piece, R.Sim g s → R.Explains g s piece (M.round s piece)

variable {M} (R : M.Meaning γ) {g g' : γ} {s s' t : σ} {piece taken left : List α} {out : List β}
variable {result : Option ρ}

/-- What explains the end of a feed explains it from an earlier state. -/
theorem explains_trans (hlog : M.log s' = M.log s ++ out)
    (hderives : Derives R.Rest g g' taken left out) (h : R.Explains g' s' left (.last result t))
    : R.Explains g s (taken ++ left) (.last result t) := by
  cases result with
  | none =>
    obtain ⟨g'', out', ht, hlog', hderives', hmore⟩ := h
    refine ⟨g'', out ++ out', ht, ?_, hderives.trans hderives', hmore⟩
    rw [hlog', hlog, List.append_assoc]
  | some r =>
    have hback : ∀ w o, R.Rest g w o → Comparable w (taken ++ left) →
        ∃ u o', R.Rest g' u o' ∧ Comparable u left ∧ o = out ++ o' := by
      intro w o hw hcomparable
      obtain ⟨u, o', hu, ho, hrest⟩ := hderives.complete w o hw hcomparable
      rw [hu, Comparable.append_iff] at hcomparable
      exact ⟨u, o', hrest, hcomparable, ho⟩
    constructor
    . intro hdone
      obtain ⟨w, out', hw, hlog', hrest, honly⟩ := h.1 hdone
      refine ⟨taken ++ w, out ++ out', ?_, ?_, hderives.sound _ _ hrest, ?_⟩
      . exact (List.prefix_append_right_inj taken).mpr hw
      . rw [hlog', hlog, List.append_assoc]
      . intro w' o hw' hcomparable
        obtain ⟨u, o', hu, hleft, ho⟩ := hback w' o hw' hcomparable
        rw [ho, honly u o' hu hleft]
    . intro hne
      refine (h.2 hne).imp id fun hno w o hw hcomparable => ?_
      obtain ⟨u, o', hu, hleft, _⟩ := hback w o hw hcomparable
      exact hno u o' hu hleft

/-- A result does not depend on what comes behind. -/
theorem explains_append {r : ρ} (h : R.Explains g s piece (.stops r t)) (more : List α)
    : R.Explains g s (piece ++ more) (.stops r t) := by
  constructor
  . intro hdone
    obtain ⟨w, out, hw, hlog, hrest, honly⟩ := h.1 hdone
    exact ⟨w, out, hw.trans (List.prefix_append _ _), hlog, hrest,
      fun w' o hw' hcomparable => honly w' o hw' hcomparable.of_append⟩
  . intro hne
    exact (h.2 hne).imp id fun hno w o hw hcomparable => hno w o hw hcomparable.of_append

variable (hR : R.Explained)

include hR

theorem explains_feed {fuel : Nat} (hs : R.Sim g s) (h : M.feed fuel s piece = some (result, t))
    : R.Explains g s piece (.last result t) := by
  induction fuel generalizing g s piece with
  | zero => contradiction
  | succ fuel ih =>
    have hround := hR piece hs
    unfold feed at h
    split at h
    . next used s' heq =>
      rw [heq] at hround
      obtain ⟨g', out, hs', hlog, hderives, _⟩ := hround
      have hthis := R.explains_trans hlog hderives (ih hs' h)
      rw [List.take_append_drop] at hthis
      exact hthis
    . next s' heq =>
      rw [Option.some.injEq, Prod.mk.injEq] at h
      rw [heq] at hround
      rw [← h.1, ← h.2]
      exact hround
    . next r s' heq =>
      rw [Option.some.injEq, Prod.mk.injEq] at h
      rw [heq] at hround
      rw [← h.1, ← h.2]
      exact hround

/-- Where the pieces end does not matter for what their words say about the result. -/
theorem explains_feedAll {fuel : Nat} {pieces : List (List α)} (hs : R.Sim g s)
    (hmore : ∀ o, ¬R.Rest g [] o) (h : M.feedAll fuel s pieces = some (result, t))
    : R.Explains g s pieces.flatten (.last result t) := by
  induction pieces generalizing g s with
  | nil =>
    rw [feedAll, Option.some.injEq, Prod.mk.injEq] at h
    rw [← h.1, ← h.2]
    exact ⟨g, [], hs, (List.append_nil _).symm, .refl _ _ _, hmore⟩
  | cons piece pieces ih =>
    rw [List.flatten_cons]
    unfold feedAll at h
    cases hfeed : M.feed fuel s piece with
    | none =>
      rw [hfeed] at h
      contradiction
    | some x =>
      obtain ⟨result', s'⟩ := x
      have hthis := R.explains_feed hR hs hfeed
      rw [hfeed] at h
      cases result' with
      | none =>
        obtain ⟨g', out, hs', hlog, hderives, hmore'⟩ := hthis
        exact R.explains_trans hlog (hderives.weaken _) (ih hs' hmore' h)
      | some r =>
        rw [Option.some.injEq, Prod.mk.injEq] at h
        rw [← h.1, ← h.2]
        exact R.explains_append hthis _

/-- A feed comes to an end: every round reads something or lowers the rank. -/
theorem feed_total (hs : R.Sim g s) : ∃ fuel x, M.feed fuel s piece = some x := by
  induction hn : piece.length using Nat.strongRecOn generalizing g s piece with
  | ind n ihn =>
  induction hk : R.rank s using Nat.strongRecOn generalizing g s with
  | ind k ihk =>
  have hround := hR piece hs
  cases heq : M.round s piece with
  | goes used s' =>
    rw [heq] at hround
    obtain ⟨g', out, hs', _, _, hless⟩ := hround
    have hnext : ∃ fuel x, M.feed fuel s' (piece.drop used) = some x := by
      by_cases htaken : piece.take used = []
      . have hrank := hless.resolve_left (not_not.mpr htaken)
        have hdrop : piece.drop used = piece := by
          have hsplit := List.take_append_drop used piece
          rw [htaken, List.nil_append] at hsplit
          exact hsplit
        rw [hdrop]
        exact ihk (R.rank s') (by omega) hs' rfl
      . have hpositive := List.length_pos_iff.mpr htaken
        rw [List.length_take] at hpositive
        exact ihn _ (by rw [List.length_drop]; omega) hs' rfl
    obtain ⟨fuel, x, hfeed⟩ := hnext
    refine ⟨fuel + 1, x, ?_⟩
    unfold feed
    rw [heq]
    exact hfeed
  | waits s' =>
    refine ⟨1, (none, s'), ?_⟩
    unfold feed
    rw [heq]
  | stops r s' =>
    refine ⟨1, (some r, s'), ?_⟩
    unfold feed
    rw [heq]

theorem feedAll_total {pieces : List (List α)} (hs : R.Sim g s)
    : ∃ fuel x, M.feedAll fuel s pieces = some x := by
  induction pieces generalizing g s with
  | nil => exact ⟨0, _, rfl⟩
  | cons piece pieces ih =>
    have htotal : ∃ fuel x, M.feed fuel s piece = some x := R.feed_total hR hs
    obtain ⟨fuel, ⟨result, s'⟩, hfeed⟩ := htotal
    unfold feedAll
    cases result with
    | some r =>
      refine ⟨fuel, (some r, s'), ?_⟩
      rw [hfeed]
    | none =>
      obtain ⟨g', _, hs', _⟩ := R.explains_feed hR hs hfeed
      obtain ⟨fuel', x, hall⟩ := ih hs'
      refine ⟨fuel + fuel', x, ?_⟩
      rw [feed_mono hfeed fuel', Nat.add_comm]
      exact feedAll_mono hall fuel

/-- A reader that does not give up reads the words and nothing else. -/
theorem feedAll_iff {pieces : List (List α)} {o : List β} (hkeeps : ∀ r, ¬R.gaveUp r)
    (hs : R.Sim g s) (hmore : ∀ o, ¬R.Rest g [] o)
    : (∃ fuel t, M.feedAll fuel s pieces = some (some M.done, t) ∧ M.log t = M.log s ++ o)
        ↔ ∃ w, w <+: pieces.flatten ∧ R.Rest g w o := by
  constructor
  . intro h
    obtain ⟨fuel, t, hall, hlog⟩ := h
    obtain ⟨w, out, hw, hlog', hrest, _⟩ := (R.explains_feedAll hR hs hmore hall).1 rfl
    rw [hlog, List.append_right_inj] at hlog'
    rw [← hlog'] at hrest
    exact ⟨w, hw, hrest⟩
  . intro h
    obtain ⟨w, hw, hrest⟩ := h
    have htotal : ∃ fuel x, M.feedAll fuel s pieces = some x := R.feedAll_total hR hs
    obtain ⟨fuel, ⟨result, t⟩, hall⟩ := htotal
    have hthis := R.explains_feedAll hR hs hmore hall
    cases result with
    | none =>
      obtain ⟨g', out, _, _, hderives, hmore'⟩ := hthis
      obtain ⟨u, o', hu, _, hrest'⟩ :=
        hderives.complete w o hrest (.inl (hw.trans (List.prefix_append _ _)))
      rw [hu] at hw
      have hnil : u = [] := by
        have hle := hw.length_le
        rw [List.length_append] at hle
        exact List.length_eq_zero_iff.mp (by omega)
      rw [hnil] at hrest'
      exact absurd hrest' (hmore' o')
    | some r =>
      by_cases hdone : r = M.done
      . obtain ⟨_, out, _, hlog, _, honly⟩ := hthis.1 hdone
        rw [hdone] at hall
        refine ⟨fuel, t, hall, ?_⟩
        rw [hlog, honly w o hrest (.inl hw)]
      . cases hthis.2 hdone with
        | inl hgave => exact absurd hgave (hkeeps r)
        | inr hno => exact absurd (.inl hw) (hno w o hrest)

end Meaning

end Reader

end Streams
