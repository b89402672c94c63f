import Mathlib.Data.UInt
import ZZ9000.FwRelease.Chunked

/-!
This module proves that the chunked decoder reads its input byte by byte, wherever the calls split it,
and that it reads back what was written in chunks.
-/

namespace ZZRel

open Streams

/-- A sink that always continues. -/
def accept : Sink := fun _ _ => false

/-- The decoder as a machine that is given one byte at a time. -/
def chunkedMachine : Machine Chunked UInt8 UInt8 where
  step c b :=
    if c.state = .data then
      let remaining := c.remaining - 1
      ({ c with remaining, state := if remaining = 0 then .dataCr else .data }, [b])
    else
      (chunkedControl c b, [])

/-- In the data of a chunk there is a byte left to read. -/
def Chunked.Sound (c : Chunked) : Prop := c.state = .data → c.remaining ≠ 0

theorem sound_chunkedControl {c : Chunked} (b : UInt8) (h : c.Sound)
    : (chunkedControl c b).Sound := by
  intro hdata
  unfold chunkedControl at hdata ⊢
  cases hstate : c.state with
  | data =>
    exact h hstate
  | sizeLf =>
    simp only [hstate] at hdata ⊢
    split at hdata
    next => simp at hdata
    next hlf =>
      rw [if_neg hlf]
      intro hremaining
      simp [show c.remaining = 0 from hremaining] at hdata
  | size =>
    simp only [hstate] at hdata
    grind
  | _ =>
    simp only [hstate] at hdata
    grind

theorem step_of_data {c : Chunked} (h : c.state = .data) (b : UInt8)
    : chunkedMachine.step c b
        = ({ c with
            remaining := c.remaining - 1
            state := if c.remaining - 1 = 0 then .dataCr else .data }, [b]) := by
  unfold chunkedMachine
  exact if_pos h

theorem step_of_not_data {c : Chunked} (h : c.state ≠ .data) (b : UInt8)
    : chunkedMachine.step c b = (chunkedControl c b, []) := by
  unfold chunkedMachine
  exact if_neg h

theorem run_data {c : Chunked} (block : List UInt8) (hdata : c.state = .data)
    (hpositive : 0 < block.length) (hle : block.length ≤ c.remaining.toNat)
    : chunkedMachine.Run c block block
        { c with
          remaining := c.remaining - UInt32.ofNat block.length
          state := if c.remaining - UInt32.ofNat block.length = 0 then .dataCr else .data } := by
  induction block generalizing c with
  | nil => simp at hpositive
  | cons b block ih =>
    cases block with
    | nil => exact Machine.Run.single (step_of_data hdata b)
    | cons b' block =>
      rw [List.length_cons] at hle ⊢
      have hone : (1 : UInt32) ≤ c.remaining := by
        apply UInt32.le_iff_toNat_le.mpr
        exact Nat.le_trans (Nat.succ_le_succ (Nat.zero_le _)) hle
      have hremaining : (c.remaining - 1).toNat = c.remaining.toNat - 1 :=
        UInt32.toNat_sub_of_le _ _ hone
      have hmore : ¬c.remaining - 1 = 0 := by
        intro hzero
        rw [hzero] at hremaining
        rw [List.length_cons] at hle
        simp at hremaining
        omega
      have hsub : c.remaining - UInt32.ofNat ((b' :: block).length + 1)
          = c.remaining - 1 - UInt32.ofNat (b' :: block).length := by
        have hnat : UInt32.ofNat 1 = 1 := rfl
        rw [UInt32.ofNat_add, hnat]
        grind
      rw [hsub]
      have hstep := step_of_data hdata b
      rw [if_neg hmore] at hstep
      apply Machine.Run.cons hstep
      apply ih
      . rfl
      . simp
      . simp only
        omega

/-- What one round of the loop gives to the sink. -/
theorem run_block {c : Chunked} (b : UInt8) (rest : List UInt8) (hdata : c.state = .data)
    (hremaining : c.remaining ≠ 0)
    : let n := min (b :: rest).length c.remaining.toNat
      let remaining := c.remaining - UInt32.ofNat n
      chunkedMachine.Run c ((b :: rest).take n) ((b :: rest).take n)
        { c with remaining, state := if remaining = 0 then .dataCr else .data } := by
  intro n remaining
  have hpositive : 0 < c.remaining.toNat := by
    apply Nat.pos_of_ne_zero
    intro hzero
    apply hremaining
    exact UInt32.toNat_inj.mp hzero
  have hlength : ((b :: rest).take n).length = n := by
    rw [List.length_take]
    omega
  have hrun := run_data ((b :: rest).take n) hdata
    (by rw [hlength]; simp only [n, List.length_cons]; omega) (by rw [hlength]; omega)
  rw [hlength] at hrun
  exact hrun

theorem halted {c : Chunked} (h : c.state = .done ∨ c.state = .error) : chunkedMachine.Halted c := by
  intro b
  rw [step_of_not_data (by rcases h with h | h <;> rw [h] <;> decide)]
  unfold chunkedControl
  rcases h with h | h <;> simp only [h]

/-- None of the blocks is refused. -/
def Continues (sink : Sink) (given blocks : List (List UInt8)) : Prop :=
  match blocks with
  | [] => True
  | block :: blocks => sink given block = false ∧ Continues sink (given ++ [block]) blocks

/-- The last one of the blocks is refused. -/
def Refuses (sink : Sink) (given blocks : List (List UInt8)) : Prop :=
  match blocks with
  | [] => False
  | block :: blocks =>
    sink given block = true ∧ blocks = [] ∨
      sink given block = false ∧ Refuses sink (given ++ [block]) blocks

/--
The decoder went from `c` to `c'` over `data` and gave `blocks` to its sink: either it did what the
machine does, or the sink refused a block and everything before agrees with the machine.
-/
def Fed (sink : Sink) (c : Chunked) (given : List (List UInt8)) (data : List UInt8) (c' : Chunked)
    (blocks : List (List UInt8)) : Prop :=
  Continues sink given blocks ∧ c' = chunkedMachine.state c data ∧
      blocks.flatten = chunkedMachine.output c data ∨
    Refuses sink given blocks ∧ c'.state = .error ∧
      blocks.flatten <+: chunkedMachine.output c data

theorem chunkedLoop_fed (sink : Sink) (c : Chunked) (given : List (List UInt8)) (data : List UInt8)
    (h : c.Sound)
    : ∃ blocks, (chunkedLoop sink c given data).2 = given ++ blocks ∧
        Fed sink c given data (chunkedLoop sink c given data).1 blocks := by
  fun_induction chunkedLoop sink c given data with
  | case1 c given =>
    refine ⟨[], (List.append_nil _).symm, .inl ⟨trivial, rfl, rfl⟩⟩
  | case2 c given b rest hhalted =>
    have hrun := (halted hhalted).run (b :: rest)
    refine ⟨[], (List.append_nil _).symm, .inl ⟨trivial, hrun.1.symm, hrun.2.symm⟩⟩
  | case3 c given b rest hrun hdata n block hrefused =>
    refine ⟨[block], rfl, .inr ⟨.inl ⟨hrefused, rfl⟩, rfl, ?_⟩⟩
    have hall := (run_block b rest hdata (h hdata)).append (chunkedMachine.run _ ((b :: rest).drop n))
    rw [List.take_append_drop] at hall
    rw [hall.2]
    simp [block, n]
  | case4 c given b rest hrun hdata n block hcontinues remaining state ih =>
    have hblock := run_block b rest hdata (h hdata)
    have hall := hblock.append (chunkedMachine.run _ ((b :: rest).drop n))
    rw [List.take_append_drop] at hall
    have hcontinues : sink given block = false := by simpa using hcontinues
    obtain ⟨blocks, hgiven, hfed⟩ := ih (by
      intro hmore hzero
      simp only [state, dif_pos hzero] at hmore
      cases hmore)
    refine ⟨block :: blocks, ?_, ?_⟩
    . rw [hgiven, List.append_assoc]
      rfl
    . unfold Fed at hfed ⊢
      rw [hall.1, hall.2, List.flatten_cons]
      cases hfed with
      | inl hfed => exact .inl ⟨⟨hcontinues, hfed.1⟩, hfed.2.1, by rw [hfed.2.2]; rfl⟩
      | inr hfed =>
        exact .inr ⟨.inr ⟨hcontinues, hfed.1⟩, hfed.2.1, List.prefix_append_right_inj _ |>.mpr hfed.2.2⟩
  | case5 c given b rest hrun hdata ih =>
    obtain ⟨blocks, hgiven, hfed⟩ := ih (sound_chunkedControl b h)
    have hstep := step_of_not_data hdata b
    refine ⟨blocks, hgiven, ?_⟩
    unfold Fed
    rw [Machine.state_cons, Machine.output_cons, hstep]
    exact hfed

/-- The calls for the pieces of an input, one after the other. -/
def chunkedFeedAll (sink : Sink) (c : Chunked) (given : List (List UInt8))
    (pieces : List (List UInt8)) : Chunked × List (List UInt8) :=
  match pieces with
  | [] => (c, given)
  | piece :: pieces =>
    let (_, c, given) := chunkedFeed sink c given piece
    chunkedFeedAll sink c given pieces

theorem chunkedFeedAll_cons (sink : Sink) (c : Chunked) (given : List (List UInt8))
    (piece : List UInt8) (pieces : List (List UInt8))
    : chunkedFeedAll sink c given (piece :: pieces)
        = chunkedFeedAll sink (chunkedLoop sink c given piece).1
            (chunkedLoop sink c given piece).2 pieces := rfl

theorem chunkedFeedAll_append (sink : Sink) (c : Chunked) (given : List (List UInt8))
    (pieces pieces' : List (List UInt8))
    : chunkedFeedAll sink c given (pieces ++ pieces')
        = chunkedFeedAll sink (chunkedFeedAll sink c given pieces).1
            (chunkedFeedAll sink c given pieces).2 pieces' := by
  induction pieces generalizing c given with
  | nil => rfl
  | cons piece pieces ih =>
    rw [List.cons_append, chunkedFeedAll_cons, chunkedFeedAll_cons]
    apply ih

theorem sound_state {c : Chunked} (data : List UInt8) (h : c.Sound)
    : (chunkedMachine.state c data).Sound := by
  induction data generalizing c with
  | nil => exact h
  | cons b data ih =>
    rw [Machine.state_cons]
    apply ih
    by_cases hdata : c.state = .data
    . rw [step_of_data hdata]
      intro hmore hzero
      simp only at hmore hzero
      rw [if_pos hzero] at hmore
      cases hmore
    . rw [step_of_not_data hdata]
      exact sound_chunkedControl b h

theorem chunkedFeedAll_halted {c : Chunked} (sink : Sink) (given pieces : List (List UInt8))
    (h : c.state = .done ∨ c.state = .error)
    : chunkedFeedAll sink c given pieces = (c, given) := by
  induction pieces with
  | nil => rfl
  | cons piece pieces ih =>
    have hloop : chunkedLoop sink c given piece = (c, given) := by
      cases piece with
      | nil => unfold chunkedLoop; rfl
      | cons b rest =>
        unfold chunkedLoop
        exact if_pos h
    rw [chunkedFeedAll_cons, hloop]
    exact ih

theorem Continues.append {sink : Sink} {given blocks blocks' : List (List UInt8)}
    (h : Continues sink given blocks) (h' : Continues sink (given ++ blocks) blocks')
    : Continues sink given (blocks ++ blocks') := by
  induction blocks generalizing given with
  | nil => rwa [List.append_nil] at h'
  | cons block blocks ih =>
    refine ⟨h.1, ih h.2 ?_⟩
    rw [List.append_assoc]
    exact h'

theorem Continues.refuses {sink : Sink} {given blocks blocks' : List (List UInt8)}
    (h : Continues sink given blocks) (h' : Refuses sink (given ++ blocks) blocks')
    : Refuses sink given (blocks ++ blocks') := by
  induction blocks generalizing given with
  | nil => rwa [List.append_nil] at h'
  | cons block blocks ih =>
    refine .inr ⟨h.1, ih h.2 ?_⟩
    rw [List.append_assoc]
    exact h'

theorem chunkedFeedAll_fed (sink : Sink) {c : Chunked} (given pieces : List (List UInt8))
    (h : c.Sound)
    : ∃ blocks, (chunkedFeedAll sink c given pieces).2 = given ++ blocks ∧
        Fed sink c given pieces.flatten (chunkedFeedAll sink c given pieces).1 blocks := by
  induction pieces generalizing c given with
  | nil => exact ⟨[], (List.append_nil _).symm, .inl ⟨trivial, rfl, rfl⟩⟩
  | cons piece pieces ih =>
    obtain ⟨blocks, hgiven, hfed⟩ := chunkedLoop_fed sink c given piece h
    rw [chunkedFeedAll_cons]
    unfold Fed
    rw [List.flatten_cons, Machine.state_append, Machine.output_append]
    cases hfed with
    | inr hrefused =>
      obtain ⟨hrefuses, herror, hprefix⟩ := hrefused
      rw [chunkedFeedAll_halted sink _ pieces (.inr herror)]
      exact ⟨blocks, hgiven, .inr ⟨hrefuses, herror, hprefix.trans (List.prefix_append _ _)⟩⟩
    | inl hcontinued =>
      obtain ⟨hcontinues, hstate, houtput⟩ := hcontinued
      have hsound := sound_state piece h
      rw [← hstate] at hsound ⊢
      obtain ⟨blocks', hgiven', hfed'⟩ := ih (chunkedLoop sink c given piece).2 hsound
      refine ⟨blocks ++ blocks', ?_, ?_⟩
      . rw [hgiven', hgiven, List.append_assoc]
      . rw [hgiven] at hfed' ⊢
        rw [List.flatten_append, houtput]
        cases hfed' with
        | inl hfed' => exact .inl ⟨hcontinues.append hfed'.1, hfed'.2.1, by rw [hfed'.2.2]⟩
        | inr hfed' =>
          exact .inr ⟨hcontinues.refuses hfed'.1, hfed'.2.1,
            (List.prefix_append_right_inj _).mpr hfed'.2.2⟩

theorem not_refuses_accept {given blocks : List (List UInt8)} : ¬Refuses accept given blocks := by
  induction blocks generalizing given with
  | nil => exact id
  | cons block blocks ih =>
    rintro (h | h)
    . cases h.1
    . exact ih h.2

theorem chunkedLoop_accept {c : Chunked} (given : List (List UInt8)) (data : List UInt8)
    (h : c.Sound)
    : (chunkedLoop accept c given data).1 = chunkedMachine.state c data ∧
        (chunkedLoop accept c given data).2.flatten
          = given.flatten ++ chunkedMachine.output c data := by
  obtain ⟨blocks, hgiven, hfed⟩ := chunkedLoop_fed accept c given data h
  cases hfed with
  | inl hfed =>
    rw [hgiven, List.flatten_append, hfed.2.2]
    exact ⟨hfed.2.1, rfl⟩
  | inr hfed => exact absurd hfed.1 not_refuses_accept

theorem chunkedFeedAll_accept {c : Chunked} (pieces : List (List UInt8)) (h : c.Sound)
    : (chunkedFeedAll accept c [] pieces).1 = chunkedMachine.state c pieces.flatten ∧
        (chunkedFeedAll accept c [] pieces).2.flatten
          = chunkedMachine.output c pieces.flatten := by
  obtain ⟨blocks, hgiven, hfed⟩ := chunkedFeedAll_fed accept [] pieces h
  cases hfed with
  | inl hfed =>
    rw [hgiven]
    exact hfed.2
  | inr hfed => exact absurd hfed.1 not_refuses_accept

theorem chunkedResult_eq_more {c : Chunked}
    : chunkedResult c = .more ↔ ¬(c.state = .done ∨ c.state = .error) := by
  unfold chunkedResult
  cases c.state <;> simp

theorem Continues.not_refused {sink : Sink} {given blocks before after : List (List UInt8)}
    {block : List UInt8} (h : Continues sink given blocks) (hsplit : blocks = before ++ block :: after)
    : sink (given ++ before) block = false := by
  induction before generalizing given blocks with
  | nil =>
    rw [hsplit] at h
    rw [List.append_nil]
    exact h.1
  | cons first before ih =>
    rw [hsplit] at h
    have := ih h.2 rfl
    rwa [List.append_assoc] at this

theorem Refuses.last {sink : Sink} {given blocks before after : List (List UInt8)}
    {block : List UInt8} (h : Refuses sink given blocks) (hsplit : blocks = before ++ block :: after)
    (hrefused : sink (given ++ before) block = true)
    : after = [] := by
  induction before generalizing given blocks with
  | nil =>
    rw [hsplit] at h
    rw [List.append_nil] at hrefused
    cases h with
    | inl h => exact h.2
    | inr h =>
      rw [h.1] at hrefused
      cases hrefused
  | cons first before ih =>
    rw [hsplit] at h
    cases h with
    | inl h => simp at h
    | inr h =>
      apply ih h.2 rfl
      rwa [List.append_assoc]

end ZZRel
