import ZZ9000.Mhi.Outline

/-!
This module contains what the status `MHIF_OUT_OF_DATA` says about the queued buffers.
-/

namespace ZZMhi

open Concurrency
open Concurrency.Coroutine

namespace MhiPlayer

/-- There is nothing left to feed. -/
def AllFed (s : MhiPlayer) : Prop := ∀ node ∈ s.bufferList, node.size ≤ node.index

/-- A stream has run out of data only if nothing is left to feed, and `have_unfed` knows of it. -/
structure Starved (s : MhiPlayer) : Prop where
  outOfData : s.status = .outOfData → s.haveUnfed = false
  fed : s.haveUnfed = false → s.AllFed

variable {s : MhiPlayer}

theorem mem_markPlayed {drainAll : Bool} {bytesConsumed : UInt32} {nodes : List ListNode}
    {node : ListNode} (h : node ∈ markPlayed drainAll bytesConsumed nodes)
    : ∃ node' ∈ nodes, node.size = node'.size ∧ node.index = node'.index := by
  induction nodes with
  | nil => simp [markPlayed] at h
  | cons head nodes ih =>
    unfold markPlayed at h
    split at h
    . rw [List.mem_cons] at h
      cases h with
      | inl h => exact ⟨head, by simp, by rw [h], by rw [h]⟩
      | inr h =>
        obtain ⟨node', hmem, heq⟩ := ih h
        exact ⟨node', by simp [hmem], heq⟩
    . split at h
      . exact ⟨node, h, rfl, rfl⟩
      . rw [List.mem_cons] at h
        cases h with
        | inl h => exact ⟨head, by simp, by rw [h]; rfl, by rw [h]⟩
        | inr h =>
          obtain ⟨node', hmem, heq⟩ := ih h
          exact ⟨node', by simp [hmem], heq⟩

theorem Starved.completeConsumed (h : s.Starved) (drainAll : Bool)
    : (s.completeConsumed drainAll).Starved where
  outOfData := h.outOfData
  fed := by
    intro hunfed node hmem
    obtain ⟨node', hmem', hsize, hindex⟩ := mem_markPlayed hmem
    have := h.fed hunfed node' hmem'
    omega

theorem Starved.scan (h : s.Starved)
    : s.scan.Starved where
  outOfData := by
    intro hstatus
    have hfed := h.fed (h.outOfData hstatus)
    simp only [MhiPlayer.scan, firstUnfed, Option.isSome_eq_false_iff, Option.isNone_iff_eq_none,
      List.find?_eq_none]
    intro node hmem
    have := hfed node hmem
    simp
    omega
  fed := by
    intro hunfed node hmem
    simp only [MhiPlayer.scan, firstUnfed, Option.isSome_eq_false_iff, Option.isNone_iff_eq_none,
      List.find?_eq_none] at hunfed
    have := hunfed node hmem
    simp at this
    omega

theorem Starved.account (h : s.Starved) (node : Nat) (chunk : Nat)
    : (s.account node chunk).Starved where
  outOfData := h.outOfData
  fed := by
    intro hunfed n hmem
    simp only [MhiPlayer.account, List.mem_map] at hmem
    obtain ⟨n', hmem', heq⟩ := hmem
    have := h.fed hunfed n' hmem'
    split at heq
    . rw [← heq, ListNode.size_advance, ListNode.index_advance]
      omega
    . rw [← heq]
      exact this

theorem starved_addTail (ptr buffer : Nat) (data : List UInt8)
    : (s.addTail ptr buffer data).Starved where
  outOfData := by
    intro hstatus
    simp only [MhiPlayer.addTail] at hstatus
    split at hstatus
    . contradiction
    . contradiction
  fed := by
    intro hunfed
    contradiction

theorem Starved.remHead (h : s.Starved)
    : s.remHead.Starved := by
  unfold MhiPlayer.remHead
  split
  . exact h
  . next node nodes heq =>
    split
    . constructor
      . exact h.outOfData
      . intro hunfed n hmem
        apply h.fed hunfed
        rw [heq]
        exact List.mem_cons_of_mem _ hmem
    . exact h

theorem starved_flip (t : MhiTask)
    : (s.flip t).Starved where
  outOfData := by
    intro hstatus
    contradiction
  fed := by
    intro _ node hmem
    contradiction

end MhiPlayer

/-- A request for the end of the stream gives its status back only while there is nothing to feed. -/
def mhiRestores (m : MhiMark) (s : MhiPlayer) : Prop :=
  m = .restore → s.haveUnfed = false

/-- A buffer that is queued when the stream has run out of data will be fed. -/
def mhiResumes (m : MhiMark) (s : MhiPlayer) : Prop :=
  m = .linked .outOfData → s.status = .playing ∧ s.haveUnfed = true

variable {t : MhiTask} {p q : MhiPoint}

/-- The outline for starvation: the tasks rely on nothing but the invariant. -/
def starvedOutline : MhiOutline where
  knows := fun _ _ _ => True
  inv := MhiPlayer.Starved
  guar := fun _ _ _ => True
  assume := mhiRestores
  assert := mhiResumes
  gen := fun _ _ => True
  listGen := fun _ _ => True
  chunk := fun _ _ => True

theorem starvedOutline_moves {s s' : MhiPlayer} (h : s'.Starved)
    : starvedOutline.Moves t p s s' where
  guar := trivial
  here := ⟨trivial, h⟩

/-- Most stores leave alone what the invariant is about. -/
theorem starvedOutline_frame {s s' : MhiPlayer} (h : starvedOutline.Here t p s)
    (hstatus : s'.status = s.status) (hunfed : s'.haveUnfed = s.haveUnfed)
    (hlist : s'.bufferList = s.bufferList)
    : starvedOutline.Moves t q s s' := by
  apply starvedOutline_moves
  constructor
  . rw [hstatus, hunfed]
    exact h.inv.outOfData
  . unfold MhiPlayer.AllFed
    rw [hunfed, hlist]
    exact h.inv.fed

/-- A status other than `MHIF_OUT_OF_DATA` says nothing about the buffers. -/
theorem starvedOutline_status {s s' : MhiPlayer} (h : starvedOutline.Here t p s)
    (hstatus : s'.status ≠ .outOfData) (hunfed : s'.haveUnfed = s.haveUnfed)
    (hlist : s'.bufferList = s.bufferList)
    : starvedOutline.Moves t q s s' := by
  apply starvedOutline_moves
  constructor
  . intro h
    contradiction
  . unfold MhiPlayer.AllFed
    rw [hunfed, hlist]
    exact h.inv.fed

theorem tolerant_starvedOutline
    : starvedOutline.Tolerant t p where
  result := by
    intro r s hs
    exact starvedOutline_frame hs rfl rfl rfl
  complete := by
    intro s hs _
    refine ⟨by intro h; contradiction, ?_⟩
    exact starvedOutline_moves (hs.inv.completeConsumed false)

theorem closes_starvedOutline
    : starvedOutline.Closes t p q where
  gone := by
    intro s hs _
    exact ⟨trivial, hs.inv⟩
  close := by
    intro s hs
    exact starvedOutline_frame hs rfl rfl rfl
  forget := by
    intro s hs
    exact starvedOutline_frame hs rfl rfl rfl
  submitted := by
    intro s hs
    exact starvedOutline_frame hs rfl rfl rfl

theorem calls_starvedOutline
    : starvedOutline.SoundCalls where
  take := by
    intro t s hs _
    exact starvedOutline_frame hs rfl rfl rfl
  release := by
    intro t s hs
    exact starvedOutline_frame hs rfl rfl rfl
  locked := by
    intro t
    exact tolerant_starvedOutline
  reenter := by
    intro t s hs _
    unfold MhiPlayer.reenter
    split
    . apply starvedOutline_status hs
      . simp
      . rfl
      . rfl
    . exact starvedOutline_frame hs rfl rfl rfl
  restore := by
    intro t s hs _ hrestore
    refine ⟨by intro h; contradiction, ?_⟩
    apply starvedOutline_moves
    constructor
    . intro _
      exact hrestore rfl
    . exact hs.inv.fed
  resumed := by
    intro t s hs
    unfold MhiPlayer.resumed
    split
    . apply starvedOutline_status hs
      . simp
      . rfl
      . rfl
    . exact starvedOutline_frame hs rfl rfl rfl
  rearm := by
    intro t s hs _
    refine ⟨by intro h; contradiction, ?_⟩
    apply starvedOutline_status hs
    . simp
    . rfl
    . rfl
  pause := by
    intro t s hs
    unfold MhiPlayer.pause
    split
    . apply starvedOutline_status hs
      . simp
      . rfl
      . rfl
    . exact starvedOutline_frame hs rfl rfl rfl
    . exact starvedOutline_frame hs rfl rfl rfl
  remHead := by
    intro t s hs
    exact starvedOutline_moves hs.inv.remHead
  addTail := by
    intro t s ptr buffer data hs _ _
    constructor
    . exact starvedOutline_moves (MhiPlayer.starved_addTail ptr buffer data)
    . intro hlinked
      simp only [MhiMark.linked.injEq] at hlinked
      simp [MhiPlayer.addTail, hlinked]

theorem play_starvedOutline
    : starvedOutline.SoundPlay where
  call := by
    intro t s hs
    exact starvedOutline_frame hs rfl rfl rfl
  free_of_called := by
    intro t e s hs
    exact ⟨trivial, hs.inv⟩
  take := by
    intro t e s hs _
    exact starvedOutline_frame hs rfl rfl rfl
  gen := by
    intro s _
    trivial
  read := by
    intro t e s hs _
    refine ⟨by intro h; contradiction, ?_⟩
    exact starvedOutline_frame hs rfl rfl rfl
  exists_session := by
    intro t n s hs _
    exact ⟨trivial, hs.inv⟩
  no_session := by
    intro t n s hs _
    exact ⟨trivial, hs.inv⟩
  result := by
    intro t n r s hs
    exact starvedOutline_frame hs rfl rfl rfl
  fail := by
    intro t n s hs
    exact starvedOutline_frame hs rfl rfl rfl
  begun := by
    intro t n s hs _
    refine ⟨by intro h; contradiction, ?_⟩
    exact starvedOutline_frame hs rfl rfl rfl
  session := by
    intro t n s hs
    exact starvedOutline_frame hs rfl rfl rfl
  count := by
    intro t n s hs
    exact starvedOutline_frame hs rfl rfl rfl
  check := by
    intro t n g s _ _ _ h
    contradiction
  cancel := by
    intro t n g s hs _ _
    exact ⟨trivial, hs.inv⟩
  cancelled := by
    intro t n
    exact closes_starvedOutline
  cancel_end := by
    intro t n s hs
    exact starvedOutline_frame hs rfl rfl rfl
  publish := by
    intro t n g s status hs _ _ _ hstatus
    apply starvedOutline_status hs
    . cases hstatus with
      | inl h => simp [h]
      | inr h => simp [h]
    . rfl
    . rfl

theorem stop_starvedOutline
    : starvedOutline.SoundStop where
  flip := by
    intro t s hs _
    refine ⟨by intro h; contradiction, ?_⟩
    exact starvedOutline_moves (MhiPlayer.starved_flip t)
  take := by
    intro t s hs _
    exact starvedOutline_frame hs rfl rfl rfl
  closes := by
    intro t
    exact closes_starvedOutline
  finish := by
    intro t s hs
    exact starvedOutline_frame hs rfl rfl rfl

theorem feeder_starvedOutline
    : starvedOutline.SoundFeeder where
  serve := by
    intro s hs _
    exact ⟨trivial, hs.inv⟩
  served := by
    intro s hs
    exact ⟨trivial, hs.inv⟩
  serving := tolerant_starvedOutline
  outOfData := by
    intro s hs
    unfold MhiPlayer.outOfData
    split
    . next hdry =>
      apply starvedOutline_moves
      constructor
      . intro _
        exact hdry.2
      . exact hs.inv.fed
    . exact starvedOutline_frame hs rfl rfl rfl
  statusFailed := by
    intro s hs
    unfold MhiPlayer.statusFailed
    split
    . apply starvedOutline_status hs
      . simp
      . rfl
      . rfl
    . exact starvedOutline_frame hs rfl rfl rfl
  drained := by
    intro s hs _
    exact ⟨trivial, hs.inv⟩
  drain := by
    intro s hs _
    refine ⟨by intro h; contradiction, ?_⟩
    exact starvedOutline_moves (hs.inv.completeConsumed true)
  gen := by
    intro s _
    trivial
  chunk := by
    intro s node _
    trivial
  scan := by
    intro s hs
    exact starvedOutline_moves hs.inv.scan
  find := by
    intro s node hs _ _
    refine ⟨by intro h; contradiction, ?_⟩
    exact ⟨trivial, hs.inv⟩
  hit := by
    intro n node gen chunk s hs _ _ _ _
    refine ⟨by intro h; contradiction, ?_⟩
    exact ⟨trivial, hs.inv⟩
  miss := by
    intro n node gen chunk s hs _ _ _
    exact ⟨trivial, hs.inv⟩
  copy_failed := by
    intro n node chunk s hs
    exact ⟨trivial, hs.inv⟩
  copy := by
    intro n node chunk bytes s hs
    exact starvedOutline_frame hs rfl rfl rfl
  memo := by
    intro n node gen chunk _ _ s hs
    exact starvedOutline_frame hs rfl rfl rfl
  feed_result := by
    intro n node chunk r s hs
    exact starvedOutline_frame hs rfl rfl rfl
  feed_failed := by
    intro n node chunk s hs
    exact ⟨trivial, hs.inv⟩
  append := by
    intro n node chunk _ s hs
    dsimp only [MhiPlayer.append]
    split <;> exact starvedOutline_frame hs rfl rfl rfl
  forget := by
    intro n node chunk s hs
    exact starvedOutline_frame hs rfl rfl rfl
  account := by
    intro n node gen chunk _ _ s hs _
    refine ⟨by intro h; contradiction, ?_⟩
    dsimp only
    split
    . exact starvedOutline_moves (hs.inv.account node.ptr chunk)
    . exact starvedOutline_frame hs rfl rfl rfl

theorem sound_starvedOutline
    : starvedOutline.Sound where
  calls := calls_starvedOutline
  play := play_starvedOutline
  stop := stop_starvedOutline
  feeder := feeder_starvedOutline
  refl := by
    intro t s
    trivial
  trans := by
    intro t s s' s'' _ _
    trivial
  stable := by
    intro t u p s s' _ _ _ _
    trivial
  core_inv := by
    intro s
    exact ⟨fun h => ⟨h.outOfData, h.fed⟩, fun h => ⟨h.outOfData, h.fed⟩⟩
  core_knows := by
    intro t p s
    rfl
  core_guar := by
    intro t s s'
    rfl

theorem MhiPlayer.starved_init {stagingLength : Nat} {result : StreamResult} {capped : Bool}
    : (MhiPlayer.init stagingLength result capped).Starved where
  outOfData := by
    intro h
    contradiction
  fed := by
    intro _ node hmem
    contradiction

variable {stagingLength : Nat} {result : StreamResult} {capped : Bool} {st : mhiPool.State}
  {as : List (Pool.Action MhiTask MhiCall MhiAnswer)} {marks : Trace MhiPlayer MhiMark}

/--
A stream is reported to have run out of data only if all queued buffers have been fed, and a buffer
that is queued then will be fed, provided that a refused request for the end of the stream does not
give back that status behind a buffer that was queued in the meantime.
-/
theorem out_of_data_run
    (hrun : mhiPool.run (.start mhiPool (.init stagingLength result capped)) as = some (marks, st))
    (hrestore : ∀ m ∈ marks, m.1 = .restore → m.2.haveUnfed = false)
    : (st.shared.status = .outOfData →
        st.shared.haveUnfed = false ∧ ∀ node ∈ st.shared.bufferList, node.size ≤ node.index)
      ∧ ∀ m ∈ marks, m.1 = .linked .outOfData →
        m.2.status = .playing ∧ m.2.haveUnfed = true := by
  have hstart (t : MhiTask)
      : starvedOutline.Here t .free (.init stagingLength result capped) :=
    ⟨trivial, MhiPlayer.starved_init⟩
  have hend := sound_starvedOutline.run hstart hrun hrestore
  have hstarved : st.shared.Starved := hend.2.1
  constructor
  . intro hstatus
    have hunfed := hstarved.outOfData hstatus
    exact ⟨hunfed, hstarved.fed hunfed⟩
  . exact hend.1

/-- A buffer is queued, fed and drained. -/
def drainedRun : List (Pool.Action MhiTask MhiCall MhiAnswer) :=
  MhiCall.play.sections (.app 0) 26 (drainedAnswer .ok 0)
    ++ (MhiCall.queueBuffer 9 [1]).sections (.app 0) 1 (drainedAnswer .ok 7)
    ++ (MhiCall.iteration 3).sections .feeder 43 (drainedAnswer .ok 0)
    ++ (MhiCall.iteration 3).sections .feeder 22 (drainedAnswer .ok 0)
    ++ (MhiCall.iteration 3).sections .feeder 22 (drainedAnswer .ok 0)
    ++ (MhiCall.iteration 3).sections .feeder 36 (drainedAnswer .ok 0)

/-- Then the end of the stream is requested, and while that blocks a buffer is queued. -/
def strandedRun : List (Pool.Action MhiTask MhiCall MhiAnswer) :=
  drainedRun
    ++ (MhiCall.queueBuffer 9 []).sections (.app 0) 8 (drainedAnswer .error 0)
    ++ (MhiCall.queueBuffer 9 [2]).sections (.app 1) 1 (drainedAnswer .ok 8)
    ++ List.replicate 3 (.resume (.app 0) [drainedAnswer .error 0])

theorem out_of_data_run_drained
    : ∃ marks st,
        mhiPool.run (.start mhiPool (.init 4 (drainedAnswer .ok 0).result false)) drainedRun
            = some (marks, st)
          ∧ st.shared.status = .outOfData ∧ st.shared.haveUnfed = false := by
  have heval : (mhiPool.run (.start mhiPool (.init 4 (drainedAnswer .ok 0).result false))
      drainedRun).any (fun r => r.2.shared.status == .outOfData
        && r.1.all fun m => m.1 != .restore) = true := by
    decide +kernel
  rw [Option.any_eq_true] at heval
  obtain ⟨⟨marks, st⟩, hrun, heval⟩ := heval
  simp only [Bool.and_eq_true, beq_iff_eq, List.all_eq_true, bne_iff_ne] at heval
  have hend := out_of_data_run hrun (by
    intro m hm hrestore
    exact absurd hrestore (heval.2 m hm))
  exact ⟨marks, st, hrun, heval.1, (hend.1 heval.1).1⟩

theorem out_of_data_stranded
    : ¬ ∀ (stagingLength : Nat) (result : StreamResult) (capped : Bool)
          (as : List (Pool.Action MhiTask MhiCall MhiAnswer)) (marks : Trace MhiPlayer MhiMark)
          (st : mhiPool.State),
        mhiPool.run (.start mhiPool (.init stagingLength result capped)) as = some (marks, st) →
        (∀ t, st.parked t = none) → st.shared.status = .outOfData →
        st.shared.haveUnfed = false ∧ ∀ node ∈ st.shared.bufferList, node.size ≤ node.index := by
  intro h
  have heval : (mhiPool.run (.start mhiPool (.init 4 (drainedAnswer .ok 0).result false))
      strandedRun).any (fun r => r.2.shared.status == .outOfData && r.2.shared.haveUnfed
        && [MhiTask.feeder, .app 0, .app 1].all fun t => (r.2.parked t).isNone) = true := by
    decide +kernel
  rw [Option.any_eq_true] at heval
  obtain ⟨⟨marks, st⟩, hrun, heval⟩ := heval
  simp only [Bool.and_eq_true, beq_iff_eq, List.all_eq_true] at heval
  have hidle := Pool.idle_run _ hrun (by decide +kernel) heval.2
  have := h _ _ _ _ _ _ hrun hidle heval.1.1
  rw [heval.1.2] at this
  exact Bool.noConfusion this.1

end ZZMhi
