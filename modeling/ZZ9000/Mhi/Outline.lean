import ZZ9000.Concurrency.Triple
import ZZ9000.Mhi.Transport

/-!
This module walks through the code of `mhizz9000.library` once: an outline of a proof is a proof
about all runs if the single stores of the code keep to it.
-/

namespace ZZMhi

open Concurrency
open Concurrency.Coroutine

/-- The player without what only paces the feeder. -/
def MhiPlayer.core (s : MhiPlayer) : MhiPlayer :=
  { s with
    backpressure := false
    eofAnnounced := false
    drainRequested := false
    starvationPolls := 0
    feedsAccepted := 0
    playPending := false
    pausePending := false
    ringsAllocated := false }

/--
What each task knows at each point, what all of them rely on, how a section of a task may change the
player, and what is assumed and asserted at the marks. `gen` and `listGen` are what is known of the
generations of the transport and of the list that were read after so many stops, and `chunk` what is
known of the chunk of a node.
-/
structure MhiOutline where
  knows : MhiTask → MhiPoint → MhiPlayer → Prop
  inv : MhiPlayer → Prop
  guar : MhiTask → MhiPlayer → MhiPlayer → Prop
  assume : MhiMark → MhiPlayer → Prop
  assert : MhiMark → MhiPlayer → Prop
  gen : Nat → UInt32 → Prop
  listGen : Nat → UInt32 → Prop
  chunk : ListNode → Nat → Prop

namespace MhiOutline

def annotation (O : MhiOutline) : mhiPool.Annotation where
  inv := O.inv
  assume := O.assume
  assert := O.assert
  park := fun t w s => O.knows t w.point s
  idle := fun t s => O.knows t .free s
  guar := O.guar

/-- The task is at the point. -/
structure Here (O : MhiOutline) (t : MhiTask) (p : MhiPoint) (s : MhiPlayer) : Prop where
  knows : O.knows t p s
  inv : O.inv s

/-- The section of a task that takes it to the point. -/
structure Moves (O : MhiOutline) (t : MhiTask) (q : MhiPoint) (s s' : MhiPlayer) : Prop where
  guar : O.guar t s s'
  here : O.Here t q s'

/-- The store takes the task from one point to the other. -/
def Stores (O : MhiOutline) (t : MhiTask) (p q : MhiPoint) (f : MhiPlayer → MhiPlayer) : Prop :=
  ∀ s, O.Here t p s → O.Moves t q s (f s)

/-- The mark is met, and it takes the task from one point to the other. -/
def Marks (O : MhiOutline) (t : MhiTask) (p q : MhiPoint) (m : MhiPlayer → MhiMark)
    (f : MhiPlayer → MhiPlayer) : Prop :=
  ∀ s, O.Here t p s → O.assume (m s) s → O.assert (m s) s ∧ O.Moves t q s (f s)

/-- The task may make requests at the point and mark buffers as played. -/
structure Tolerant (O : MhiOutline) (t : MhiTask) (p : MhiPoint) : Prop where
  result : ∀ r, O.Stores t p p fun s => { s with result := r }
  complete : O.Marks t p p (fun _ => .complete false) (MhiPlayer.completeConsumed false)

/-- The task may close the session. -/
structure Closes (O : MhiOutline) (t : MhiTask) (p q : MhiPoint) : Prop where
  gone : ∀ s, O.Here t p s → s.session = 0 → O.Here t q s
  close : O.Stores t p q fun s => { s with session := 0, ghost.stream.counted := false }
  forget : O.Stores t q q fun s => { s with staged := none }
  submitted : O.Stores t q q fun s => { s with submittedBytes := 0 }

/-- The steps of `io_lock` and of the calls that only need it. -/
structure SoundCalls (O : MhiOutline) : Prop where
  take : ∀ t s, O.Here t .free s → s.ioLock = none →
    O.Moves t .locked s { s with ioLock := some t }
  release : ∀ t, O.Stores t .locked .free fun s => { s with ioLock := none }
  locked : ∀ t, O.Tolerant t .locked
  reenter : ∀ t s, O.Here t .locked s → s.canFeed = true → O.Moves t .locked s s.reenter
  restore : ∀ t s, O.Here t .locked s → s.status = .playing → O.assume .restore s →
    O.assert .restore s ∧ O.Moves t .locked s { s with status := .outOfData }
  resumed : ∀ t, O.Stores t .locked .locked MhiPlayer.resumed
  rearm : ∀ t, O.Marks t .free .free (fun _ => .rearm) fun s => { s with status := .playing }
  pause : ∀ t, O.Stores t .free .free MhiPlayer.pause
  remHead : ∀ t, O.Stores t .free .free MhiPlayer.remHead
  addTail : ∀ t s ptr buffer data, O.Here t .free s → data ≠ [] →
    ptr ∉ s.bufferList.map ListNode.ptr →
    O.Moves t .free s (s.addTail ptr buffer data)
      ∧ O.assert (.linked s.status) (s.addTail ptr buffer data)

/-- The steps of `i_MHIPlay` that open a session. -/
structure SoundPlay (O : MhiOutline) : Prop where
  call : ∀ t s, O.Here t .free s →
    O.Moves t (.called s.ghost.stops) s { s with ghost.halted := false }
  free_of_called : ∀ t e s, O.Here t (.called e) s → O.Here t .free s
  take : ∀ t e s, O.Here t (.called e) s → s.ioLock = none →
    O.Moves t (.reading e) s { s with ioLock := some t }
  gen : ∀ s, O.inv s → O.gen s.ghost.stops s.transportGen
  read : ∀ t e s, O.Here t (.reading e) s → O.assume (.playReads e) s →
    O.assert (.playReads e) s ∧ O.Moves t (.entered s.ghost.stops) s
      { s with pausePending := false, ghost.opening := some s.ghost.stops }
  exists_session : ∀ t n s, O.Here t (.entered n) s → s.session ≠ 0 → O.Here t (.opened n) s
  no_session : ∀ t n s, O.Here t (.entered n) s → s.session = 0 → O.Here t (.opening n) s
  result : ∀ t n r, O.Stores t (.opening n) (.opening n) fun s => { s with result := r }
  fail : ∀ t n, O.Stores t (.opening n) .free fun s => { s with ioLock := none, ghost.opening := none }
  begun : ∀ t n, O.Marks t (.opening n) (.begun n) (fun s => .begun s.result.session) MhiPlayer.begun
  session : ∀ t n, O.Stores t (.begun n) (.counting n) fun s => { s with session := s.result.session }
  count : ∀ t n, O.Stores t (.counting n) (.opened n) fun s =>
    { s with submittedBytes := 0, ghost.stream.counted := true }
  check : ∀ t n g s, O.Here t (.opened n) s → O.gen n g → O.assume (.playChecks n g) s →
    O.assert (.playChecks n g) s
  cancel : ∀ t n g s, O.Here t (.opened n) s → O.gen n g → s.transportGen ≠ g →
    O.Here t (.cancelling n) s
  cancelled : ∀ t n, O.Closes t (.cancelling n) (.cancelled n)
  cancel_end : ∀ t n, O.Stores t (.cancelled n) .free fun s =>
    { s with ioLock := none, ghost.opening := none }
  publish : ∀ t n g s status, O.Here t (.opened n) s → O.gen n g → O.assume (.playChecks n g) s →
    s.transportGen = g → status = .playing ∨ status = .paused → O.Moves t .locked s { s with status := status, ghost.opening := none }

/-- The steps of `i_MHIStop`. -/
structure SoundStop (O : MhiOutline) : Prop where
  flip : ∀ t s, O.Here t .free s → O.assume .flip s →
    O.assert .flip s
      ∧ O.Moves t (if s.status = .stopped then .free else .stopping) s (s.flip t)
  take : ∀ t s, O.Here t .stopping s → s.ioLock = none →
    O.Moves t .closing s { s with ioLock := some t }
  closes : ∀ t, O.Closes t .closing .closed
  finish : ∀ t, O.Stores t .closed .free fun s =>
    { s with ioLock := none, ghost.closing := Function.update s.ghost.closing t false }

/-- The steps of the feeder. -/
structure SoundFeeder (O : MhiOutline) : Prop where
  serve : ∀ s, O.Here .feeder .locked s → s.session ≠ 0 → O.Here .feeder .serving s
  served : ∀ s, O.Here .feeder .serving s → O.Here .feeder .locked s
  serving : O.Tolerant .feeder .serving
  outOfData : O.Stores .feeder .serving .serving MhiPlayer.outOfData
  statusFailed : O.Stores .feeder .serving .serving MhiPlayer.statusFailed
  drained : ∀ s, O.Here .feeder .serving s → s.result.drained = true → O.Here .feeder .drained s
  drain : O.Marks .feeder .drained .serving (fun _ => .complete true)
    (MhiPlayer.completeConsumed true)
  gen : ∀ s, O.inv s → O.listGen s.ghost.stops s.listGen
  chunk : ∀ s node, O.inv s → O.chunk node (min (node.size - node.index) s.stagingLength)
  scan : O.Stores .feeder .serving .serving MhiPlayer.scan
  find : ∀ s node, O.Here .feeder .serving s → firstUnfed s.bufferList = some node →
    O.assume .scanned s → O.assert .scanned s ∧ O.Here .feeder (.feeding s.ghost.stops node) s
  hit : ∀ n node gen chunk s, O.Here .feeder (.feeding n node) s → O.listGen n gen →
    O.chunk node chunk → s.staged = some ⟨gen, node.ptr, node.index, chunk⟩ →
    O.assume (.memo n node chunk) s →
    O.assert (.memo n node chunk) s ∧ O.Here .feeder (.staged n node chunk) s
  miss : ∀ n node gen chunk s, O.Here .feeder (.feeding n node) s → O.listGen n gen →
    O.chunk node chunk → s.staged ≠ some ⟨gen, node.ptr, node.index, chunk⟩ →
    O.Here .feeder (.copying n node chunk) s
  copy_failed : ∀ n node chunk s, O.Here .feeder (.copying n node chunk) s →
    O.Here .feeder .serving s
  copy : ∀ n node chunk bytes, O.Stores .feeder (.copying n node chunk) (.staged n node chunk)
    fun s => { s with
      staging :=
        if s.ghost.stops = n then (node.data.drop node.index).take chunk else bytes }
  memo : ∀ n node gen chunk, O.listGen n gen → O.chunk node chunk → O.Stores .feeder (.staged n node chunk)
    (.staged n node chunk) fun s => { s with
      staged := some ⟨gen, node.ptr, node.index, chunk⟩, ghost.stagedStops := n }
  feed_result : ∀ n node chunk r, O.Stores .feeder (.staged n node chunk) (.staged n node chunk)
    fun s => { s with result := r }
  feed_failed : ∀ n node chunk s, O.Here .feeder (.staged n node chunk) s →
    O.Here .feeder .serving s
  append : ∀ n node chunk, O.chunk node chunk →
    O.Stores .feeder (.staged n node chunk) (.accepted n node chunk)
    fun s => s.append (s.staging.take chunk)
  forget : ∀ n node chunk, O.Stores .feeder (.accepted n node chunk) (.forgotten n node chunk)
    fun s => { s with staged := none }
  account : ∀ n node gen chunk, O.listGen n gen → O.chunk node chunk →
    O.Marks .feeder (.forgotten n node chunk) .serving (fun _ => .feedChecks n gen)
    fun s => if s.listGen = gen then s.account node.ptr chunk else s

/-- The outline is a proof about every single store. -/
structure Sound (O : MhiOutline) : Prop where
  calls : O.SoundCalls
  play : O.SoundPlay
  stop : O.SoundStop
  feeder : O.SoundFeeder
  refl : ∀ t s, O.guar t s s
  trans : ∀ t s s' s'', O.guar t s s' → O.guar t s' s'' → O.guar t s s''
  stable : ∀ t u p s s', t ≠ u → O.guar u s s' → O.inv s' → O.knows t p s → O.knows t p s'
  core_inv : ∀ s, O.inv s.core ↔ O.inv s
  core_knows : ∀ t p s, O.knows t p s.core ↔ O.knows t p s
  core_guar : ∀ t s s', O.guar t s s'.core ↔ O.guar t s s'

variable {O : MhiOutline} {t : MhiTask} {p q : MhiPoint} {n : Nat}

/-- What is known is only about the core of the player. -/
theorem Sound.moves_of_core (hO : O.Sound) {s s' s'' : MhiPlayer} (h : O.Moves t q s s')
    (hcore : s''.core = s'.core)
    : O.Moves t q s s'' := by
  constructor
  . rw [← hO.core_guar, hcore, hO.core_guar]
    exact h.guar
  . constructor
    . rw [← hO.core_knows, hcore, hO.core_knows]
      exact h.here.knows
    . rw [← hO.core_inv, hcore, hO.core_inv]
      exact h.here.inv

theorem Sound.moves_refl (hO : O.Sound) {s : MhiPlayer} (h : O.Here t p s)
    : O.Moves t p s s where
  guar := hO.refl t s
  here := h

theorem Sound.stores_of_core (hO : O.Sound) {f : MhiPlayer → MhiPlayer}
    (hf : ∀ s, (f s).core = s.core)
    : O.Stores t p p f := by
  intro s hs
  exact hO.moves_of_core (hO.moves_refl hs) (hf s)

/-- The triple of a coroutine of the task, in the contract of the outline. -/
abbrev Meets (O : MhiOutline) (t : MhiTask) (I : MhiPlayer → Prop) (c : Mhi α)
    (J : α → MhiPlayer → Prop) : Prop :=
  Triple (O.annotation.contract t) I c J

theorem Sound.closed (hO : O.Sound) (t : MhiTask)
    : (O.annotation.contract t).Closed where
  refl := hO.refl t
  trans := hO.trans t

theorem meets_pure {a : α}
    : O.Meets t (O.Here t p) (pure a) (fun _ => O.Here t p) := by
  apply triple_pure
  intro s hs
  exact hs

section Accesses

variable (hO : O.Sound) {f : MhiPlayer → MhiPlayer} {J : Unit → MhiPlayer → Prop}
include hO

theorem meets_ready
    : O.Meets t (O.Here t p) (ready p) (fun _ => O.Here t p) := by
  apply triple_pause (hO.closed t)
  . intro s hs
    exact ⟨hs.knows, hs.inv⟩
  . intro s hs
    exact ⟨hs.1, hs.2.1⟩

theorem meets_modify {I : MhiPlayer → Prop} (hf : ∀ s, I s → O.Moves t q s (f s))
    : O.Meets t I (modify f) (fun _ => O.Here t q) := by
  apply triple_modify (hO.closed t)
  intro s hs
  exact ⟨(hf s hs).guar, (hf s hs).here⟩

theorem meets_store (hf : O.Stores t p q f)
    : O.Meets t (O.Here t p) (store p f) (fun _ => O.Here t q) := by
  unfold store
  apply triple_bind (meets_ready hO)
  intro _
  exact meets_modify hO hf

theorem meets_store_core (hf : ∀ s, (f s).core = s.core)
    : O.Meets t (O.Here t p) (store p f) (fun _ => O.Here t p) := by
  exact meets_store hO (hO.stores_of_core hf)

theorem meets_load {f : MhiPlayer → α}
    : O.Meets t (O.Here t p) (load p f) (fun a s => f s = a ∧ O.Here t p s) := by
  unfold load
  apply triple_bind (meets_ready hO)
  intro _ s₀ s hguar hs
  exact ⟨hguar, rfl, hs⟩

/-- A look at the player that nothing comes of. -/
theorem meets_look {f : MhiPlayer → α}
    : O.Meets t (O.Here t p) (load p f) (fun _ => O.Here t p) := by
  apply triple_mono (meets_load hO)
  . intro s hs
    exact hs
  . intro a s hs
    exact hs.2

theorem meets_obtain (hf : ∀ s, O.Here t p s → s.ioLock = none →
      O.Moves t q s { s with ioLock := some t })
    : O.Meets t (O.Here t p) (obtain t p p) (fun _ => O.Here t q) := by
  unfold obtain
  apply triple_bind (meets_ready hO)
  intro _
  apply triple_bind (J := fun _ s => O.Here t p s ∧ s.ioLock = none)
  . apply triple_pause (hO.closed t)
    . intro s hs
      exact ⟨hs.knows, hs.inv⟩
    . intro s hs
      refine ⟨⟨hs.1, hs.2.1⟩, ?_⟩
      exact Option.isNone_iff_eq_none.mp hs.2.2
  . intro _
    apply meets_modify hO
    intro s hs
    exact hf s hs.1 hs.2

theorem meets_release
    : O.Meets t (O.Here t .locked) (release .locked) (fun _ => O.Here t .free) := by
  exact meets_store hO (hO.calls.release t)

theorem meets_mailbox
    : O.Meets t (O.Here t p) (mailbox p) (fun _ => O.Here t p) := by
  unfold mailbox
  apply triple_bind (meets_ready hO)
  intro _
  apply triple_bind (J := fun _ => O.Here t p)
  . apply triple_pause (hO.closed t)
    . intro s hs
      exact ⟨hs.knows, hs.inv⟩
    . intro s hs
      exact ⟨hs.1, hs.2.1⟩
  . intro _
    apply triple_answer
    intro s r hs
    exact hs

theorem meets_mark {m : MhiPlayer → MhiMark} (hm : O.Marks t p q m f) {n : MhiMark}
    (hn : ∀ s, O.Here t p s → m s = n)
    : O.Meets t (O.Here t p) (note n >>= fun _ => modify f) (fun _ => O.Here t q) := by
  apply triple_bind (J := fun _ s => O.Here t p s ∧ O.assume (m s) s)
  . apply triple_note
    intro s hs hassume
    rw [← hn s hs] at hassume ⊢
    exact ⟨(hm s hs hassume).1, hs, hassume⟩
  . intro _
    apply meets_modify hO
    intro s hs
    exact (hm s hs.1 hs.2).2

end Accesses

section Requests

variable (hO : O.Sound)
include hO

theorem meets_mailboxResult (hp : O.Tolerant t p)
    : O.Meets t (O.Here t p) (mailboxResult p) (fun _ => O.Here t p) := by
  unfold mailboxResult
  apply triple_bind (meets_mailbox hO)
  intro a
  apply triple_bind
  . exact meets_modify hO (hp.result a.result)
  . intro _
    exact meets_pure

theorem meets_completeConsumed (hp : O.Tolerant t p)
    : O.Meets t (O.Here t p) (completeConsumed p false) (fun _ => O.Here t p) := by
  unfold completeConsumed
  apply triple_bind (meets_ready hO)
  intro _
  apply meets_mark hO hp.complete
  intro s hs
  rfl

theorem meets_streamApplyGain
    : O.Meets t (O.Here t p) (streamApplyGain p) (fun _ => O.Here t p) := by
  unfold streamApplyGain
  apply triple_bind (meets_look hO)
  intro capped
  apply triple_bind (meets_look hO)
  intro session
  apply triple_ite
  . intro _
    apply triple_bind (meets_mailbox hO)
    intro _
    exact meets_pure
  . intro _
    exact meets_pure

theorem meets_closeTries (tries : Nat)
    : O.Meets t (O.Here t p) (closeTries p tries) (fun _ => O.Here t p) := by
  induction tries with
  | zero =>
    exact meets_pure
  | succ tries ih =>
    unfold closeTries
    apply triple_bind (meets_mailbox hO)
    intro a
    apply triple_ite
    . intro _
      exact meets_pure
    . intro _
      exact ih

theorem meets_feedRequest (hp : O.Tolerant t p)
    : O.Meets t (O.Here t p) (feedRequest p) (fun _ => O.Here t p) := by
  unfold feedRequest
  apply triple_bind (J := fun _ => O.Here t p)
  . apply triple_answer
    intro s r hs
    exact hs
  . intro a
    apply triple_ite (fun _ => meets_pure)
    intro _
    apply triple_bind (meets_mailboxResult hO hp)
    intro rc
    apply triple_ite (fun _ => meets_pure)
    intro _
    apply triple_bind (meets_look hO)
    intro backpressure
    exact meets_pure

theorem meets_tryBind (hp : O.Tolerant t p)
    : O.Meets t (O.Here t p) (tryBind p) (fun _ => O.Here t p) := by
  have hplay : O.Meets t (O.Here t p) (do
      if (← mailboxResult p) ≠ .ok then
        return
      streamApplyGain p
      store p fun s => { s with playPending := false }) (fun _ => O.Here t p) := by
    apply triple_bind (meets_mailboxResult hO hp)
    intro rc
    apply triple_ite (fun _ => meets_pure)
    intro _
    apply triple_bind (meets_streamApplyGain hO)
    intro _
    apply meets_store_core hO
    intro s
    rfl
  unfold tryBind
  apply triple_bind (meets_look hO)
  intro pending
  apply triple_bind (meets_look hO)
  intro session
  apply triple_ite (fun _ => meets_pure)
  intro _
  apply triple_bind (meets_look hO)
  intro status
  apply triple_ite (fun _ => meets_pure)
  intro _
  apply triple_bind (meets_look hO)
  intro pcmReady
  apply triple_bind (meets_look hO)
  intro sampleRate
  apply triple_ite
  . intro _
    apply triple_bind (meets_mailboxResult hO hp)
    intro rc
    apply triple_ite (fun _ => meets_pure)
    intro _
    apply triple_bind (meets_look hO)
    intro pcmReady
    apply triple_bind (meets_look hO)
    intro sampleRate
    apply triple_ite (fun _ => meets_pure)
    intro _
    exact hplay
  . intro _
    exact hplay

theorem meets_streamClose (hp : O.Closes t p q)
    : O.Meets t (O.Here t p) (streamClose p q) (fun _ => O.Here t q) := by
  unfold streamClose
  apply triple_bind (meets_load hO)
  intro session
  apply triple_ite
  . intro hsession
    apply triple_pure
    intro s hs
    exact hp.gone s hs.2 (by rw [hs.1, hsession])
  . intro _
    apply triple_of_pre (K := O.Here t p) (fun s hs => hs.2)
    apply triple_bind (meets_mailbox hO)
    intro _
    apply triple_bind (meets_closeTries hO 25)
    intro rc
    apply triple_bind (meets_store hO hp.close)
    intro _
    apply triple_bind (meets_store hO hp.forget)
    intro _
    -- the flags that only pace the feeder
    iterate 4
      apply triple_bind (meets_store_core hO (by intro s; rfl))
      intro _
    apply triple_bind (meets_store hO hp.submitted)
    intro _
    apply triple_ite
    . intro _
      exact meets_store_core hO (by intro s; rfl)
    . intro _
      exact meets_pure

end Requests

section Play

variable (hO : O.Sound)
include hO

theorem meets_allocateRings
    : O.Meets t (O.Here t p) (allocateRings p) (fun _ => O.Here t p) := by
  unfold allocateRings
  apply triple_bind (meets_look hO)
  intro allocated
  apply triple_ite (fun _ => meets_pure)
  intro _
  apply triple_bind (meets_mailbox hO)
  intro staging
  apply triple_ite (fun _ => meets_pure)
  intro _
  apply triple_bind (meets_mailbox hO)
  intro mp3
  apply triple_ite
  . intro _
    apply triple_bind (meets_mailbox hO)
    intro _
    exact meets_pure
  . intro _
    apply triple_bind (meets_mailbox hO)
    intro pcm
    apply triple_ite
    . intro _
      apply triple_bind (meets_mailbox hO)
      intro _
      apply triple_bind (meets_mailbox hO)
      intro _
      exact meets_pure
    . intro _
      apply triple_bind (meets_store_core hO (by intro s; rfl))
      intro _
      exact meets_pure

theorem meets_adoptSession
    : O.Meets t (O.Here t (.begun n)) (adoptSession n) (fun _ => O.Here t (.opened n)) := by
  unfold adoptSession
  apply triple_bind (meets_store hO (hO.play.session t n))
  intro _
  apply triple_bind (meets_streamApplyGain hO)
  intro _
  iterate 4
    apply triple_bind (meets_store_core hO (by intro s; rfl))
    intro _
  apply triple_bind (meets_store hO (hO.play.count t n))
  intro _
  exact meets_store_core hO (by intro s; rfl)

/-- Where `mhi_stream_open` leaves the task. -/
def Opens (O : MhiOutline) (t : MhiTask) (n : Nat) (opened : Bool) : MhiPlayer → Prop :=
  O.Here t (if opened then .opened n else .opening n)

omit hO in
theorem meets_notOpened
    : O.Meets t (O.Here t (.opening n)) (pure false) (O.Opens t n) := by
  apply triple_pure
  intro s hs
  exact hs

theorem meets_streamOpen
    : O.Meets t (O.Here t (.entered n)) (streamOpen n) (O.Opens t n) := by
  unfold streamOpen
  apply triple_bind (meets_load hO)
  intro session
  apply triple_ite
  . intro hsession
    apply triple_pure
    intro s hs
    apply hO.play.exists_session t n s hs.2
    rw [hs.1]
    simpa using hsession
  . intro hsession
    apply triple_of_pre (K := O.Here t (.opening n))
    . intro s hs
      apply hO.play.no_session t n s hs.2
      rw [hs.1]
      simpa using hsession
    . apply triple_bind (meets_allocateRings hO)
      intro allocated
      apply triple_ite (fun _ => meets_notOpened)
      intro _
      apply triple_bind (J := fun _ => O.Here t (.opening n))
      . apply triple_answer
        intro s r hs
        exact hs
      . intro a
        apply triple_ite (fun _ => meets_notOpened)
        intro _
        apply triple_bind (meets_mailbox hO)
        intro a
        apply triple_bind (J := fun _ s => O.Here t (.opening n) s ∧ s.result = a.result)
        . apply triple_modify (hO.closed t)
          intro s hs
          have := hO.play.result t n a.result s hs
          exact ⟨this.guar, this.here, rfl⟩
        . intro _
          apply triple_ite
          . intro _
            apply triple_of_pre (fun s hs => hs.1) meets_notOpened
          . intro _
            -- the firmware has begun the session that the result names
            apply triple_bind (J := fun _ s => O.Here t (.opening n) s ∧
              O.assume (.begun s.result.session) s)
            . apply triple_note
              intro s hs hassume
              rw [← hs.2] at hassume ⊢
              exact ⟨(hO.play.begun t n s hs.1 hassume).1, hs.1, hassume⟩
            . intro _
              apply triple_bind
              . apply meets_modify hO
                intro s hs
                exact (hO.play.begun t n s hs.1 hs.2).2
              . intro _
                apply triple_bind (meets_adoptSession hO)
                intro _
                apply triple_pure
                intro s hs
                exact hs

theorem meets_publish {gen : UInt32} (hgen : O.gen n gen)
    : O.Meets t (O.Here t (.opened n)) (publish n gen) (fun _ => O.Here t .free) := by
  unfold publish
  apply triple_bind (meets_ready hO)
  intro _
  apply triple_bind (J := fun _ s => O.Here t (.opened n) s ∧ O.assume (.playChecks n gen) s)
  . apply triple_note
    intro s hs hassume
    exact ⟨hO.play.check t n gen s hs hgen hassume, hs, hassume⟩
  . intro _
    apply triple_bind (J := fun a s => s = a ∧ O.Here t (.opened n) s ∧
      O.assume (.playChecks n gen) s)
    . apply triple_read
      intro s hs
      exact ⟨rfl, hs⟩
    . intro a
      apply triple_ite
      . intro hgen'
        apply triple_of_pre (K := O.Here t (.cancelling n))
        . intro s hs
          apply hO.play.cancel t n gen s hs.2.1 hgen
          rw [hs.1]
          exact hgen'
        . apply triple_bind (meets_streamClose hO (hO.play.cancelled t n))
          intro _
          exact meets_store hO (hO.play.cancel_end t n)
      . intro hgen'
        have hsame : a.transportGen = gen := not_not.mp hgen'
        apply triple_ite
        . intro _
          apply triple_bind
          . apply meets_modify hO (q := .locked)
            intro s hs
            have := hO.play.publish t n gen s .paused hs.2.1 hgen hs.2.2
              (by rw [hs.1]; exact hsame) (.inr rfl)
            exact hO.moves_of_core this rfl
          . intro _
            exact meets_release hO
        . intro _
          apply triple_bind
          . apply meets_modify hO (q := .locked)
            intro s hs
            have := hO.play.publish t n gen s .playing hs.2.1 hgen hs.2.2
              (by rw [hs.1]; exact hsame) (.inl rfl)
            exact hO.moves_of_core this rfl
          . intro _
            exact meets_release hO

theorem meets_playOpen {entry : Nat}
    : O.Meets t (O.Here t (.called entry)) (playOpen t entry) (fun _ => O.Here t .free) := by
  unfold playOpen
  apply triple_bind (meets_obtain hO (hO.play.take t entry))
  intro _
  apply triple_bind (meets_ready hO)
  intro _
  apply triple_bind (J := fun _ s => O.Here t (.reading entry) s ∧ O.assume (.playReads entry) s)
  . apply triple_note
    intro s hs hassume
    exact ⟨(hO.play.read t entry s hs hassume).1, hs, hassume⟩
  . intro _
    apply triple_bind (J := fun a s => s = a ∧ O.Here t (.reading entry) s ∧
      O.assume (.playReads entry) s)
    . apply triple_read
      intro s hs
      exact ⟨rfl, hs⟩
    . intro a
      apply triple_of_fact (p := O.gen a.ghost.stops a.transportGen)
      . intro s hs
        rw [← hs.1]
        exact hO.play.gen s hs.2.1.inv
      . intro hgen
        apply triple_bind
        . apply meets_modify hO (q := .entered a.ghost.stops)
          intro s hs
          rw [← hs.1]
          exact (hO.play.read t entry s hs.2.1 hs.2.2).2
        . intro _
          apply triple_bind (meets_streamOpen hO)
          intro opened
          apply triple_ite
          . intro hopened
            apply triple_of_pre (K := O.Here t (.opened a.ghost.stops))
            . intro s hs
              unfold Opens at hs
              rwa [if_pos hopened] at hs
            . exact meets_publish hO hgen
          . intro hopened
            apply triple_of_pre (K := O.Here t (.opening a.ghost.stops))
            . intro s hs
              unfold Opens at hs
              rwa [if_neg hopened] at hs
            . exact meets_store hO (hO.play.fail t a.ghost.stops)

theorem meets_resume
    : O.Meets t (O.Here t .locked) resume (fun _ => O.Here t .free) := by
  unfold resume
  apply triple_bind (meets_look hO)
  intro status
  apply triple_ite
  . intro _
    apply triple_bind (meets_mailboxResult hO (hO.calls.locked t))
    intro rc
    apply triple_ite
    . intro _
      apply triple_bind (meets_streamApplyGain hO)
      intro _
      apply triple_bind (meets_store hO (hO.calls.resumed t))
      intro _
      exact meets_release hO
    . intro _
      exact meets_release hO
  . intro _
    exact meets_release hO

theorem meets_playPaused
    : O.Meets t (O.Here t .free) (playPaused t) (fun _ => O.Here t .free) := by
  unfold playPaused
  apply triple_bind (meets_look hO)
  intro pending
  apply triple_ite
  . intro _
    apply triple_bind (meets_ready hO)
    intro _
    apply meets_mark hO (hO.calls.rearm t)
    intro s hs
    rfl
  . intro _
    apply triple_bind (meets_obtain hO (hO.calls.take t))
    intro _
    exact meets_resume hO

theorem meets_mhiPlay
    : O.Meets t (O.Here t .free) (mhiPlay t) (fun _ => O.Here t .free) := by
  unfold mhiPlay
  apply triple_bind (J := fun a s => s = a ∧ O.Here t .free s)
  . apply triple_read
    intro s hs
    exact ⟨rfl, hs⟩
  . intro a
    apply triple_bind
    . apply meets_modify hO (q := .called a.ghost.stops)
      intro s hs
      rw [← hs.1]
      exact hO.play.call t s hs.2
    . intro _
      apply triple_bind (meets_look hO)
      intro status
      cases status with
      | stopped => exact meets_playOpen hO
      | outOfData => exact meets_playOpen hO
      | paused =>
        apply triple_of_pre (hO.play.free_of_called t a.ghost.stops)
        exact meets_playPaused hO
      | playing =>
        apply triple_pure
        exact hO.play.free_of_called t a.ghost.stops

end Play

section Calls

variable (hO : O.Sound)
include hO

theorem meets_mhiStop
    : O.Meets t (O.Here t .free) (mhiStop t) (fun _ => O.Here t .free) := by
  unfold mhiStop
  apply triple_bind (meets_ready hO)
  intro _
  apply triple_bind (J := fun _ s => O.Here t .free s ∧ O.assume .flip s)
  . apply triple_note
    intro s hs hassume
    exact ⟨(hO.stop.flip t s hs hassume).1, hs, hassume⟩
  . intro _
    apply triple_bind (J := fun a s => s = a ∧ O.Here t .free s ∧ O.assume .flip s)
    . apply triple_read
      intro s hs
      exact ⟨rfl, hs⟩
    . intro a
      apply triple_bind
      . apply meets_modify hO (q := if a.status = .stopped then .free else .stopping)
        intro s hs
        rw [← hs.1]
        exact (hO.stop.flip t s hs.2.1 hs.2.2).2
      . intro _
        apply triple_ite
        . intro hstatus
          rw [if_neg hstatus]
          unfold stopClose
          apply triple_bind (meets_obtain hO (hO.stop.take t))
          intro _
          apply triple_bind (meets_streamClose hO (hO.stop.closes t))
          intro _
          exact meets_store hO (hO.stop.finish t)
        . intro hstatus
          rw [if_pos (not_not.mp hstatus)]
          exact meets_pure

theorem meets_mhiPause
    : O.Meets t (O.Here t .free) (mhiPause t) (fun _ => O.Here t .free) := by
  unfold mhiPause
  apply triple_bind (meets_ready hO)
  intro _
  apply triple_bind (J := fun _ => O.Here t .free)
  . apply triple_read
    intro s hs
    exact hs
  . intro a
    apply triple_bind (meets_modify hO (hO.calls.pause t))
    intro _
    apply triple_ite
    . intro _
      unfold pauseStop
      apply triple_bind (meets_look hO)
      intro session
      apply triple_ite
      . intro _
        apply triple_bind (meets_obtain hO (hO.calls.take t))
        intro _
        apply triple_bind (meets_look hO)
        intro session
        apply triple_ite
        . intro _
          apply triple_bind (meets_mailbox hO)
          intro _
          exact meets_release hO
        . intro _
          exact meets_release hO
      . intro _
        exact meets_pure
    . intro _
      exact meets_pure

theorem meets_streamFeedEofLocked
    : O.Meets t (O.Here t .locked) streamFeedEofLocked (fun _ => O.Here t .locked) := by
  unfold streamFeedEofLocked
  apply triple_bind (meets_look hO)
  intro session
  apply triple_bind (meets_look hO)
  intro haveUnfed
  apply triple_bind (meets_look hO)
  intro feedsAccepted
  apply triple_ite (fun _ => meets_pure)
  intro _
  apply triple_bind (meets_look hO)
  intro eofAnnounced
  apply triple_ite (fun _ => meets_pure)
  intro _
  apply triple_bind (meets_feedRequest hO (hO.calls.locked t))
  intro accepted
  apply triple_ite (fun _ => meets_pure)
  intro _
  iterate 3
    apply triple_bind (meets_store_core hO (by intro s; rfl))
    intro _
  apply triple_bind (meets_completeConsumed hO (hO.calls.locked t))
  intro _
  apply triple_bind (meets_tryBind hO (hO.calls.locked t))
  intro _
  exact meets_pure

theorem meets_restoreOutOfData {gen : UInt32}
    : O.Meets t (O.Here t .locked) (restoreOutOfData gen) (fun _ => O.Here t .locked) := by
  unfold restoreOutOfData
  apply triple_bind (meets_ready hO)
  intro _
  apply triple_bind (J := fun a s => s = a ∧ O.Here t .locked s)
  . apply triple_read
    intro s hs
    exact ⟨rfl, hs⟩
  . intro a
    apply triple_ite
    . intro hrestore
      have hplaying : a.status = .playing := by
        simp only [Bool.and_eq_true, beq_iff_eq] at hrestore
        exact hrestore.2
      apply triple_bind (J := fun _ s => (s = a ∧ O.Here t .locked s) ∧ O.assume .restore s)
      . apply triple_note
        intro s hs hassume
        have := hO.calls.restore t s hs.2 (by rw [hs.1]; exact hplaying) hassume
        exact ⟨this.1, hs, hassume⟩
      . intro _
        apply meets_modify hO
        intro s hs
        exact (hO.calls.restore t s hs.1.2 (by rw [hs.1.1]; exact hplaying) hs.2).2
    . intro _
      apply triple_of_pre (fun s hs => hs.2) meets_pure

theorem meets_streamEof
    : O.Meets t (O.Here t .free) (streamEof t) (fun _ => O.Here t .free) := by
  unfold streamEof
  apply triple_bind (meets_obtain hO (hO.calls.take t))
  intro _
  apply triple_bind (meets_ready hO)
  intro _
  apply triple_bind (J := fun a s => s = a ∧ O.Here t .locked s)
  . apply triple_read
    intro s hs
    exact ⟨rfl, hs⟩
  . intro a
    apply triple_ite
    . intro hcan
      apply triple_bind
      . apply meets_modify hO (q := .locked)
        intro s hs
        exact hO.calls.reenter t s hs.2 (by rw [hs.1]; exact hcan)
      . intro _
        apply triple_bind (meets_streamFeedEofLocked hO)
        intro accepted
        apply triple_ite
        . intro _
          apply triple_bind (meets_restoreOutOfData hO)
          intro _
          exact meets_release hO
        . intro _
          exact meets_release hO
    . intro _
      apply triple_of_pre (K := O.Here t .locked) (fun s hs => hs.2)
      apply triple_ite
      . intro _
        apply triple_bind (meets_restoreOutOfData hO)
        intro _
        exact meets_release hO
      . intro _
        exact meets_release hO

theorem meets_mhiQueueBuffer {buffer : Nat} {data : List UInt8}
    : O.Meets t (O.Here t .free) (mhiQueueBuffer t buffer data) (fun _ => O.Here t .free) := by
  unfold mhiQueueBuffer
  apply triple_ite (fun _ => meets_streamEof hO)
  intro hdata
  apply triple_ite (fun _ => meets_pure)
  intro _
  apply triple_bind (J := fun _ => O.Here t .free)
  . apply triple_answer
    intro s r hs
    exact hs
  . intro node
    apply triple_ite (fun _ => meets_pure)
    intro _
    apply triple_bind (meets_ready hO)
    intro _
    apply triple_bind (J := fun a s => s = a ∧ O.Here t .free s)
    . apply triple_read
      intro s hs
      exact ⟨rfl, hs⟩
    . intro a
      apply triple_ite
      . intro hptr
        apply triple_bind (J := fun _ s => O.Here t .free s ∧ O.assert (.linked a.status) s)
        . apply triple_modify (hO.closed t)
          intro s hs
          rw [← hs.1] at hptr ⊢
          have := hO.calls.addTail t s node.ptr buffer data hs.2 hdata hptr
          exact ⟨this.1.guar, this.1.here, this.2⟩
        . intro _
          apply triple_note
          intro s hs _
          exact ⟨hs.2, hs.1⟩
      . intro _
        apply triple_of_pre (fun s hs => hs.2) meets_pure

end Calls

section Feeder

variable (hO : O.Sound)
include hO

theorem meets_streamFeedDrainLocked
    : O.Meets .feeder (O.Here .feeder .serving) streamFeedDrainLocked
        (fun _ => O.Here .feeder .serving) := by
  unfold streamFeedDrainLocked
  apply triple_bind (meets_look hO)
  intro session
  apply triple_bind (meets_look hO)
  intro haveUnfed
  apply triple_bind (meets_look hO)
  intro feedsAccepted
  apply triple_ite (fun _ => meets_pure)
  intro _
  apply triple_bind (meets_look hO)
  intro drainRequested
  apply triple_ite (fun _ => meets_pure)
  intro _
  apply triple_bind (meets_feedRequest hO hO.feeder.serving)
  intro accepted
  apply triple_ite (fun _ => meets_pure)
  intro _
  apply triple_bind (meets_ready hO)
  intro _
  apply triple_bind (J := fun _ => O.Here .feeder .serving)
  . apply triple_read
    intro s hs
    exact hs
  . intro a
    apply triple_bind
    . apply meets_modify hO (q := .serving)
      intro s hs
      apply hO.moves_of_core (hO.moves_refl hs)
      split <;> rfl
    . intro _
      apply triple_bind (meets_completeConsumed hO hO.feeder.serving)
      intro _
      apply triple_bind (meets_tryBind hO hO.feeder.serving)
      intro _
      exact meets_pure

theorem meets_serviceRequest
    : O.Meets .feeder (O.Here .feeder .serving) serviceRequest
        (fun _ => O.Here .feeder .serving) := by
  unfold serviceRequest
  apply triple_bind (meets_look hO)
  intro drainRequested
  apply triple_ite (fun _ => meets_pure)
  intro _
  apply triple_bind (meets_look hO)
  intro needInput
  apply triple_ite
  . intro _
    apply triple_bind (meets_store_core hO (by intro s; rfl))
    intro _
    exact meets_pure
  . intro _
    apply triple_bind (meets_look hO)
    intro polls
    apply triple_bind (meets_store_core hO (by intro s; split <;> rfl))
    intro _
    apply triple_bind (meets_look hO)
    intro polls
    apply triple_ite (fun _ => meets_pure)
    intro _
    exact meets_streamFeedDrainLocked hO

theorem meets_serviceFailed {rc : MhiRc}
    : O.Meets .feeder (O.Here .feeder .serving) (serviceFailed rc)
        (fun _ => O.Here .feeder .serving) := by
  unfold serviceFailed
  apply triple_ite (fun _ => meets_pure)
  intro _
  exact meets_store hO hO.feeder.statusFailed

theorem meets_drain
    : O.Meets .feeder (O.Here .feeder .drained) (completeConsumed .drained true)
        (fun _ => O.Here .feeder .serving) := by
  unfold completeConsumed
  apply triple_bind (meets_ready hO)
  intro _
  apply meets_mark hO hO.feeder.drain
  intro s hs
  rfl

theorem meets_streamServiceDrain
    : O.Meets .feeder (O.Here .feeder .serving) streamServiceDrain
        (fun _ => O.Here .feeder .serving) := by
  unfold streamServiceDrain
  apply triple_bind (meets_look hO)
  intro session
  apply triple_bind (meets_look hO)
  intro status
  apply triple_bind (meets_look hO)
  intro haveUnfed
  apply triple_bind (meets_look hO)
  intro feedsAccepted
  apply triple_ite
  . intro _
    apply triple_bind (meets_store_core hO (by intro s; rfl))
    intro _
    exact meets_pure
  . intro _
    apply triple_bind (meets_look hO)
    intro playPending
    apply triple_bind (meets_mailboxResult hO hO.feeder.serving)
    intro rc
    apply triple_ite (fun _ => meets_serviceFailed hO)
    intro _
    apply triple_bind (meets_completeConsumed hO hO.feeder.serving)
    intro _
    apply triple_bind (meets_look hO)
    intro eofAnnounced
    apply triple_ite
    . intro _
      apply triple_bind (meets_look hO)
      intro done
      apply triple_ite
      . intro _
        exact meets_store hO hO.feeder.outOfData
      . intro _
        exact meets_pure
    . intro _
      apply triple_bind (meets_serviceRequest hO)
      intro requested
      apply triple_ite
      . intro _
        apply triple_bind (meets_load hO)
        intro drained
        apply triple_ite
        . intro hdrained
          apply triple_of_pre (K := O.Here .feeder .drained)
          . intro s hs
            exact hO.feeder.drained s hs.2 (by rw [hs.1, hdrained])
          . apply triple_bind (meets_drain hO)
            intro _
            exact meets_store hO hO.feeder.outOfData
        . intro _
          apply triple_of_pre (fun s hs => hs.2) meets_pure
      . intro _
        exact meets_pure

/-- Where the parts of `mhi_feed_pending` leave the feeder. -/
def Proceeds (O : MhiOutline) (p : MhiPoint) (goesOn : Bool) : MhiPlayer → Prop :=
  O.Here .feeder (if goesOn then p else .serving)

variable {node : ListNode} {gen : UInt32} {chunk : Nat}

theorem meets_stageChunk (hgen : O.listGen n gen) (hchunk : O.chunk node chunk)
    : O.Meets .feeder (O.Here .feeder (.feeding n node))
        (stageChunk n node ⟨gen, node.ptr, node.index, chunk⟩)
        (O.Proceeds (.staged n node chunk)) := by
  unfold stageChunk
  apply triple_bind (meets_load hO)
  intro staged
  apply triple_ite
  . intro hstaged
    apply triple_bind (J := fun _ => O.Here .feeder (.staged n node chunk))
    . apply triple_note
      intro s hs hassume
      rw [← hs.1] at hstaged
      exact hO.feeder.hit n node gen chunk s hs.2 hgen hchunk hstaged hassume
    . intro _
      apply triple_pure
      intro s hs
      exact hs
  . intro hstaged
    apply triple_of_pre (K := O.Here .feeder (.copying n node chunk))
    . intro s hs
      rw [← hs.1] at hstaged
      exact hO.feeder.miss n node gen chunk s hs.2 hgen hchunk hstaged
    . apply triple_bind (meets_ready hO)
      intro _
      apply triple_bind (J := fun _ => O.Here .feeder (.copying n node chunk))
      . apply triple_answer
        intro s r hs
        exact hs
      . intro a
        apply triple_ite
        . intro _
          apply triple_pure
          exact hO.feeder.copy_failed n node chunk
        . intro _
          apply triple_bind (meets_modify hO (hO.feeder.copy n node chunk a.bytes))
          intro _
          apply triple_bind (meets_store hO (hO.feeder.memo n node gen chunk hgen hchunk))
          intro _
          apply triple_pure
          intro s hs
          exact hs

theorem meets_feedChunk (hchunk : O.chunk node chunk)
    : O.Meets .feeder (O.Here .feeder (.staged n node chunk)) (feedChunk n node chunk)
        (O.Proceeds (.accepted n node chunk)) := by
  have hfailed : O.Meets .feeder (O.Here .feeder (.staged n node chunk)) (pure false)
      (O.Proceeds (.accepted n node chunk)) := by
    apply triple_pure
    exact hO.feeder.feed_failed n node chunk
  unfold feedChunk
  apply triple_bind (J := fun _ => O.Here .feeder (.staged n node chunk))
  . apply triple_answer
    intro s r hs
    exact hs
  . intro a
    apply triple_ite (fun _ => hfailed)
    intro _
    apply triple_bind (meets_mailbox hO)
    intro a
    apply triple_bind (meets_modify hO (hO.feeder.feed_result n node chunk a.result))
    intro _
    apply triple_ite (fun _ => hfailed)
    intro _
    apply triple_ite
    . intro _
      apply triple_of_pre (hO.feeder.feed_failed n node chunk)
      apply triple_bind (meets_completeConsumed hO hO.feeder.serving)
      intro _
      apply triple_bind (meets_store_core hO (by intro s; rfl))
      intro _
      apply triple_pure
      intro s hs
      exact hs
    . intro _
      apply triple_bind (meets_modify hO (hO.feeder.append n node chunk hchunk))
      intro _
      apply triple_pure
      intro s hs
      exact hs

theorem meets_accountChunk (hgen : O.listGen n gen) (hchunk : O.chunk node chunk)
    : O.Meets .feeder (O.Here .feeder (.accepted n node chunk))
        (accountChunk n node ⟨gen, node.ptr, node.index, chunk⟩)
        (fun _ => O.Here .feeder .serving) := by
  unfold accountChunk
  apply triple_bind (meets_store_core hO (by intro s; rfl))
  intro _
  apply triple_bind (meets_store hO (hO.feeder.forget n node chunk))
  intro _
  apply triple_bind (meets_store_core hO (by intro s; rfl))
  intro _
  apply triple_bind (meets_ready hO)
  intro _
  apply triple_bind (J := fun _ s => O.Here .feeder (.forgotten n node chunk) s ∧
    O.assume (.feedChecks n gen) s)
  . apply triple_note
    intro s hs hassume
    exact ⟨(hO.feeder.account n node gen chunk hgen hchunk s hs hassume).1, hs, hassume⟩
  . intro _
    apply triple_bind
    . apply meets_modify hO (q := .serving)
      intro s hs
      exact (hO.feeder.account n node gen chunk hgen hchunk s hs.1 hs.2).2
    . intro _
      apply triple_bind (meets_look hO)
      intro listGen
      apply triple_ite (fun _ => meets_pure)
      intro _
      apply triple_bind (meets_completeConsumed hO hO.feeder.serving)
      intro _
      exact meets_pure

theorem meets_feedPending (turns : Nat)
    : O.Meets .feeder (O.Here .feeder .serving) (feedPending turns)
        (fun _ => O.Here .feeder .serving) := by
  induction turns with
  | zero =>
    apply triple_pause (hO.closed .feeder)
    . intro s hs
      exact ⟨hs.knows, hs.inv⟩
    . intro s hs
      exact ⟨hs.1, hs.2.1⟩
  | succ turns ih =>
    unfold feedPending
    apply triple_bind (meets_ready hO)
    intro _
    apply triple_bind (J := fun a s => s = a ∧ O.Here .feeder .serving s)
    . apply triple_read
      intro s hs
      exact ⟨rfl, hs⟩
    . intro a
      apply triple_of_fact (p := O.listGen a.ghost.stops a.listGen)
      . intro s hs
        rw [← hs.1]
        exact hO.feeder.gen s hs.2.inv
      . intro hgen
        apply triple_bind (J := fun _ s => s = a.scan ∧ O.Here .feeder .serving s)
        . apply triple_modify (hO.closed .feeder)
          intro s hs
          have := hO.feeder.scan s hs.2
          exact ⟨this.guar, by rw [hs.1], this.here⟩
        . intro _
          cases hnode : firstUnfed a.bufferList with
          | none => apply triple_of_pre (fun s hs => hs.2) meets_pure
          | some node =>
            apply triple_bind (J := fun _ => O.Here .feeder (.feeding a.ghost.stops node))
            . apply triple_note
              intro s hs hassume
              have := hO.feeder.find s node hs.2 (by rw [hs.1]; exact hnode) hassume
              rw [hs.1] at this ⊢
              exact this
            . intro _
              apply triple_bind (meets_load hO)
              intro stagingLength
              apply triple_of_fact
                (p := O.chunk node (min (node.size - node.index) stagingLength))
              . intro s hs
                rw [← hs.1]
                exact hO.feeder.chunk s node hs.2.inv
              intro hchunk
              apply triple_of_pre (K := O.Here .feeder (.feeding a.ghost.stops node))
              . intro s hs
                exact hs.2
              apply triple_bind (meets_stageChunk hO hgen hchunk)
              . intro staged
                apply triple_ite
                . intro hstaged
                  rw [hstaged]
                  apply triple_bind (meets_feedChunk hO hchunk)
                  intro accepted
                  apply triple_ite
                  . intro haccepted
                    rw [haccepted]
                    apply triple_bind (meets_accountChunk hO hgen hchunk)
                    intro same
                    apply triple_ite (fun _ => ih)
                    intro _
                    exact meets_pure
                  . intro haccepted
                    rw [Bool.eq_false_of_not_eq_true haccepted]
                    exact meets_pure
                . intro hstaged
                  rw [Bool.eq_false_of_not_eq_true hstaged]
                  exact meets_pure

theorem meets_feederIteration {turns : Nat}
    : O.Meets .feeder (O.Here .feeder .free) (feederIteration turns)
        (fun _ => O.Here .feeder .free) := by
  unfold feederIteration
  apply triple_bind (meets_obtain hO (hO.calls.take .feeder))
  intro _
  apply triple_bind (meets_load hO)
  intro session
  apply triple_ite
  . intro hsession
    apply triple_of_pre (K := O.Here .feeder .serving)
    . intro s hs
      apply hO.feeder.serve s hs.2
      rw [hs.1]
      simpa using hsession
    . apply triple_bind (meets_look hO)
      intro status
      apply triple_ite
      . intro _
        apply triple_bind (meets_feedPending hO turns)
        intro _
        apply triple_bind (meets_tryBind hO hO.feeder.serving)
        intro _
        apply triple_bind (meets_streamServiceDrain hO)
        intro _
        apply triple_of_pre hO.feeder.served
        exact meets_release hO
      . intro _
        apply triple_of_pre hO.feeder.served
        exact meets_release hO
  . intro _
    apply triple_of_pre (K := O.Here .feeder .locked) (fun s hs => hs.2)
    exact meets_release hO

end Feeder

/-- The central result: an outline that holds of the single stores holds of all runs. -/
theorem Sound.valid (hO : O.Sound)
    : O.annotation.Valid := by
  apply Pool.valid_of_triple (fun t => hO.closed t)
  . intro t call
    apply triple_of_fact (p := call.allowed t = true) (fun s hs => hs.2.2)
    intro hallowed
    apply triple_mono (K := O.Here t .free) (L := fun _ => O.Here t .free)
    . cases call with
      | iteration turns =>
        cases t with
        | feeder => exact meets_feederIteration hO
        | app n => contradiction
      | queueBuffer buffer data => exact meets_mhiQueueBuffer hO
      | getEmpty => exact meets_store hO (hO.calls.remHead t)
      | play => exact meets_mhiPlay hO
      | stop => exact meets_mhiStop hO
      | pause => exact meets_mhiPause hO
    . intro s hs
      exact ⟨hs.2.1, hs.1⟩
    . intro a s hs
      exact ⟨hs.inv, hs.knows⟩
  . intro t u w s s' hne hguar hinv hknows
    exact hO.stable t u w.point s s' hne hguar hinv hknows
  . intro t u s s' hne hguar hinv hknows
    exact hO.stable t u .free s s' hne hguar hinv hknows

/-- What the outline says of a run of the library. -/
theorem Sound.run (hO : O.Sound) {s : MhiPlayer} {st : mhiPool.State} {marks : Trace MhiPlayer MhiMark}
    {as : List (Pool.Action MhiTask MhiCall MhiAnswer)} (hs : ∀ t, O.Here t .free s)
    (hrun : mhiPool.run (.start mhiPool s) as = some (marks, st))
    (hassume : ∀ m ∈ marks, O.assume m.1 m.2)
    : (∀ m ∈ marks, O.assert m.1 m.2) ∧ O.inv st.shared
        ∧ ∀ t, st.parked t = none → O.knows t .free st.shared := by
  have hend := Pool.follows_run_of_triple hO.valid (hs .feeder).inv (fun t => (hs t).knows) hrun
    hassume
  exact ⟨hend.1, hend.2.inv, hend.2.idle⟩

end MhiOutline

end ZZMhi
