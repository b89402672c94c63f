import ZZ9000.Mhi.Buffers
import ZZ9000.Mhi.Outline

/-!
This module contains the integrity of the stream: what the firmware gets of the queued buffers, and
when the application gets them back.
-/

namespace ZZMhi

open Concurrency

/-- What the feeding of the player consists of. -/
structure Feed where
  nodes : List ListNode
  gen : UInt32
  staged : Option StagedKey
  staging : List UInt8
  stagingLength : Nat
  result : StreamResult
  submitted : UInt32
  session : UInt32
  lock : Option MhiTask
  stops : Nat
  opening : Option Nat
  stagedStops : Nat
  queued : List (Nat × List UInt8)
  returned : List (Nat × List UInt8)
  accepted : List UInt8
  log : StreamLog

def MhiPlayer.feed (s : MhiPlayer) : Feed where
  nodes := s.bufferList
  gen := s.listGen
  staged := s.staged
  staging := s.staging
  stagingLength := s.stagingLength
  result := s.result
  submitted := s.submittedBytes
  session := s.session
  lock := s.ioLock
  stops := s.ghost.stops
  opening := s.ghost.opening
  stagedStops := s.ghost.stagedStops
  queued := s.ghost.queued
  returned := s.ghost.returned
  accepted := s.ghost.accepted
  log := s.ghost.stream

namespace Feed

/-- The bytes of the buffers that have been given back. -/
def returnedBytes (s : Feed) : List UInt8 := (s.returned.map Prod.snd).flatten

/-- The bytes of the buffers that were queued since the list was drained last. -/
def queuedBytes (s : Feed) : List UInt8 := (s.queued.map Prod.snd).flatten

/-- The bytes that the list knows to be fed. -/
def knownBytes (s : Feed) : List UInt8 := s.returnedBytes ++ fedBytes s.nodes

/-- The memo of the staging buffer, which belongs to the next chunk. -/
def Memo (k : StagedKey) (s : Feed) : Prop :=
  ∃ node, firstUnfed s.nodes = some node
    ∧ k = ⟨s.gen, node.ptr, node.index, min (node.size - node.index) s.stagingLength⟩
    ∧ s.staging.take k.chunk = (node.data.drop node.index).take k.chunk

/-- Nothing of the list has gone to the firmware. -/
def Blank (s : Feed) : Prop := s.returned = [] ∧ Untouched s.nodes

structure Intact (length : Nat) (s : Feed) : Prop where
  gen : s.gen = UInt32.ofNat s.stops
  length : s.stagingLength = length
  queue : s.queued = s.returned ++ s.nodes.map ListNode.entry
  order : FedInOrder s.nodes
  ends : EndsAfter s.returnedBytes.length s.nodes
  /-- A session that was begun since the list was drained has got what the list knows of. -/
  input : s.log.fresh = true → s.log.input = s.knownBytes ++ s.accepted
  next : s.log.fresh = true → s.accepted.IsPrefix (unfedBytes s.nodes)
  notLate : s.log.fresh = true → s.log.late = []
  counted : s.log.fresh = true → s.log.counted = true → s.session ≠ 0 →
    s.submitted = UInt32.ofNat s.knownBytes.length
  /-- An older one has got what the list knew of when it was drained. -/
  blank : s.log.fresh = false → s.Blank
  basis : s.log.fresh = false → s.log.input.IsPrefix s.log.basis.flatten
  late : s.log.fresh = false → s.log.late.length ≤ 1
  session : s.session ≠ 0 → s.log.counted = true ∨ s.opening ≠ none
  opening : s.opening ≠ none → s.lock ≠ none
  settled : s.lock = none → s.log.fresh = true → s.accepted = []
  stagedStops : s.stagedStops ≤ s.stops
  stagedGen : ∀ k, s.staged = some k → k.gen = UInt32.ofNat s.stagedStops
  memo : ∀ k, s.staged = some k → s.stagedStops = s.stops → s.Memo k

/-- The task has `io_lock`, and the list knows of all chunks that were accepted. -/
def Locks (t : MhiTask) (s : Feed) : Prop :=
  s.lock = some t ∧ (s.log.fresh = true → s.accepted = [])

/-- Nobody is opening a session. -/
def Holds (t : MhiTask) (s : Feed) : Prop := s.Locks t ∧ s.opening = none

def Opening (t : MhiTask) (n : Nat) (s : Feed) : Prop := s.Locks t ∧ s.opening = some n

/-- The list may have been drained since the feeder looked at it after so many stops. -/
def Looked (n : Nat) (node : ListNode) (s : Feed) : Prop :=
  n ≤ s.stops ∧ (s.log.fresh = true → n = s.stops)
    ∧ (n = s.stops → s.log.fresh = true ∧ firstUnfed s.nodes = some node)

/-- The feeder is at the node. -/
def Feeding (t : MhiTask) (n : Nat) (node : ListNode) (s : Feed) : Prop :=
  (s.Holds t ∧ s.session ≠ 0) ∧ s.Looked n node ∧ s.log.late = [] ∧ s.stagedStops ≤ n

/-- The firmware has accepted a chunk of the node. -/
def Accepted (t : MhiTask) (n : Nat) (node : ListNode) (chunk : Nat) (s : Feed) : Prop :=
  (s.lock = some t ∧ s.opening = none ∧ s.session ≠ 0) ∧ s.Looked n node
    ∧ (n = s.stops → s.accepted = (node.data.drop node.index).take chunk)

def knows (t : MhiTask) (p : MhiPoint) (s : Feed) : Prop :=
  match p with
  | .free => s.lock ≠ some t
  | .called _ => s.lock ≠ some t
  | .stopping => s.lock ≠ some t
  | .locked => s.Holds t
  | .reading _ => s.Holds t
  | .closing => s.Holds t
  | .closed => s.Holds t ∧ s.session = 0
  | .entered n => s.Opening t n ∧ (s.session ≠ 0 → s.log.counted = true)
  | .opening n => s.Opening t n ∧ s.session = 0
  | .begun n => s.Opening t n ∧ s.session = 0 ∧ s.log.counted = false
      ∧ (s.log.fresh = true → s.Blank)
  | .counting n => s.Opening t n ∧ (s.log.fresh = true → s.Blank)
  | .opened n => s.Opening t n ∧ s.log.counted = true
  | .cancelling n => s.Opening t n
  | .cancelled n => s.Opening t n ∧ s.session = 0
  | .serving => s.Holds t ∧ s.session ≠ 0
  | .drained => (s.Holds t ∧ s.session ≠ 0) ∧ s.result.drained = true
  | .feeding n node => s.Feeding t n node
  | .copying n node _ => s.Feeding t n node
      ∧ (n = s.stops → ∀ k, s.staged = some k → s.stagedStops ≠ s.stops)
  | .staged n node chunk => s.Feeding t n node
      ∧ (n = s.stops → s.staging.take chunk = (node.data.drop node.index).take chunk)
  | .accepted n node chunk => s.Accepted t n node chunk
  | .forgotten n node chunk => s.Accepted t n node chunk ∧ s.staged = none

/-- What the others leave alone while a task has `io_lock`. -/
structure Kept (s s' : Feed) : Prop where
  lock : s'.lock = s.lock
  session : s'.session = s.session
  result : s'.result = s.result
  opening : s'.opening = s.opening
  staged : s'.staged = s.staged
  staging : s'.staging = s.staging
  stagedStops : s'.stagedStops = s.stagedStops
  accepted : s'.accepted = s.accepted
  counted : s'.log.counted = s.log.counted
  late : s'.log.late = s.log.late
  fresh : s'.log.fresh = true → s.log.fresh = true ∧ s'.stops = s.stops
  same : s'.stops = s.stops → s'.log.fresh = s.log.fresh
  first : s'.stops = s.stops → ∀ node, firstUnfed s.nodes = some node →
    firstUnfed s'.nodes = some node
  blank : s'.stops = s.stops → s.Blank → s'.Blank

/-- How a task may change the feeding. -/
structure Guar (t : MhiTask) (s s' : Feed) : Prop where
  held : ∀ u, u ≠ t → s.lock = some u → s.Kept s'
  free : ∀ u, u ≠ t → s'.lock = some u → s.lock = some u
  stops : s.stops ≤ s'.stops

theorem Kept.refl {s : Feed}
    : s.Kept s where
  lock := rfl
  session := rfl
  result := rfl
  opening := rfl
  staged := rfl
  staging := rfl
  stagedStops := rfl
  accepted := rfl
  counted := rfl
  late := rfl
  fresh := fun h => ⟨h, rfl⟩
  same := fun _ => rfl
  first := fun _ _ h => h
  blank := fun _ h => h

theorem Kept.trans {s s' s'' : Feed} (h : s.Kept s') (h' : s'.Kept s'') (hle : s.stops ≤ s'.stops)
    (hle' : s'.stops ≤ s''.stops)
    : s.Kept s'' where
  lock := by rw [h'.lock, h.lock]
  session := by rw [h'.session, h.session]
  result := by rw [h'.result, h.result]
  opening := by rw [h'.opening, h.opening]
  staged := by rw [h'.staged, h.staged]
  staging := by rw [h'.staging, h.staging]
  stagedStops := by rw [h'.stagedStops, h.stagedStops]
  accepted := by rw [h'.accepted, h.accepted]
  counted := by rw [h'.counted, h.counted]
  late := by rw [h'.late, h.late]
  fresh := by
    intro hfresh
    have h₂ := h'.fresh hfresh
    have h₁ := h.fresh h₂.1
    exact ⟨h₁.1, by rw [h₂.2, h₁.2]⟩
  same := by
    intro hstops
    rw [h'.same (by omega), h.same (by omega)]
  first := by
    intro hstops node hnode
    exact h'.first (by omega) node (h.first (by omega) node hnode)
  blank := by
    intro hstops hblank
    exact h'.blank (by omega) (h.blank (by omega) hblank)

theorem Guar.refl {t : MhiTask} {s : Feed}
    : Guar t s s where
  held := fun _ _ _ => Kept.refl
  free := fun _ _ h => h
  stops := Nat.le_refl _

theorem Guar.trans {t : MhiTask} {s s' s'' : Feed} (h : Guar t s s') (h' : Guar t s' s'')
    : Guar t s s'' where
  held := by
    intro u hu hlock
    have h₁ := h.held u hu hlock
    have h₂ := h'.held u hu (by rw [h₁.lock, hlock])
    exact h₁.trans h₂ h.stops h'.stops
  free := by
    intro u hu hlock
    exact h.free u hu (h'.free u hu hlock)
  stops := Nat.le_trans h.stops h'.stops

section Stable

variable {t u : MhiTask} {s s' : Feed} {n : Nat} {node : ListNode} {chunk : Nat}

theorem Kept.locks (h : s.Kept s') (hs : s.Locks t)
    : s'.Locks t := by
  constructor
  . rw [h.lock]
    exact hs.1
  . intro hfresh
    rw [h.accepted]
    exact hs.2 (h.fresh hfresh).1

theorem Kept.holds (h : s.Kept s') (hs : s.Holds t)
    : s'.Holds t :=
  ⟨h.locks hs.1, by rw [h.opening]; exact hs.2⟩

theorem Kept.serves (h : s.Kept s') (hs : s.Holds t ∧ s.session ≠ 0)
    : s'.Holds t ∧ s'.session ≠ 0 :=
  ⟨h.holds hs.1, by rw [h.session]; exact hs.2⟩

theorem Kept.of_opening (h : s.Kept s') (hs : s.Opening t n)
    : s'.Opening t n :=
  ⟨h.locks hs.1, by rw [h.opening]; exact hs.2⟩

theorem Kept.looked (h : s.Kept s') (hle : s.stops ≤ s'.stops) (hs : s.Looked n node)
    : s'.Looked n node := by
  refine ⟨Nat.le_trans hs.1 hle, ?_, ?_⟩
  . intro hfresh
    have := h.fresh hfresh
    rw [this.2]
    exact hs.2.1 this.1
  . intro hstops
    have hsame : s'.stops = s.stops := by
      have := hs.1
      omega
    have := hs.2.2 (by omega)
    rw [h.same hsame]
    exact ⟨this.1, h.first hsame node this.2⟩

theorem Kept.feeding (h : s.Kept s') (hle : s.stops ≤ s'.stops) (hs : s.Feeding t n node)
    : s'.Feeding t n node :=
  ⟨h.serves hs.1, h.looked hle hs.2.1, by rw [h.late]; exact hs.2.2.1,
    by rw [h.stagedStops]; exact hs.2.2.2⟩

theorem Kept.of_accepted (h : s.Kept s') (hle : s.stops ≤ s'.stops)
    (hs : s.Accepted t n node chunk)
    : s'.Accepted t n node chunk := by
  refine ⟨⟨?_, ?_, ?_⟩, h.looked hle hs.2.1, ?_⟩
  . rw [h.lock]
    exact hs.1.1
  . rw [h.opening]
    exact hs.1.2.1
  . rw [h.session]
    exact hs.1.2.2
  . intro hstops
    rw [h.accepted]
    have := hs.2.1.1
    exact hs.2.2 (by omega)

theorem Kept.untouched (h : s.Kept s') (hs : s.log.fresh = true → s.Blank)
    : s'.log.fresh = true → s'.Blank := by
  intro hfresh
  have := h.fresh hfresh
  exact h.blank this.2 (hs this.1)

/-- The task that the knowledge at the point says to have `io_lock`. -/
theorem lock_of_knows {p : MhiPoint} (hs : s.knows t p)
    : s.lock = some t ∨ (s.lock ≠ some t ∧ (p = .free ∨ (∃ e, p = .called e) ∨ p = .stopping)) := by
  cases p with
  | free => exact .inr ⟨hs, .inl rfl⟩
  | called e => exact .inr ⟨hs, .inr (.inl ⟨e, rfl⟩)⟩
  | stopping => exact .inr ⟨hs, .inr (.inr rfl)⟩
  | locked => exact .inl hs.1.1
  | reading _ => exact .inl hs.1.1
  | closing => exact .inl hs.1.1
  | closed => exact .inl hs.1.1.1
  | entered _ => exact .inl hs.1.1.1
  | opening _ => exact .inl hs.1.1.1
  | begun _ => exact .inl hs.1.1.1
  | counting _ => exact .inl hs.1.1.1
  | opened _ => exact .inl hs.1.1.1
  | cancelling _ => exact .inl hs.1.1
  | cancelled _ => exact .inl hs.1.1.1
  | serving => exact .inl hs.1.1.1
  | drained => exact .inl hs.1.1.1.1
  | feeding _ _ => exact .inl hs.1.1.1.1
  | copying _ _ _ => exact .inl hs.1.1.1.1.1
  | staged _ _ _ => exact .inl hs.1.1.1.1.1
  | accepted _ _ _ => exact .inl hs.1.1
  | forgotten _ _ _ => exact .inl hs.1.1.1

/-- What a task knows does not depend on the steps of the others. -/
theorem Guar.stable (h : Guar u s s') (hu : t ≠ u) {p : MhiPoint} (hs : s.knows t p)
    : s'.knows t p := by
  cases lock_of_knows hs with
  | inr hfree =>
    have hlock : s'.lock ≠ some t := by
      intro hlock
      exact hfree.1 (h.free t hu hlock)
    obtain rfl | ⟨e, rfl⟩ | rfl := hfree.2
    . exact hlock
    . exact hlock
    . exact hlock
  | inl hlock =>
    have hk := h.held t hu hlock
    have hle := h.stops
    cases p with
    | free => exact absurd hlock hs
    | called e => exact absurd hlock hs
    | stopping => exact absurd hlock hs
    | locked => exact hk.holds hs
    | reading _ => exact hk.holds hs
    | closing => exact hk.holds hs
    | closed => exact ⟨hk.holds hs.1, by rw [hk.session]; exact hs.2⟩
    | entered n =>
      refine ⟨hk.of_opening hs.1, ?_⟩
      rw [hk.session, hk.counted]
      exact hs.2
    | opening n => exact ⟨hk.of_opening hs.1, by rw [hk.session]; exact hs.2⟩
    | begun n =>
      refine ⟨hk.of_opening hs.1, ?_, ?_, hk.untouched hs.2.2.2⟩
      . rw [hk.session]
        exact hs.2.1
      . rw [hk.counted]
        exact hs.2.2.1
    | counting n => exact ⟨hk.of_opening hs.1, hk.untouched hs.2⟩
    | opened n => exact ⟨hk.of_opening hs.1, by rw [hk.counted]; exact hs.2⟩
    | cancelling n => exact hk.of_opening hs
    | cancelled n => exact ⟨hk.of_opening hs.1, by rw [hk.session]; exact hs.2⟩
    | serving => exact hk.serves hs
    | drained => exact ⟨hk.serves hs.1, by rw [hk.result]; exact hs.2⟩
    | feeding n node => exact hk.feeding hle hs
    | copying n node chunk =>
      refine ⟨hk.feeding hle hs.1, ?_⟩
      intro hstops k hstaged
      have hn := hs.1.2.1.1
      rw [hk.staged] at hstaged
      rw [hk.stagedStops]
      have := hs.2 (by omega) k hstaged
      omega
    | staged n node chunk =>
      refine ⟨hk.feeding hle hs.1, ?_⟩
      intro hstops
      have hn := hs.1.2.1.1
      rw [hk.staging]
      exact hs.2 (by omega)
    | accepted n node chunk => exact hk.of_accepted hle hs
    | forgotten n node chunk =>
      exact ⟨hk.of_accepted hle hs.1, by rw [hk.staged]; exact hs.2⟩

end Stable

section Steps

variable {t : MhiTask} {s : Feed} {length n : Nat}

theorem Intact.take (h : s.Intact length) (t : MhiTask)
    : ({ s with lock := some t } : Feed).Intact length := { h with
    opening := by
      intro _ hlock
      contradiction
    settled := by
      intro hlock
      contradiction }

theorem Intact.opening_eq_none (h : s.Intact length) (hlock : s.lock = none)
    : s.opening = none := by
  by_contra hopening
  exact h.opening hopening hlock

/-- The lock is given back when the list knows of all chunks and the bytes of a session count. -/
theorem Intact.release (h : s.Intact length) (hsettled : s.log.fresh = true → s.accepted = [])
    (hcounted : s.session ≠ 0 → s.log.counted = true)
    : ({ s with lock := none, opening := none } : Feed).Intact length := { h with
    session := by
      intro hsession
      exact .inl (hcounted hsession)
    opening := by
      intro hopening
      contradiction
    settled := by
      intro _
      exact hsettled }

/-- A session comes to be opened, or its opening to an end. -/
theorem Intact.setOpening (h : s.Intact length) (opening : Option Nat) (hlock : s.lock ≠ none)
    (hcounted : s.session ≠ 0 → s.log.counted = true ∨ opening ≠ none)
    : ({ s with opening := opening } : Feed).Intact length := { h with
    session := hcounted
    opening := by
      intro _
      exact hlock }

theorem Intact.setResult (h : s.Intact length) (result : StreamResult)
    : ({ s with result := result } : Feed).Intact length :=
  { h with }

/-- A session begins with a list of which nothing has been fed. -/
theorem Intact.begin (h : s.Intact length) (hblank : s.Blank) (hsession : s.session = 0)
    : ({ s with log := ⟨true, false, [], [], []⟩, accepted := [] } : Feed).Intact length := { h with
    input := by
      intro _
      show [] = ((s.returned.map Prod.snd).flatten ++ fedBytes s.nodes) ++ []
      rw [hblank.1, fedBytes_untouched hblank.2]
      rfl
    next := by
      intro _
      exact List.nil_prefix
    notLate := by
      intro _
      rfl
    counted := by
      intro _ hcounted
      contradiction
    blank := by
      intro hfresh
      contradiction
    basis := by
      intro hfresh
      contradiction
    late := by
      intro hfresh
      contradiction
    session := by
      intro hne
      exact absurd hsession hne
    settled := by
      intro _ _
      rfl }

/-- The session is opened, and its bytes do not count yet. -/
theorem Intact.adopt (h : s.Intact length) (session : UInt32) (hopening : s.opening ≠ none)
    (hcounted : s.log.counted = false)
    : ({ s with session := session } : Feed).Intact length := { h with
    counted := by
      intro _ hne
      have : s.log.counted = true := hne
      rw [hcounted] at this
      contradiction
    session := by
      intro _
      exact .inr hopening }

/-- The bytes are counted from zero where nothing has been fed. -/
theorem Intact.count (h : s.Intact length) (hblank : s.log.fresh = true → s.Blank)
    : ({ s with submitted := 0, log := { s.log with counted := true } } : Feed).Intact length := { h with
    counted := by
      intro hfresh _ _
      have := hblank hfresh
      show (0 : UInt32) = UInt32.ofNat ((s.returned.map Prod.snd).flatten ++ fedBytes s.nodes).length
      rw [this.1, fedBytes_untouched this.2]
      rfl
    session := by
      intro _
      exact .inl rfl }

theorem Intact.close (h : s.Intact length)
    : ({ s with session := 0, log := { s.log with counted := false } } : Feed).Intact length := { h with
    counted := by
      intro _ _ hsession
      contradiction
    session := by
      intro hsession
      contradiction }

theorem Intact.forget (h : s.Intact length)
    : ({ s with staged := none } : Feed).Intact length := { h with
    stagedGen := by
      intro k hk
      contradiction
    memo := by
      intro k hk
      contradiction }

/-- The counter of a session that is gone. -/
theorem Intact.uncount (h : s.Intact length) (hsession : s.session = 0)
    : ({ s with submitted := 0 } : Feed).Intact length := { h with
    counted := by
      intro _ _ hne
      exact absurd hsession hne }

end Steps

section Lists

variable {t : MhiTask} {s : Feed} {length n : Nat}

/-- `MHIQueueBuffer` -/
def addTail (ptr buffer : Nat) (data : List UInt8) (s : Feed) : Feed :=
  { s with
    nodes := s.nodes ++ [MhiPlayer.newNode ptr buffer data]
    queued := s.queued ++ [(buffer, data)] }

theorem Intact.addTail (h : s.Intact length) {ptr buffer : Nat} {data : List UInt8}
    (hdata : data ≠ []) (hptr : ptr ∉ s.nodes.map ListNode.ptr)
    : (s.addTail ptr buffer data).Intact length :=
  have hfed : fedBytes (s.nodes ++ [MhiPlayer.newNode ptr buffer data]) = fedBytes s.nodes := by
    rw [fedBytes_append]
    simp [fedBytes, MhiPlayer.newNode]
  { h with
    queue := by
      show s.queued ++ [(buffer, data)]
        = s.returned ++ (s.nodes ++ [MhiPlayer.newNode ptr buffer data]).map ListNode.entry
      rw [h.queue, List.map_append, List.append_assoc]
      rfl
    order := h.order.addTail hdata hptr
    ends := by
      show EndsAfter _ (s.nodes ++ [_])
      rw [endsAfter_append]
      refine ⟨h.ends, ?_, trivial⟩
      intro hvalid
      contradiction
    input := by
      intro hfresh
      show s.log.input = (s.returnedBytes ++ fedBytes (s.nodes ++ [_])) ++ s.accepted
      rw [hfed]
      exact h.input hfresh
    next := by
      intro hfresh
      show s.accepted.IsPrefix (unfedBytes (s.nodes ++ [_]))
      rw [unfedBytes_append]
      exact (h.next hfresh).trans (List.prefix_append _ _)
    counted := by
      intro hfresh hcounted hsession
      show s.submitted = UInt32.ofNat (s.returnedBytes ++ fedBytes (s.nodes ++ [_])).length
      rw [hfed]
      exact h.counted hfresh hcounted hsession
    blank := by
      intro hfresh
      have := h.blank hfresh
      refine ⟨this.1, ?_⟩
      intro node hmem
      rw [Feed.addTail, List.mem_append, List.mem_singleton] at hmem
      cases hmem with
      | inl hmem => exact this.2 node hmem
      | inr heq =>
        rw [heq]
        rfl
    memo := by
      intro k hk hstops
      obtain ⟨node, hnode, hmemo⟩ := h.memo k hk hstops
      exact ⟨node, firstUnfed_append_of_some hnode, hmemo⟩ }

theorem kept_addTail {ptr buffer : Nat} {data : List UInt8}
    : s.Kept (s.addTail ptr buffer data) :=
  { Kept.refl (s := s) with
    first := by
      intro _ node hnode
      exact firstUnfed_append_of_some hnode
    blank := by
      intro _ hblank
      refine ⟨hblank.1, ?_⟩
      intro node hmem
      rw [Feed.addTail, List.mem_append, List.mem_singleton] at hmem
      cases hmem with
      | inl hmem => exact hblank.2 node hmem
      | inr heq =>
        rw [heq]
        rfl }

/-- A played buffer is given back. -/
def giveBack (node : ListNode) (nodes : List ListNode) (s : Feed) : Feed :=
  { s with nodes := nodes, returned := s.returned ++ [node.entry] }

variable {node : ListNode} {nodes : List ListNode}

theorem Intact.giveBack (h : s.Intact length) (hnodes : s.nodes = node :: nodes)
    (hplayed : node.played = true)
    : (s.giveBack node nodes).Intact length :=
  have hfull : node.size ≤ node.index := h.order.played node (by simp [hnodes]) hplayed
  have hreturned : (s.giveBack node nodes).returnedBytes = s.returnedBytes ++ node.data := by
    simp [Feed.returnedBytes, Feed.giveBack, ListNode.entry]
  have hknown : (s.giveBack node nodes).knownBytes = s.knownBytes := by
    rw [knownBytes, knownBytes, hreturned, hnodes, fedBytes_cons, List.take_of_length_le hfull]
    simp [Feed.giveBack]
  have hblank : ¬s.Blank := by
    intro hblank
    have hindex := hblank.2 node (by simp [hnodes])
    have := h.order.pos node (by simp [hnodes])
    omega
  { h with
    queue := by
      rw [Feed.giveBack, h.queue, hnodes]
      simp
    order := by
      have := h.order
      rw [hnodes] at this
      exact this.tail
    ends := by
      have := h.ends
      rw [hnodes] at this
      rw [hreturned, List.length_append]
      exact this.2
    input := by
      rw [hknown]
      exact h.input
    next := by
      intro hfresh
      have := h.next hfresh
      rw [hnodes, unfedBytes_cons, List.drop_of_length_le hfull] at this
      exact this
    counted := by
      rw [hknown]
      exact h.counted
    blank := by
      intro hfresh
      exact absurd (h.blank hfresh) hblank
    memo := by
      intro k hk hstops
      obtain ⟨first, hfirst, hmemo⟩ := h.memo k hk hstops
      rw [hnodes, firstUnfed_tail hfull] at hfirst
      exact ⟨first, hfirst, hmemo⟩ }

theorem Intact.kept_giveBack (h : s.Intact length) (hnodes : s.nodes = node :: nodes)
    (hplayed : node.played = true)
    : s.Kept (s.giveBack node nodes) :=
  have hfull : node.size ≤ node.index := h.order.played node (by simp [hnodes]) hplayed
  { Kept.refl (s := s) with
    first := by
      intro _ first hfirst
      rw [hnodes, firstUnfed_tail hfull] at hfirst
      exact hfirst
    blank := by
      intro _ hblank
      have hindex := hblank.2 node (by simp [hnodes])
      have := h.order.pos node (by simp [hnodes])
      omega }

/-- `drain_buffer_list_locked` -/
def drain (s : Feed) : Feed :=
  { s with
    nodes := []
    gen := s.gen + 1
    stops := s.stops + 1
    queued := []
    returned := []
    log := { s.log with
      fresh := false
      basis := if s.log.fresh then s.queued.map Prod.snd else s.log.basis } }

/-- What has gone to the firmware was queued. -/
theorem Intact.input_prefix (h : s.Intact length) (hfresh : s.log.fresh = true)
    : s.log.input.IsPrefix s.queuedBytes := by
  have hqueued : s.queuedBytes = s.returnedBytes ++ bufferBytes s.nodes := by
    rw [queuedBytes, h.queue, returnedBytes, bufferBytes]
    simp [ListNode.entry, Function.comp_def]
  rw [h.input hfresh, hqueued, h.order.bufferBytes_eq, knownBytes, List.append_assoc,
    List.prefix_append_right_inj, List.prefix_append_right_inj]
  exact h.next hfresh

theorem Intact.drain (h : s.Intact length)
    : s.drain.Intact length :=
  { h with
    gen := by
      dsimp only [Feed.drain]
      rw [h.gen, UInt32.ofNat_add]
      rfl
    queue := rfl
    order := FedInOrder.nil
    ends := trivial
    input := by
      intro hfresh
      contradiction
    next := by
      intro hfresh
      contradiction
    notLate := by
      intro hfresh
      contradiction
    counted := by
      intro hfresh
      contradiction
    blank := by
      intro _
      refine ⟨rfl, ?_⟩
      intro node hmem
      contradiction
    basis := by
      intro _
      show s.log.input.IsPrefix (if s.log.fresh = true then _ else _ : List (List UInt8)).flatten
      split
      . next hfresh => exact h.input_prefix hfresh
      . next hfresh => exact h.basis (by simpa using hfresh)
    late := by
      intro _
      show s.log.late.length ≤ 1
      by_cases hfresh : s.log.fresh = true
      . rw [h.notLate hfresh]
        exact Nat.zero_le _
      . exact h.late (by simpa using hfresh)
    settled := by
      intro _ hfresh
      contradiction
    stagedStops := by
      have := h.stagedStops
      show s.stagedStops ≤ s.stops + 1
      omega
    memo := by
      intro k _ hstops
      have := h.stagedStops
      have : s.stagedStops = s.stops + 1 := hstops
      omega }

theorem kept_drain
    : s.Kept s.drain :=
  { Kept.refl (s := s) with
    fresh := by
      intro hfresh
      contradiction
    same := by
      intro hstops
      exact absurd hstops (Nat.succ_ne_self _)
    first := by
      intro hstops
      exact absurd hstops (Nat.succ_ne_self _)
    blank := by
      intro hstops
      exact absurd hstops (Nat.succ_ne_self _) }

end Lists

section Feeding

variable {t : MhiTask} {s : Feed} {length n chunk : Nat} {node : ListNode}

/-- `mhi_complete_consumed` -/
def complete (drainAll : Bool) (s : Feed) : Feed :=
  { s with nodes := markPlayed drainAll s.result.bytesConsumed s.nodes }

theorem Intact.complete (h : s.Intact length) (drainAll : Bool)
    : (s.complete drainAll).Intact length :=
  have hknown : (s.complete drainAll).knownBytes = s.knownBytes := by
    show s.returnedBytes ++ fedBytes (markPlayed _ _ _) = _
    rw [fedBytes_markPlayed]
    rfl
  { h with
    queue := by
      show s.queued = s.returned ++ (markPlayed _ _ _).map _
      rw [map_markPlayed]
      . exact h.queue
      . intro node
        rfl
    order := h.order.markPlayed
    ends := endsAfter_markPlayed h.ends
    input := by
      rw [hknown]
      exact h.input
    next := by
      show _ → s.accepted.IsPrefix (unfedBytes (markPlayed _ _ _))
      rw [unfedBytes_markPlayed]
      exact h.next
    counted := by
      rw [hknown]
      exact h.counted
    blank := by
      intro hfresh
      have := h.blank hfresh
      refine ⟨this.1, ?_⟩
      intro node hmem
      cases mem_markPlayed_or hmem with
      | inl hmem => exact this.2 node hmem
      | inr hmarked =>
        obtain ⟨node', hmem', rfl, _⟩ := hmarked
        exact this.2 node' hmem'
    memo := by
      intro k hk hstops
      obtain ⟨node, hnode, hmemo⟩ := h.memo k hk hstops
      refine ⟨node, ?_, hmemo⟩
      show firstUnfed (markPlayed _ _ _) = _
      rw [firstUnfed_markPlayed]
      exact hnode }

/--
The buffers that are marked have been appended, and the cursor of the firmware has reached their
end, or the firmware has drained the stream.
-/
def Completes (drainAll : Bool) (s : Feed) : Prop :=
  ∀ pre node post node', s.nodes = pre ++ node :: post →
    (s.complete drainAll).nodes[pre.length]? = some node' →
    node.played = false → node'.played = true →
    let bytes := s.returnedBytes ++ bufferBytes (pre ++ [node])
    s.log.fresh = true ∧ bytes.IsPrefix s.log.input
      ∧ (drainAll = true ∧ s.result.drained = true
          ∨ cursorReached s.result.bytesConsumed (UInt32.ofNat bytes.length) = true)

theorem Intact.completes (h : s.Intact length) {drainAll : Bool}
    (hdrained : drainAll = true → s.result.drained = true)
    : s.Completes drainAll := by
  intro pre node post node' hnodes hat hold hnew bytes
  have hat' : (markPlayed drainAll s.result.bytesConsumed (pre ++ node :: post))[pre.length]?
      = some node' := by
    rw [← hnodes]
    exact hat
  obtain ⟨hfull, hvalid, hreached⟩ := markPlayed_at hat' hold hnew
  have hpos : 0 < node.size := h.order.pos node (by simp [hnodes])
  have hfresh : s.log.fresh = true := by
    by_contra hfresh
    have := (h.blank (by simpa using hfresh)).2 node (by simp [hnodes])
    omega
  have horder := h.order
  rw [hnodes] at horder
  -- the buffers before one that has been fed have been fed
  have hpre : ∀ n ∈ pre, n.size ≤ n.index := by
    intro n hn
    by_contra hlt
    have := (List.pairwise_append.mp horder.order).2.2 n hn node List.mem_cons_self (by omega)
    omega
  refine ⟨hfresh, ?_, ?_⟩
  . rw [h.input hfresh, knownBytes, hnodes, List.append_assoc, List.prefix_append_right_inj]
    rw [show pre ++ node :: post = (pre ++ [node]) ++ post by simp, fedBytes_append,
      fedBytes_full, List.append_assoc]
    . exact List.prefix_append _ _
    . intro n hn
      rw [List.mem_append, List.mem_singleton] at hn
      cases hn with
      | inl hn => exact hpre n hn
      | inr heq =>
        rw [heq]
        exact hfull
  . cases hreached with
    | inl hdrain => exact .inl ⟨hdrain, hdrained hdrain⟩
    | inr hcursor =>
      apply Or.inr
      have hends := h.ends
      rw [hnodes, endsAfter_append] at hends
      have hend := hends.2.1 hvalid
      have hlength : bytes.length
          = s.returnedBytes.length + (bufferBytes pre).length + node.size := by
        dsimp only [bytes, ListNode.size]
        rw [bufferBytes_append, List.length_append, List.length_append]
        simp [bufferBytes, Nat.add_assoc]
      rw [hlength, ← hend]
      exact hcursor

/-- The chunk is copied where no memo is lost. -/
theorem Intact.copy (h : s.Intact length) (bytes : List UInt8)
    (hmemo : ∀ k, s.staged = some k → s.stagedStops ≠ s.stops)
    : ({ s with staging := bytes } : Feed).Intact length := { h with
    memo := by
      intro k hk hstops
      exact absurd hstops (hmemo k hk) }

theorem Intact.stage (h : s.Intact length) (hlooked : s.Looked n node)
    (hstaging : n = s.stops → s.staging.take chunk = (node.data.drop node.index).take chunk)
    (hchunk : chunk = min (node.size - node.index) length) {gen : UInt32}
    (hgen : gen = UInt32.ofNat n)
    : ({ s with staged := some ⟨gen, node.ptr, node.index, chunk⟩, stagedStops := n } : Feed).Intact
        length := { h with
    stagedStops := hlooked.1
    stagedGen := by
      intro k hk
      rw [← Option.some.inj hk]
      exact hgen
    memo := by
      intro k hk hstops
      rw [← Option.some.inj hk]
      refine ⟨node, (hlooked.2.2 hstops).2, ?_, hstaging hstops⟩
      have hstops' : n = s.stops := hstops
      rw [hgen, hchunk, h.gen, hstops', h.length] }

/-- The firmware has accepted a chunk. -/
def append (bytes : List UInt8) (s : Feed) : Feed :=
  if s.log.fresh then
    { s with
      log := { s.log with input := s.log.input ++ bytes }
      accepted := bytes }
  else
    { s with log := { s.log with late := s.log.late ++ [bytes] } }

theorem Intact.append (h : s.Intact length) (hlocks : s.Locks t) (hlooked : s.Looked n node)
    (hlate : s.log.late = []) {bytes : List UInt8}
    (hbytes : n = s.stops → bytes.IsPrefix (node.data.drop node.index))
    : (s.append bytes).Intact length := by
  unfold Feed.append
  split
  . next hfresh =>
    exact { h with
      input := by
        intro _
        show s.log.input ++ bytes = s.knownBytes ++ bytes
        rw [h.input hfresh, hlocks.2 hfresh, List.append_nil]
      next := by
        intro _
        have hstops := hlooked.2.1 hfresh
        obtain ⟨pre, post, hnodes, hpre, _, _⟩ :=
          h.order.firstUnfed_eq_some (hlooked.2.2 hstops).2
        show bytes.IsPrefix (unfedBytes s.nodes)
        rw [hnodes, unfedBytes_append, unfedBytes_full hpre, unfedBytes_cons, List.nil_append]
        exact (hbytes hstops).trans (List.prefix_append _ _)
      basis := by
        intro hnot
        rw [hfresh] at hnot
        contradiction
      settled := by
        intro hlock
        have : s.lock = none := hlock
        rw [hlocks.1] at this
        contradiction }
  . next hfresh =>
    exact { h with
      notLate := by
        intro hnot
        exact absurd hnot hfresh
      late := by
        intro _
        show (s.log.late ++ [bytes]).length ≤ 1
        rw [hlate]
        exact Nat.le_refl _ }

/-- The bookkeeping of an accepted chunk. -/
def account (ptr chunk : Nat) (s : Feed) : Feed :=
  { s with
    submitted := s.submitted + chunk.toUInt32
    nodes := s.nodes.map fun n =>
      if n.ptr = ptr then n.advance chunk (s.submitted + chunk.toUInt32) else n
    accepted := [] }

theorem Intact.account (h : s.Intact length) (hacc : s.Accepted t n node chunk)
    (hstops : n = s.stops) (hstaged : s.staged = none) (hchunk : chunk ≤ node.size - node.index)
    : (s.account node.ptr chunk).Intact length := by
  obtain ⟨⟨hlock, hopening, hsession⟩, hlooked, haccepted⟩ := hacc
  have hfresh := (hlooked.2.2 hstops).1
  obtain ⟨pre, post, hnodes, hpre, hlt, hpost⟩ := h.order.firstUnfed_eq_some (hlooked.2.2 hstops).2
  have hnodes' : (s.account node.ptr chunk).nodes
      = pre ++ node.advance chunk (s.submitted + chunk.toUInt32) :: post := by
    show s.nodes.map _ = _
    have hnodup := h.order.nodup
    rw [hnodes] at hnodup ⊢
    exact map_advance hnodup
  have hfed : fedBytes (s.account node.ptr chunk).nodes = fedBytes s.nodes ++ s.accepted := by
    rw [hnodes', fedBytes_advance hpost, hnodes, haccepted hstops]
  have hknown : (s.account node.ptr chunk).knownBytes = s.knownBytes ++ s.accepted := by
    show s.returnedBytes ++ fedBytes (s.account node.ptr chunk).nodes = _
    rw [hfed, knownBytes, List.append_assoc]
  have hlength : s.accepted.length = chunk := by
    rw [haccepted hstops, List.length_take, List.length_drop]
    dsimp only [ListNode.size] at hchunk
    omega
  have hcounted : s.log.counted = true := by
    cases h.session hsession with
    | inl hcounted => exact hcounted
    | inr hne => exact absurd hopening hne
  have hsubmitted : s.submitted + chunk.toUInt32
      = UInt32.ofNat (s.account node.ptr chunk).knownBytes.length := by
    rw [hknown, List.length_append, hlength, UInt32.ofNat_add, h.counted hfresh hcounted hsession]
  exact { h with
    queue := by
      rw [hnodes']
      have := h.queue
      rw [hnodes] at this
      show s.queued = s.returned ++ _
      rw [this]
      simp
    order := by
      rw [hnodes']
      have := h.order
      rw [hnodes] at this
      exact this.advance hpre hpost hchunk _
    ends := by
      have hends := h.ends
      rw [hnodes] at hends
      rw [hnodes']
      apply hends.advance hpre hpost
      . omega
      . rw [← hnodes', ← List.length_append]
        exact hsubmitted
    input := by
      intro _
      rw [hknown]
      show s.log.input = (_ ++ s.accepted) ++ []
      rw [List.append_nil]
      exact h.input hfresh
    next := by
      intro _
      exact List.nil_prefix
    counted := by
      intro _ _ _
      exact hsubmitted
    blank := by
      intro hnot
      have : s.log.fresh = false := hnot
      rw [hfresh] at this
      contradiction
    settled := by
      intro _ _
      rfl
    memo := by
      intro k hk
      have : s.staged = some k := hk
      rw [hstaged] at this
      contradiction }

/-- Who has the lock may do to the feeding what he likes, as far as the others are concerned. -/
theorem Guar.of_locked {s' : Feed} (hlock : s.lock = some t)
    (hlock' : s'.lock = some t ∨ s'.lock = none) (hstops : s.stops = s'.stops)
    : Guar t s s' where
  held := by
    intro u hu hother
    rw [hlock] at hother
    exact absurd (Option.some.inj hother).symm hu
  free := by
    intro u hu hother
    cases hlock' with
    | inl hlock' =>
      rw [hlock'] at hother
      exact absurd (Option.some.inj hother).symm hu
    | inr hlock' =>
      rw [hlock'] at hother
      contradiction
  stops := Nat.le_of_eq hstops

/-- So may everybody do what the task that has the lock does not mind. -/
theorem Guar.of_kept {s' : Feed} (h : s.Kept s') (hle : s.stops ≤ s'.stops)
    : Guar t s s' where
  held := fun _ _ _ => h
  free := by
    intro u _ hlock
    rwa [h.lock] at hlock
  stops := hle

end Feeding

end Feed

/--
Where the feeder and the player could lose track: a chunk is taken while the list has not been
drained since the session was begun, a session is begun before anything of the list has been fed,
and no generation comes round between two looks at it.
-/
def mhiFeeds (m : MhiMark) (s : MhiPlayer) : Prop :=
  match m with
  | .scanned => s.ghost.stream.fresh = true
  | .begun _ => s.ghost.returned = [] ∧ ∀ node ∈ s.bufferList, node.index = 0
  | .feedChecks stops gen => s.listGen = gen → s.ghost.stops = stops
  | .memo stops _ _ => s.ghost.stagedStops = stops
  | _ => True

instance (m : MhiMark) (s : MhiPlayer) : Decidable (mhiFeeds m s) :=
  match m with
  | .scanned => inferInstanceAs (Decidable (s.ghost.stream.fresh = true))
  | .begun _ =>
    inferInstanceAs (Decidable (s.ghost.returned = [] ∧ ∀ node ∈ s.bufferList, node.index = 0))
  | .feedChecks stops gen =>
    inferInstanceAs (Decidable (s.listGen = gen → s.ghost.stops = stops))
  | .memo stops _ _ => inferInstanceAs (Decidable (s.ghost.stagedStops = stops))
  | .playReads _ => .isTrue trivial
  | .playChecks _ _ => .isTrue trivial
  | .rearm => .isTrue trivial
  | .flip => .isTrue trivial
  | .restore => .isTrue trivial
  | .linked _ => .isTrue trivial
  | .complete _ => .isTrue trivial

/-- What a mark of `mhi_complete_consumed` says. -/
def mhiCompletes (m : MhiMark) (s : MhiPlayer) : Prop :=
  match m with
  | .complete drainAll => s.feed.Completes drainAll
  | _ => True

def streamOutline (length : Nat) : MhiOutline where
  knows := fun t p s => s.feed.knows t p
  inv := fun s => s.feed.Intact length
  guar := fun t s s' => Feed.Guar t s.feed s'.feed
  assume := mhiFeeds
  assert := mhiCompletes
  gen := fun _ _ => True
  listGen := fun stops gen => gen = UInt32.ofNat stops
  chunk := fun node chunk => chunk = min (node.size - node.index) length

section

variable {length : Nat} {t : MhiTask} {p q : MhiPoint} {s s' : MhiPlayer}

/-- Stores to the rest of the player. -/
theorem streamOutline_frame (h : (streamOutline length).Here t p s) (heq : s'.feed = s.feed)
    (hq : s.feed.knows t q)
    : (streamOutline length).Moves t q s s' where
  guar := by
    show Feed.Guar t s.feed s'.feed
    rw [heq]
    exact Feed.Guar.refl
  here := by
    constructor
    . show s'.feed.knows t q
      rw [heq]
      exact hq
    . show s'.feed.Intact length
      rw [heq]
      exact h.inv

theorem streamOutline_same (h : (streamOutline length).Here t p s) (heq : s'.feed = s.feed)
    : (streamOutline length).Moves t p s s' :=
  streamOutline_frame h heq h.knows

/-- Stores of the task that has `io_lock`. -/
theorem streamOutline_locked (hlock : s.ioLock = some t) (hintact : s'.feed.Intact length)
    (hknows : s'.feed.knows t q) (hlock' : s'.ioLock = some t ∨ s'.ioLock = none)
    (hstops : s.ghost.stops = s'.ghost.stops)
    : (streamOutline length).Moves t q s s' where
  guar := Feed.Guar.of_locked hlock hlock' hstops
  here := ⟨hknows, hintact⟩

/-- A task takes `io_lock`. -/
theorem streamOutline_take (h : (streamOutline length).Here t p s) (hlock : s.ioLock = none)
    (hknows : ({ s.feed with lock := some t } : Feed).Holds t →
      ({ s.feed with lock := some t } : Feed).knows t q)
    : (streamOutline length).Moves t q s { s with ioLock := some t } where
  guar := by
    constructor
    . intro u _ hother
      have : s.ioLock = some u := hother
      rw [hlock] at this
      contradiction
    . intro u hu hother
      exact absurd (Option.some.inj hother).symm hu
    . exact Nat.le_refl _
  here := by
    constructor
    . apply hknows
      exact ⟨⟨rfl, h.inv.settled hlock⟩, h.inv.opening_eq_none hlock⟩
    . exact h.inv.take t

theorem streamOutline_release (h : (streamOutline length).Here t p s) (hlocks : s.feed.Locks t)
    (hcounted : s.session ≠ 0 → s.ghost.stream.counted = true)
    (heq : s'.feed = { s.feed with lock := none, opening := none })
    : (streamOutline length).Moves t .free s s' := by
  have hlock' : s'.feed.lock = none := by rw [heq]
  apply streamOutline_locked hlocks.1
  . rw [heq]
    exact h.inv.release hlocks.2 hcounted
  . show s'.feed.lock ≠ some t
    rw [hlock']
    simp
  . exact .inr hlock'
  . show s.feed.stops = s'.feed.stops
    rw [heq]

/-- Steps of a task without `io_lock`. -/
theorem streamOutline_kept (hkept : s.feed.Kept s'.feed) (hle : s.ghost.stops ≤ s'.ghost.stops)
    (hintact : s'.feed.Intact length) (hknows : s'.feed.knows t q)
    : (streamOutline length).Moves t q s s' where
  guar := Feed.Guar.of_kept hkept hle
  here := ⟨hknows, hintact⟩

theorem closes_streamOutline
    (hp : ∀ s, Feed.knows t p s → s.Locks t ∧
      (s.session = 0 → s.knows t q) ∧
      ({ s with session := 0, log := { s.log with counted := false } } : Feed).knows t q)
    (hq : ∀ s, Feed.knows t q s → s.Locks t ∧ s.session = 0 ∧
      ({ s with staged := none } : Feed).knows t q ∧ ({ s with submitted := 0 } : Feed).knows t q)
    : (streamOutline length).Closes t p q where
  gone := by
    intro s hs hsession
    exact ⟨(hp _ hs.knows).2.1 hsession, hs.inv⟩
  close := by
    intro s hs
    have hknows := hp _ hs.knows
    exact streamOutline_locked hknows.1.1 hs.inv.close hknows.2.2 (.inl hknows.1.1) rfl
  forget := by
    intro s hs
    have hknows := hq _ hs.knows
    exact streamOutline_locked hknows.1.1 hs.inv.forget hknows.2.2.1 (.inl hknows.1.1) rfl
  submitted := by
    intro s hs
    have hknows := hq _ hs.knows
    apply streamOutline_locked hknows.1.1
    . exact hs.inv.uncount hknows.2.1
    . exact hknows.2.2.2
    . exact .inl hknows.1.1
    . rfl

theorem tolerant_streamOutline (hp : ∀ s, Feed.knows t p s → s.lock = some t)
    (hresult : ∀ s r, Feed.knows t p s → ({ s with result := r } : Feed).knows t p)
    (hcomplete : ∀ s, Feed.knows t p s → (s.complete false).knows t p)
    : (streamOutline length).Tolerant t p where
  result := by
    intro r s hs
    have hlock := hp _ hs.knows
    apply streamOutline_locked hlock
    . exact hs.inv.setResult r
    . exact hresult _ r hs.knows
    . exact .inl hlock
    . rfl
  complete := by
    intro s hs _
    have hlock := hp _ hs.knows
    constructor
    . apply hs.inv.completes
      intro h
      contradiction
    . apply streamOutline_locked hlock
      . exact hs.inv.complete false
      . exact hcomplete _ hs.knows
      . exact .inl hlock
      . rfl

theorem calls_streamOutline
    : (streamOutline length).SoundCalls where
  take := by
    intro t s hs hlock
    exact streamOutline_take hs hlock fun h => h
  release := by
    intro t s hs
    have hholds : s.feed.Holds t := hs.knows
    apply streamOutline_release hs hholds.1
    . intro hsession
      cases hs.inv.session hsession with
      | inl hcounted => exact hcounted
      | inr hopening => exact absurd hholds.2 hopening
    . have : s.ghost.opening = none := hholds.2
      simp [MhiPlayer.feed, this]
  locked := by
    intro t
    apply tolerant_streamOutline
    . intro s hs
      exact hs.1.1
    . intro s r hs
      exact hs
    . intro s hs
      exact hs
  reenter := by
    intro t s hs _
    apply streamOutline_same hs
    unfold MhiPlayer.reenter
    split <;> rfl
  restore := by
    intro t s hs _ _
    exact ⟨trivial, streamOutline_same hs rfl⟩
  resumed := by
    intro t s hs
    apply streamOutline_same hs
    unfold MhiPlayer.resumed
    split <;> rfl
  rearm := by
    intro t s hs _
    exact ⟨trivial, streamOutline_same hs rfl⟩
  pause := by
    intro t s hs
    apply streamOutline_same hs
    unfold MhiPlayer.pause
    split <;> rfl
  remHead := by
    intro t s hs
    unfold MhiPlayer.remHead
    split
    . exact streamOutline_same hs rfl
    . next node nodes hnodes =>
      split
      . next hplayed =>
        apply streamOutline_kept (hs.inv.kept_giveBack hnodes hplayed)
        . exact Nat.le_refl _
        . exact hs.inv.giveBack hnodes hplayed
        . exact hs.knows
      . exact streamOutline_same hs rfl
  addTail := by
    intro t s ptr buffer data hs hdata hptr
    refine ⟨?_, trivial⟩
    apply streamOutline_kept
    . exact Feed.kept_addTail
    . exact Nat.le_refl _
    . exact hs.inv.addTail hdata hptr
    . exact hs.knows

theorem play_streamOutline
    : (streamOutline length).SoundPlay where
  call := by
    intro t s hs
    exact streamOutline_frame hs rfl hs.knows
  free_of_called := by
    intro t e s hs
    exact ⟨hs.knows, hs.inv⟩
  take := by
    intro t e s hs hlock
    exact streamOutline_take hs hlock fun h => h
  gen := by
    intro s _
    trivial
  read := by
    intro t e s hs _
    have hholds : s.feed.Holds t := hs.knows
    have hcounted : s.feed.session ≠ 0 → s.feed.log.counted = true := by
      intro hsession
      cases hs.inv.session hsession with
      | inl hcounted => exact hcounted
      | inr hopening => exact absurd hholds.2 hopening
    refine ⟨trivial, ?_⟩
    apply streamOutline_locked hholds.1.1
    . apply hs.inv.setOpening (some s.ghost.stops)
      . rw [hholds.1.1]
        simp
      . intro hsession
        exact .inl (hcounted hsession)
    . exact ⟨⟨hholds.1, rfl⟩, hcounted⟩
    . exact .inl hholds.1.1
    . rfl
  exists_session := by
    intro t n s hs hsession
    exact ⟨⟨hs.knows.1, hs.knows.2 hsession⟩, hs.inv⟩
  no_session := by
    intro t n s hs hsession
    exact ⟨⟨hs.knows.1, hsession⟩, hs.inv⟩
  result := by
    intro t n r s hs
    have hknows : s.feed.Opening t n ∧ s.feed.session = 0 := hs.knows
    apply streamOutline_locked hknows.1.1.1
    . exact hs.inv.setResult r
    . exact hknows
    . exact .inl hknows.1.1.1
    . rfl
  fail := by
    intro t n s hs
    have hknows : s.feed.Opening t n ∧ s.feed.session = 0 := hs.knows
    apply streamOutline_release hs hknows.1.1
    . intro hsession
      exact absurd hknows.2 hsession
    . rfl
  begun := by
    intro t n s hs hbegun
    have hknows : s.feed.Opening t n ∧ s.feed.session = 0 := hs.knows
    have hblank : s.feed.Blank := hbegun
    refine ⟨trivial, ?_⟩
    apply streamOutline_locked hknows.1.1.1
    . exact hs.inv.begin hblank hknows.2
    . exact ⟨⟨⟨hknows.1.1.1, fun _ => rfl⟩, hknows.1.2⟩, hknows.2, rfl, fun _ => hblank⟩
    . exact .inl hknows.1.1.1
    . rfl
  session := by
    intro t n s hs
    have hknows : s.feed.Opening t n ∧ s.feed.session = 0 ∧ s.feed.log.counted = false
        ∧ (s.feed.log.fresh = true → s.feed.Blank) := hs.knows
    apply streamOutline_locked hknows.1.1.1
    . apply hs.inv.adopt s.result.session
      . rw [hknows.1.2]
        simp
      . exact hknows.2.2.1
    . exact ⟨hknows.1, hknows.2.2.2⟩
    . exact .inl hknows.1.1.1
    . rfl
  count := by
    intro t n s hs
    have hknows : s.feed.Opening t n ∧ (s.feed.log.fresh = true → s.feed.Blank) := hs.knows
    apply streamOutline_locked hknows.1.1.1
    . exact hs.inv.count hknows.2
    . exact ⟨hknows.1, rfl⟩
    . exact .inl hknows.1.1.1
    . rfl
  check := by
    intro t n g s _ _ _
    trivial
  cancel := by
    intro t n g s hs _ _
    exact ⟨hs.knows.1, hs.inv⟩
  cancelled := by
    intro t n
    apply closes_streamOutline
    . intro s hs
      exact ⟨hs.1, fun hsession => ⟨hs, hsession⟩, hs, rfl⟩
    . intro s hs
      exact ⟨hs.1.1, hs.2, hs, hs⟩
  cancel_end := by
    intro t n s hs
    have hknows : s.feed.Opening t n ∧ s.feed.session = 0 := hs.knows
    apply streamOutline_release hs hknows.1.1
    . intro hsession
      exact absurd hknows.2 hsession
    . rfl
  publish := by
    intro t n g s status hs _ _ _ _
    have hknows : s.feed.Opening t n ∧ s.feed.log.counted = true := hs.knows
    apply streamOutline_locked hknows.1.1.1
    . apply hs.inv.setOpening none
      . rw [hknows.1.1.1]
        simp
      . intro _
        exact .inl hknows.2
    . exact ⟨hknows.1.1, rfl⟩
    . exact .inl hknows.1.1.1
    . rfl

theorem stop_streamOutline
    : (streamOutline length).SoundStop where
  flip := by
    intro t s hs _
    refine ⟨trivial, ?_⟩
    apply streamOutline_kept Feed.kept_drain
    . exact Nat.le_succ _
    . exact hs.inv.drain
    . have hfree : s.feed.lock ≠ some t := hs.knows
      show (s.flip t).feed.knows t _
      split <;> exact hfree
  take := by
    intro t s hs hlock
    exact streamOutline_take hs hlock fun h => h
  closes := by
    intro t
    apply closes_streamOutline
    . intro s hs
      exact ⟨hs.1, fun hsession => ⟨hs, hsession⟩, hs, rfl⟩
    . intro s hs
      exact ⟨hs.1.1, hs.2, hs, hs⟩
  finish := by
    intro t s hs
    have hknows : s.feed.Holds t ∧ s.feed.session = 0 := hs.knows
    apply streamOutline_release hs hknows.1.1
    . intro hsession
      exact absurd hknows.2 hsession
    . have : s.ghost.opening = none := hknows.1.2
      simp [MhiPlayer.feed, this]

theorem feeder_streamOutline
    : (streamOutline length).SoundFeeder where
  serve := by
    intro s hs hsession
    exact ⟨⟨hs.knows, hsession⟩, hs.inv⟩
  served := by
    intro s hs
    exact ⟨hs.knows.1, hs.inv⟩
  serving := by
    apply tolerant_streamOutline
    . intro s hs
      exact hs.1.1.1
    . intro s r hs
      exact hs
    . intro s hs
      exact hs
  outOfData := by
    intro s hs
    apply streamOutline_same hs
    unfold MhiPlayer.outOfData
    split <;> rfl
  statusFailed := by
    intro s hs
    apply streamOutline_same hs
    unfold MhiPlayer.statusFailed
    split <;> rfl
  drained := by
    intro s hs hdrained
    exact ⟨⟨hs.knows, hdrained⟩, hs.inv⟩
  drain := by
    intro s hs _
    have hknows : (s.feed.Holds .feeder ∧ s.feed.session ≠ 0) ∧ s.feed.result.drained = true :=
      hs.knows
    constructor
    . apply hs.inv.completes
      intro _
      exact hknows.2
    . apply streamOutline_locked hknows.1.1.1.1
      . exact hs.inv.complete true
      . exact hknows.1
      . exact .inl hknows.1.1.1.1
      . rfl
  gen := by
    intro s hs
    exact hs.gen
  chunk := by
    intro s node hs
    have hlength : s.stagingLength = length := hs.length
    show _ = min (node.size - node.index) length
    rw [hlength]
  scan := by
    intro s hs
    exact streamOutline_same hs rfl
  find := by
    intro s node hs hfirst hscanned
    refine ⟨trivial, ⟨hs.knows, ⟨Nat.le_refl _, ?_, ?_⟩, ?_, hs.inv.stagedStops⟩, hs.inv⟩
    . intro _
      rfl
    . intro _
      exact ⟨hscanned, hfirst⟩
    . exact hs.inv.notLate hscanned
  hit := by
    intro n node gen chunk s hs hgen hchunk hstaged hmemo
    have hknows : s.feed.Feeding .feeder n node := hs.knows
    refine ⟨trivial, ⟨hknows, ?_⟩, hs.inv⟩
    intro hstops
    obtain ⟨first, hfirst, hkey, hstaging⟩ := hs.inv.memo _ hstaged (by
      have : s.ghost.stagedStops = n := hmemo
      show s.ghost.stagedStops = s.feed.stops
      rw [this, hstops])
    have heq := (hknows.2.1.2.2 hstops).2
    rw [hfirst, Option.some.injEq] at heq
    rw [heq] at hstaging
    exact hstaging
  miss := by
    intro n node gen chunk s hs hgen hchunk hstaged
    have hknows : s.feed.Feeding .feeder n node := hs.knows
    refine ⟨⟨hknows, ?_⟩, hs.inv⟩
    -- a memo of this generation would be the one that was looked for
    intro hstops k hk heq
    obtain ⟨first, hfirst, hkey, _⟩ := hs.inv.memo k hk heq
    have hfirst' := (hknows.2.1.2.2 hstops).2
    rw [hfirst, Option.some.injEq] at hfirst'
    apply hstaged
    have hk' : s.staged = some k := hk
    have hgen' : s.feed.gen = gen := by
      rw [hs.inv.gen, ← hstops]
      exact hgen.symm
    have hlength : s.feed.stagingLength = length := hs.inv.length
    have hchunk' : chunk = min (node.size - node.index) length := hchunk
    rw [hk', hkey, hfirst', hgen', hlength, hchunk']
  copy_failed := by
    intro n node chunk s hs
    exact ⟨hs.knows.1.1, hs.inv⟩
  copy := by
    intro n node chunk bytes s hs
    have hknows : s.feed.Feeding .feeder n node
        ∧ (n = s.feed.stops → ∀ k, s.feed.staged = some k → s.feed.stagedStops ≠ s.feed.stops) :=
      hs.knows
    have hlock := hknows.1.1.1.1.1
    apply streamOutline_locked hlock
    . apply hs.inv.copy
      intro k hk
      by_cases hstops : n = s.feed.stops
      . exact hknows.2 hstops k hk
      . have := hknows.1.2.1.1
        have := hknows.1.2.2.2
        omega
    . refine ⟨hknows.1, ?_⟩
      intro hstops
      have hstops' : s.ghost.stops = n := hstops.symm
      show (if s.ghost.stops = n then _ else _ : List UInt8).take chunk = _
      rw [if_pos hstops', List.take_take, Nat.min_self]
    . exact .inl hlock
    . rfl
  memo := by
    intro n node gen chunk hgen hchunk s hs
    have hknows : s.feed.Feeding .feeder n node ∧ (n = s.feed.stops →
        s.feed.staging.take chunk = (node.data.drop node.index).take chunk) := hs.knows
    have hlock := hknows.1.1.1.1.1
    apply streamOutline_locked hlock
    . exact hs.inv.stage hknows.1.2.1 hknows.2 hchunk hgen
    . exact ⟨⟨hknows.1.1, hknows.1.2.1, hknows.1.2.2.1, Nat.le_refl _⟩, hknows.2⟩
    . exact .inl hlock
    . rfl
  feed_result := by
    intro n node chunk r s hs
    have hknows : s.feed.Feeding .feeder n node ∧ (n = s.feed.stops →
        s.feed.staging.take chunk = (node.data.drop node.index).take chunk) := hs.knows
    have hlock := hknows.1.1.1.1.1
    apply streamOutline_locked hlock
    . exact hs.inv.setResult r
    . exact hknows
    . exact .inl hlock
    . rfl
  feed_failed := by
    intro n node chunk s hs
    exact ⟨hs.knows.1.1, hs.inv⟩
  append := by
    intro n node chunk _ s hs
    have hknows : s.feed.Feeding .feeder n node ∧ (n = s.feed.stops →
        s.feed.staging.take chunk = (node.data.drop node.index).take chunk) := hs.knows
    have hlock := hknows.1.1.1.1.1
    have hfeed : (s.append (s.staging.take chunk)).feed
        = s.feed.append (s.staging.take chunk) := by
      unfold MhiPlayer.append Feed.append
      show (if s.ghost.stream.fresh = true then _ else _ : MhiPlayer).feed
        = if s.ghost.stream.fresh = true then _ else _
      split <;> rfl
    have hsame : (s.feed.append (s.staging.take chunk)).lock = some .feeder
        ∧ (s.feed.append (s.staging.take chunk)).stops = s.feed.stops
        ∧ (s.feed.append (s.staging.take chunk)).Looked n node
        ∧ (s.feed.append (s.staging.take chunk)).opening = none
        ∧ (s.feed.append (s.staging.take chunk)).session ≠ 0 := by
      unfold Feed.append
      split <;> exact ⟨hlock, rfl, hknows.1.2.1, hknows.1.1.1.2, hknows.1.1.2⟩
    have haccepted : n = s.feed.stops → (s.feed.append (s.staging.take chunk)).accepted
        = (node.data.drop node.index).take chunk := by
      intro hstops
      unfold Feed.append
      rw [if_pos (hknows.1.2.1.2.2 hstops).1]
      exact hknows.2 hstops
    apply streamOutline_locked hlock
    . rw [hfeed]
      apply hs.inv.append hknows.1.1.1.1 hknows.1.2.1 hknows.1.2.2.1
      intro hstops
      have htake : s.staging.take chunk = (node.data.drop node.index).take chunk :=
        hknows.2 hstops
      rw [htake]
      exact List.take_prefix _ _
    . rw [hfeed]
      refine ⟨⟨hsame.1, hsame.2.2.2⟩, hsame.2.2.1, ?_⟩
      rw [hsame.2.1]
      exact haccepted
    . apply Or.inl
      show (s.append (s.staging.take chunk)).feed.lock = _
      rw [hfeed]
      exact hsame.1
    . show s.feed.stops = (s.append (s.staging.take chunk)).feed.stops
      rw [hfeed]
      exact hsame.2.1.symm
  forget := by
    intro n node chunk s hs
    have hknows : s.feed.Accepted .feeder n node chunk := hs.knows
    apply streamOutline_locked hknows.1.1
    . exact hs.inv.forget
    . exact ⟨hknows, rfl⟩
    . exact .inl hknows.1.1
    . rfl
  account := by
    intro n node gen chunk hgen hchunk s hs hchecks
    have hknows : s.feed.Accepted .feeder n node chunk ∧ s.feed.staged = none := hs.knows
    have hlock := hknows.1.1.1
    refine ⟨trivial, ?_⟩
    dsimp only
    split
    . next heq =>
      have hstops : n = s.feed.stops := (hchecks heq).symm
      have hchunk' : chunk = min (node.size - node.index) length := hchunk
      apply streamOutline_locked hlock
      . apply hs.inv.account hknows.1 hstops hknows.2
        omega
      . exact ⟨⟨⟨hlock, fun _ => rfl⟩, hknows.1.1.2.1⟩, hknows.1.1.2.2⟩
      . exact .inl hlock
      . rfl
    . next hne =>
      -- the list has been drained, and the session is not fed any more
      have hfresh : s.feed.log.fresh ≠ true := by
        intro hfresh
        apply hne
        have hstops := hknows.1.2.1.2.1 hfresh
        have hgen' : s.listGen = UInt32.ofNat s.feed.stops := hs.inv.gen
        rw [hgen', ← hstops]
        exact hgen.symm
      apply streamOutline_frame hs rfl
      exact ⟨⟨⟨hlock, fun h => absurd h hfresh⟩, hknows.1.1.2.1⟩, hknows.1.1.2.2⟩

theorem sound_streamOutline
    : (streamOutline length).Sound where
  calls := calls_streamOutline
  play := play_streamOutline
  stop := stop_streamOutline
  feeder := feeder_streamOutline
  refl := by
    intro t s
    exact Feed.Guar.refl
  trans := by
    intro t s s' s'' h h'
    exact Feed.Guar.trans h h'
  stable := by
    intro t u p s s' hu hguar _ hknows
    exact Feed.Guar.stable hguar hu hknows
  core_inv := by
    intro s
    rfl
  core_knows := by
    intro t p s
    rfl
  core_guar := by
    intro t s s'
    rfl

end

section Runs

variable {stagingLength : Nat} {result : StreamResult} {capped : Bool}

theorem streamOutline_init (t : MhiTask)
    : (streamOutline stagingLength).Here t .free (.init stagingLength result capped) := by
  refine ⟨by simp [streamOutline, Feed.knows, MhiPlayer.feed, MhiPlayer.init], ?_⟩
  constructor
  . rfl
  . rfl
  . rfl
  . exact FedInOrder.nil
  . trivial
  . intro h
    contradiction
  . intro h
    contradiction
  . intro h
    contradiction
  . intro h
    contradiction
  . intro _
    refine ⟨rfl, ?_⟩
    intro node hmem
    contradiction
  . intro _
    exact List.nil_prefix
  . intro _
    exact Nat.zero_le _
  . intro h
    contradiction
  . intro h
    contradiction
  . intro _ _
    rfl
  . exact Nat.le_refl _
  . intro k hk
    contradiction
  . intro k hk
    contradiction

variable {st : mhiPool.State} {as : List (Pool.Action MhiTask MhiCall MhiAnswer)}
  {marks : Trace MhiPlayer MhiMark}

/--
The input of a session is made of the buffers that were queued since the list was drained last, in
order and each byte once, with at most one chunk after the list is drained. The buffers are given
back in order, each once, and what is marked as played has been appended and consumed or drained.
-/
theorem stream_run
    (hrun : mhiPool.run (.start mhiPool (.init stagingLength result capped)) as = some (marks, st))
    (hfeeds : ∀ m ∈ marks, mhiFeeds m.1 m.2)
    : (st.shared.ghost.stream.fresh = true →
        st.shared.ghost.stream.input.IsPrefix (st.shared.ghost.queued.map Prod.snd).flatten
          ∧ st.shared.ghost.stream.late = []
          ∧ (st.shared.ghost.returned.map Prod.snd).flatten.IsPrefix
              st.shared.ghost.stream.input)
      ∧ (st.shared.ghost.stream.fresh = false →
        st.shared.ghost.stream.input.IsPrefix st.shared.ghost.stream.basis.flatten
          ∧ st.shared.ghost.stream.late.length ≤ 1
          ∧ st.shared.ghost.returned = [])
      ∧ st.shared.ghost.queued
          = st.shared.ghost.returned ++ st.shared.bufferList.map ListNode.entry
      ∧ ∀ m ∈ marks, ∀ drainAll, m.1 = .complete drainAll → m.2.feed.Completes drainAll := by
  have hend := sound_streamOutline.run streamOutline_init hrun hfeeds
  have hintact : st.shared.feed.Intact stagingLength := hend.2.1
  refine ⟨?_, ?_, hintact.queue, ?_⟩
  . intro hfresh
    refine ⟨hintact.input_prefix hfresh, hintact.notLate hfresh, ?_⟩
    have hinput : st.shared.ghost.stream.input = _ := hintact.input hfresh
    rw [hinput, Feed.knownBytes, List.append_assoc]
    exact List.prefix_append _ _
  . intro hfresh
    exact ⟨hintact.basis hfresh, hintact.late hfresh, (hintact.blank hfresh).1⟩
  . intro m hm drainAll hcomplete
    have := hend.1 m hm
    rw [hcomplete] at this
    exact this

/-- A buffer is queued, fed and given back. -/
def returnedRun : List (Pool.Action MhiTask MhiCall MhiAnswer) :=
  MhiCall.play.sections (.app 0) 26 (drainedAnswer .ok 0)
    ++ (MhiCall.queueBuffer 9 [1]).sections (.app 0) 1 (drainedAnswer .ok 7)
    ++ (MhiCall.iteration 4).sections .feeder 43
      { drainedAnswer .ok 0 with result.bytesConsumed := 1 }
    ++ MhiCall.getEmpty.sections (.app 0) 1 (drainedAnswer .ok 0)

/-- A buffer of two chunks is queued behind a stop, before the feeder looks at the list again. -/
def staleRun : List (Pool.Action MhiTask MhiCall MhiAnswer) :=
  MhiCall.play.sections (.app 0) 26 (drainedAnswer .ok 0)
    ++ (MhiCall.queueBuffer 9 [1]).sections (.app 0) 1 (drainedAnswer .ok 7)
    ++ (MhiCall.iteration 4).sections .feeder 17 (drainedAnswer .ok 0)
    ++ MhiCall.stop.sections (.app 0) 1 (drainedAnswer .ok 0)
    ++ (MhiCall.queueBuffer 9 [2, 3]).sections (.app 1) 1 (drainedAnswer .ok 8)
    ++ List.replicate 35 (.resume .feeder [drainedAnswer .ok 0])

theorem stream_run_returned
    : ∃ marks st,
        mhiPool.run (.start mhiPool (.init 1 (drainedAnswer .ok 0).result false)) returnedRun
            = some (marks, st)
          ∧ st.shared.ghost.returned = [(9, [1])]
          ∧ [1].IsPrefix st.shared.ghost.stream.input := by
  have heval : (mhiPool.run (.start mhiPool (.init 1 (drainedAnswer .ok 0).result false))
      returnedRun).any (fun r => r.2.shared.ghost.stream.fresh
        && r.2.shared.ghost.returned == [(9, [1])]
        && r.1.all fun m => decide (mhiFeeds m.1 m.2)) = true := by
    decide +kernel
  rw [Option.any_eq_true] at heval
  obtain ⟨⟨marks, st⟩, hrun, heval⟩ := heval
  simp only [Bool.and_eq_true, beq_iff_eq, List.all_eq_true, decide_eq_true_eq] at heval
  obtain ⟨⟨hfresh, hreturned⟩, hfeeds⟩ := heval
  have hend := stream_run hrun hfeeds
  have hprefix := (hend.1 hfresh).2.2
  rw [hreturned] at hprefix
  exact ⟨marks, st, hrun, hreturned, hprefix⟩

theorem stream_stale
    : ¬ ∀ (stagingLength : Nat) (result : StreamResult) (capped : Bool)
          (as : List (Pool.Action MhiTask MhiCall MhiAnswer)) (marks : Trace MhiPlayer MhiMark)
          (st : mhiPool.State),
        mhiPool.run (.start mhiPool (.init stagingLength result capped)) as = some (marks, st) →
        st.shared.ghost.stream.late.length ≤ 1 := by
  intro h
  have heval : (mhiPool.run (.start mhiPool (.init 1 (drainedAnswer .ok 0).result false))
      staleRun).any (fun r => r.2.shared.ghost.stream.late == [[2], [3]]) = true := by
    decide +kernel
  rw [Option.any_eq_true] at heval
  obtain ⟨⟨marks, st⟩, hrun, heval⟩ := heval
  have hle := h _ _ _ _ _ _ hrun
  rw [beq_iff_eq] at heval
  rw [heval] at hle
  exact absurd hle (by decide)

end Runs

end ZZMhi
