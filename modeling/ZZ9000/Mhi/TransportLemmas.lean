import ZZ9000.Mhi.Outline

/-!
This module contains the safety of the transport: what the status says about the session, and what a
stop leaves behind.
-/

namespace ZZMhi

open Concurrency

/-- What the transport of the player consists of. `begun` is the session that the result names. -/
structure Transport where
  status : MhiStatus
  session : UInt32
  begun : UInt32
  gen : UInt32
  lock : Option MhiTask
  stops : Nat
  closing : MhiTask → Bool
  opening : Option Nat
  halted : Bool

def MhiPlayer.transport (s : MhiPlayer) : Transport where
  status := s.status
  session := s.session
  begun := s.result.session
  gen := s.transportGen
  lock := s.ioLock
  stops := s.ghost.stops
  closing := s.ghost.closing
  opening := s.ghost.opening
  halted := s.ghost.halted

namespace Transport

/-- Nobody is about to close the session. -/
def Calm (s : Transport) : Prop := ∀ t, s.closing t = false

/-- An `MHIPlay` that began before the last stop is opening a session. -/
def Outdated (s : Transport) : Prop := ∃ n, s.opening = some n ∧ n < s.stops

structure Safe (s : Transport) : Prop where
  active : s.status ≠ .stopped → s.session ≠ 0 ∧ s.Calm
  gen : s.gen = UInt32.ofNat s.stops
  opening_lock : s.opening ≠ none → s.lock ≠ none
  opening_le : ∀ n, s.opening = some n → n ≤ s.stops
  outdated : s.Outdated → s.status = .stopped
  current : s.opening = some s.stops → s.Calm ∧ s.halted = false
  /-- What a stop leaves behind until somebody has closed the session. -/
  halted : s.halted = true →
    s.status = .stopped ∧ (s.session = 0 ∨ (∃ t, s.closing t = true) ∨ s.Outdated)

/-- The task has `io_lock` to open a session. -/
def Opening (t : MhiTask) (n : Nat) (s : Transport) : Prop :=
  s.closing t = false ∧ s.lock = some t ∧ s.opening = some n

/-- The task has `io_lock` for something else. -/
def Holds (t : MhiTask) (s : Transport) : Prop :=
  s.lock = some t ∧ s.opening = none

/-- What an `MHIPlay` relies on that was called after so many stops. -/
def Called (entry : Nat) (s : Transport) : Prop :=
  entry ≤ s.stops ∧ (s.stops = entry → s.halted = false)

def knows (t : MhiTask) (p : MhiPoint) (s : Transport) : Prop :=
  match p with
  | .free => s.closing t = false ∧ s.lock ≠ some t
  | .called entry => (s.closing t = false ∧ s.lock ≠ some t) ∧ s.Called entry
  | .reading entry => (s.closing t = false ∧ s.Holds t) ∧ s.Called entry
  | .entered n => s.Opening t n
  | .opening n => s.Opening t n ∧ s.session = 0
  | .begun n => s.Opening t n ∧ s.session = 0 ∧ s.begun ≠ 0
  | .counting n => s.Opening t n ∧ s.session ≠ 0
  | .opened n => s.Opening t n ∧ s.session ≠ 0
  | .cancelling n => s.Opening t n ∧ n < s.stops
  | .cancelled n => s.Opening t n ∧ n < s.stops ∧ s.session = 0
  | .stopping => s.closing t = true ∧ s.lock ≠ some t
  | .closing => s.closing t = true ∧ s.Holds t
  | .closed => s.closing t = true ∧ s.Holds t ∧ s.session = 0
  | .locked => s.closing t = false ∧ s.Holds t
  | .serving => s.closing t = false ∧ s.Holds t
  | .feeding _ _ => s.closing t = false ∧ s.Holds t
  | .copying _ _ _ => s.closing t = false ∧ s.Holds t
  | .staged _ _ _ => s.closing t = false ∧ s.Holds t
  | .accepted _ _ _ => s.closing t = false ∧ s.Holds t
  | .forgotten _ _ _ => s.closing t = false ∧ s.Holds t
  | .drained => s.closing t = false ∧ s.Holds t

/-- How a task may change the transport. -/
structure Guar (t : MhiTask) (s s' : Transport) : Prop where
  held : ∀ u, u ≠ t → s.lock = some u →
    s'.lock = some u ∧ s'.session = s.session ∧ s'.begun = s.begun ∧ s'.opening = s.opening
  free : ∀ u, u ≠ t → s'.lock = some u → s.lock = some u
  stops : s.stops ≤ s'.stops
  closing : ∀ u, u ≠ t → s'.closing u = s.closing u
  halted : s'.stops = s.stops → s.halted = false → s'.halted = false

theorem Guar.of_eq {t : MhiTask} {s s' : Transport} (hlock : s'.lock = s.lock)
    (hsession : s'.session = s.session) (hbegun : s'.begun = s.begun)
    (hopening : s'.opening = s.opening) (hstops : s'.stops = s.stops)
    (hclosing : s'.closing = s.closing) (hhalted : s'.halted = s.halted)
    : Guar t s s' where
  held := by
    intro u _ h
    rw [hlock]
    exact ⟨h, hsession, hbegun, hopening⟩
  free := by
    intro u _ h
    rwa [hlock] at h
  stops := Nat.le_of_eq hstops.symm
  closing := by
    intro u _
    rw [hclosing]
  halted := by
    intro _ h
    rwa [hhalted]

theorem Guar.refl {t : MhiTask} {s : Transport}
    : Guar t s s := by
  exact Guar.of_eq rfl rfl rfl rfl rfl rfl rfl

theorem Guar.trans {t : MhiTask} {s s' s'' : Transport} (h : Guar t s s') (h' : Guar t s' s'')
    : Guar t s s'' where
  held := by
    intro u hu hlock
    have h₁ := h.held u hu hlock
    have h₂ := h'.held u hu h₁.1
    rw [h₂.2.1, h₂.2.2.1, h₂.2.2.2]
    exact ⟨h₂.1, h₁.2⟩
  free := by
    intro u hu hlock
    exact h.free u hu (h'.free u hu hlock)
  stops := Nat.le_trans h.stops h'.stops
  closing := by
    intro u hu
    rw [h'.closing u hu, h.closing u hu]
  halted := by
    intro hstops hhalted
    have := h.stops
    have := h'.stops
    apply h'.halted (by omega)
    exact h.halted (by omega) hhalted

variable {t u : MhiTask} {s s' : Transport} {n : Nat}

theorem Guar.free_stable (h : Guar u s s') (hu : t ≠ u)
    (hs : s.closing t = false ∧ s.lock ≠ some t)
    : s'.closing t = false ∧ s'.lock ≠ some t := by
  constructor
  . rw [h.closing t hu]
    exact hs.1
  . intro hlock
    exact hs.2 (h.free t hu hlock)

theorem Guar.holds_stable (h : Guar u s s') (hu : t ≠ u) (hs : s.Holds t)
    : s'.Holds t ∧ s'.session = s.session ∧ s'.begun = s.begun := by
  have := h.held t hu hs.1
  refine ⟨⟨this.1, ?_⟩, this.2.1, this.2.2.1⟩
  rw [this.2.2.2]
  exact hs.2

theorem Guar.opening_stable (h : Guar u s s') (hu : t ≠ u) (hs : s.Opening t n)
    : s'.Opening t n ∧ s'.session = s.session ∧ s'.begun = s.begun := by
  have := h.held t hu hs.2.1
  refine ⟨⟨?_, this.1, ?_⟩, this.2.1, this.2.2.1⟩
  . rw [h.closing t hu]
    exact hs.1
  . rw [this.2.2.2]
    exact hs.2.2

theorem Guar.called_stable (h : Guar u s s') (hs : s.Called n)
    : s'.Called n := by
  have := h.stops
  have := hs.1
  constructor
  . omega
  . intro hstops
    exact h.halted (by omega) (hs.2 (by omega))

/-- What a task knows does not depend on the steps of the others. -/
theorem Guar.stable (h : Guar u s s') (hu : t ≠ u) {p : MhiPoint} (hs : s.knows t p)
    : s'.knows t p := by
  have hheld (hs : s.closing t = false ∧ s.Holds t) : s'.closing t = false ∧ s'.Holds t := by
    rw [h.closing t hu]
    exact ⟨hs.1, (h.holds_stable hu hs.2).1⟩
  cases p with
  | free => exact h.free_stable hu hs
  | called entry => exact ⟨h.free_stable hu hs.1, h.called_stable hs.2⟩
  | reading entry => exact ⟨hheld hs.1, h.called_stable hs.2⟩
  | entered n => exact (h.opening_stable hu hs).1
  | opening n =>
    have := h.opening_stable hu hs.1
    exact ⟨this.1, by rw [this.2.1, hs.2]⟩
  | begun n =>
    have := h.opening_stable hu hs.1
    exact ⟨this.1, by rw [this.2.1, hs.2.1], by rw [this.2.2]; exact hs.2.2⟩
  | counting n =>
    have := h.opening_stable hu hs.1
    exact ⟨this.1, by rw [this.2.1]; exact hs.2⟩
  | opened n =>
    have := h.opening_stable hu hs.1
    exact ⟨this.1, by rw [this.2.1]; exact hs.2⟩
  | cancelling n => exact ⟨(h.opening_stable hu hs.1).1, Nat.lt_of_lt_of_le hs.2 h.stops⟩
  | cancelled n =>
    have := h.opening_stable hu hs.1
    exact ⟨this.1, Nat.lt_of_lt_of_le hs.2.1 h.stops, by rw [this.2.1, hs.2.2]⟩
  | stopping =>
    refine ⟨?_, ?_⟩
    . rw [h.closing t hu]
      exact hs.1
    . intro hlock
      exact hs.2 (h.free t hu hlock)
  | closing =>
    rw [knows, h.closing t hu]
    exact ⟨hs.1, (h.holds_stable hu hs.2).1⟩
  | closed =>
    have := h.holds_stable hu hs.2.1
    rw [knows, h.closing t hu]
    exact ⟨hs.1, this.1, by rw [this.2.1, hs.2.2]⟩
  | locked => exact hheld hs
  | serving => exact hheld hs
  | feeding _ _ => exact hheld hs
  | copying _ _ _ => exact hheld hs
  | staged _ _ _ => exact hheld hs
  | accepted _ _ _ => exact hheld hs
  | forgotten _ _ _ => exact hheld hs
  | drained => exact hheld hs

/-- A stream that is not stopped may get any status: nobody is closing it. -/
theorem Safe.status (h : s.Safe) (hactive : s.status ≠ .stopped) (status : MhiStatus)
    : ({ s with status := status } : Transport).Safe where
  active := by
    intro _
    exact h.active hactive
  gen := h.gen
  opening_lock := h.opening_lock
  opening_le := h.opening_le
  outdated := by
    intro hout
    exact absurd (h.outdated hout) hactive
  current := h.current
  halted := by
    intro hhalted
    exact absurd (h.halted hhalted).1 hactive

theorem Safe.result (h : s.Safe) (begun : UInt32)
    : ({ s with begun := begun } : Transport).Safe where
  active := h.active
  gen := h.gen
  opening_lock := h.opening_lock
  opening_le := h.opening_le
  outdated := h.outdated
  current := h.current
  halted := h.halted

/-- A lock that nobody has can be taken. -/
theorem Safe.take (h : s.Safe) (t : MhiTask)
    : ({ s with lock := some t } : Transport).Safe where
  active := h.active
  gen := h.gen
  opening_lock := by
    intro _ hlock
    contradiction
  opening_le := h.opening_le
  outdated := h.outdated
  current := h.current
  halted := h.halted

theorem Safe.opening_eq_none (h : s.Safe) (hlock : s.lock = none)
    : s.opening = none := by
  by_contra hopening
  exact h.opening_lock hopening hlock

/-- So can it be given back, unless the session is being opened. -/
theorem Safe.release (h : s.Safe) (hopening : s.opening = none)
    : ({ s with lock := none } : Transport).Safe where
  active := h.active
  gen := h.gen
  opening_lock := by
    intro hne
    contradiction
  opening_le := h.opening_le
  outdated := h.outdated
  current := h.current
  halted := h.halted

/-- The session may be given up where no active stream relies on it. -/
theorem Safe.close (h : s.Safe) (hstopped : s.status = .stopped)
    : ({ s with session := 0 } : Transport).Safe where
  active := by
    intro hactive
    contradiction
  gen := h.gen
  opening_lock := h.opening_lock
  opening_le := h.opening_le
  outdated := h.outdated
  current := h.current
  halted := by
    intro _
    exact ⟨hstopped, .inl rfl⟩

/-- An opening that has come to its end without a session. -/
theorem Safe.giveUp (h : s.Safe) (hsession : s.session = 0)
    : ({ s with lock := none, opening := none } : Transport).Safe where
  active := h.active
  gen := h.gen
  opening_lock := by
    intro hne
    contradiction
  opening_le := by
    intro n hn
    contradiction
  outdated := by
    intro ⟨n, hn, _⟩
    contradiction
  current := by
    intro hn
    contradiction
  halted := by
    intro hhalted
    exact ⟨(h.halted hhalted).1, .inl hsession⟩

/-- A session that is begun is not seen after a stop: the opening is outdated then. -/
theorem Safe.adopt (h : s.Safe) (hopening : s.opening = some n) (hsession : s.session = 0)
    : ({ s with session := s.begun } : Transport).Safe where
  active := by
    intro hactive
    exact absurd hsession (h.active hactive).1
  gen := h.gen
  opening_lock := h.opening_lock
  opening_le := h.opening_le
  outdated := h.outdated
  current := h.current
  halted := by
    intro hhalted
    refine ⟨(h.halted hhalted).1, .inr (.inr ⟨n, hopening, ?_⟩)⟩
    have hle := h.opening_le n hopening
    have hne : n ≠ s.stops := by
      intro heq
      rw [heq] at hopening
      have := (h.current hopening).2
      rw [hhalted] at this
      contradiction
    exact Nat.lt_of_le_of_ne hle hne

/-- A stream that was opened after all stops so far may be published. -/
theorem Safe.publish (h : s.Safe) (hopening : s.opening = some s.stops) (hsession : s.session ≠ 0)
    (status : MhiStatus)
    : ({ s with status := status, opening := none } : Transport).Safe where
  active := by
    intro _
    exact ⟨hsession, (h.current hopening).1⟩
  gen := h.gen
  opening_lock := by
    intro hne
    contradiction
  opening_le := by
    intro n hn
    contradiction
  outdated := by
    intro ⟨n, hn, _⟩
    contradiction
  current := by
    intro hn
    contradiction
  halted := by
    intro hhalted
    have : s.halted = true := hhalted
    rw [(h.current hopening).2] at this
    contradiction

/-- The generation is read while nobody is closing the session. -/
theorem Safe.enter (h : s.Safe) (hlock : s.lock ≠ none) (hcalm : s.Calm) (hhalted : s.halted = false)
    : ({ s with opening := some s.stops } : Transport).Safe where
  active := h.active
  gen := h.gen
  opening_lock := by
    intro _
    exact hlock
  opening_le := by
    intro n hn
    simp only [Option.some.injEq] at hn
    dsimp only
    omega
  outdated := by
    intro ⟨n, hn, hlt⟩
    simp only [Option.some.injEq] at hn
    dsimp only at hlt
    omega
  current := by
    intro _
    exact ⟨hcalm, hhalted⟩
  halted := by
    intro hne
    have : s.halted = true := hne
    rw [hhalted] at this
    contradiction

/-- A call of `MHIPlay` says nothing about the session. -/
theorem Safe.call (h : s.Safe)
    : ({ s with halted := false } : Transport).Safe where
  active := h.active
  gen := h.gen
  opening_lock := h.opening_lock
  opening_le := h.opening_le
  outdated := h.outdated
  current := by
    intro hn
    exact ⟨(h.current hn).1, rfl⟩
  halted := by
    intro hhalted
    contradiction

/-- The first section of `MHIStop`. -/
def flip (t : MhiTask) (s : Transport) : Transport :=
  { s with
    status := .stopped
    gen := s.gen + 1
    stops := s.stops + 1
    closing := if s.status = .stopped then s.closing else Function.update s.closing t true
    halted := true }

/-- It leaves a session only to somebody who will close it. -/
theorem Safe.flip (h : s.Safe) (t : MhiTask)
    (hstopped : s.status = .stopped →
      s.session = 0 ∨ (∃ t, s.closing t = true) ∨ s.opening ≠ none)
    : (s.flip t).Safe where
  active := by
    intro hactive
    contradiction
  gen := by
    dsimp only [Transport.flip]
    rw [h.gen, UInt32.ofNat_add]
    rfl
  opening_lock := h.opening_lock
  opening_le := by
    intro n hn
    have := h.opening_le n hn
    dsimp only [Transport.flip]
    omega
  outdated := by
    intro _
    rfl
  current := by
    intro hn
    have := h.opening_le _ hn
    dsimp only [Transport.flip] at this
    omega
  halted := by
    intro _
    refine ⟨rfl, ?_⟩
    by_cases hstatus : s.status = .stopped
    . cases hstopped hstatus with
      | inl hsession => exact .inl hsession
      | inr hrest =>
        apply Or.inr
        cases hrest with
        | inl hclosing =>
          apply Or.inl
          dsimp only [Transport.flip]
          rw [if_pos hstatus]
          exact hclosing
        | inr hopening =>
          apply Or.inr
          obtain ⟨n, hn⟩ := Option.ne_none_iff_exists'.mp hopening
          refine ⟨n, hn, ?_⟩
          have := h.opening_le n hn
          dsimp only [Transport.flip]
          omega
    . apply Or.inr
      apply Or.inl
      refine ⟨t, ?_⟩
      dsimp only [Transport.flip]
      rw [if_neg hstatus]
      exact Function.update_self t true s.closing

/-- The end of `MHIStop`: the session is gone. -/
theorem Safe.finish (h : s.Safe) (hclosing : s.closing t = true) (hsession : s.session = 0)
    (hopening : s.opening = none)
    : ({ s with lock := none, closing := Function.update s.closing t false } : Transport).Safe where
  active := by
    intro hactive
    have := (h.active hactive).2 t
    rw [hclosing] at this
    contradiction
  gen := h.gen
  opening_lock := by
    intro hne
    contradiction
  opening_le := h.opening_le
  outdated := h.outdated
  current := by
    intro hn
    have : s.opening = some s.stops := hn
    rw [hopening] at this
    contradiction
  halted := by
    intro hhalted
    exact ⟨(h.halted hhalted).1, .inl hsession⟩

end Transport

/--
Where the calls race with a stop: an `MHIPlay` reads the generation before another task changes the
status, nobody is closing the session then, and the generation does not come round while the session
is opened; a deferred bind is resumed while the stream is paused; an `MHIStop` that finds the stream
stopped finds no session, or somebody else who deals with it. A session of the firmware is not zero.
-/
def mhiSerial (m : MhiMark) (s : MhiPlayer) : Prop :=
  match m with
  | .playReads entry => s.ghost.stops = entry ∧ ∀ t, s.ghost.closing t = false
  | .playChecks stops gen => s.transportGen = gen → s.ghost.stops = stops
  | .rearm => s.status = .paused
  | .flip => s.status = .stopped →
      s.session = 0 ∨ (∃ t, s.ghost.closing t = true) ∨ s.ghost.opening ≠ none
  | .begun session => session ≠ 0
  | _ => True

def transportOutline : MhiOutline where
  knows := fun t p s => s.transport.knows t p
  inv := fun s => s.transport.Safe
  guar := fun t s s' => Transport.Guar t s.transport s'.transport
  assume := mhiSerial
  assert := fun _ _ => True
  gen := fun stops gen => gen = UInt32.ofNat stops
  listGen := fun _ _ => True
  chunk := fun _ _ => True

section

variable {t : MhiTask} {p q : MhiPoint} {s s' : MhiPlayer}

/-- Stores to the rest of the player. -/
theorem transportOutline_frame (h : transportOutline.Here t p s)
    (heq : s'.transport = s.transport) (hq : s.transport.knows t q)
    : transportOutline.Moves t q s s' where
  guar := by
    show Transport.Guar t s.transport s'.transport
    rw [heq]
    exact Transport.Guar.refl
  here := by
    constructor
    . show s'.transport.knows t q
      rw [heq]
      exact hq
    . show s'.transport.Safe
      rw [heq]
      exact h.inv

theorem transportOutline_same (h : transportOutline.Here t p s) (heq : s'.transport = s.transport)
    : transportOutline.Moves t p s s' :=
  transportOutline_frame h heq h.knows

/-- The status of a stream that is not stopped. -/
theorem transportOutline_status (h : transportOutline.Here t p s) {status : MhiStatus}
    (heq : s'.transport = { s.transport with status := status }) (hactive : s.status ≠ .stopped)
    : transportOutline.Moves t p s s' where
  guar := by
    show Transport.Guar t s.transport s'.transport
    rw [heq]
    exact Transport.Guar.of_eq rfl rfl rfl rfl rfl rfl rfl
  here := by
    constructor
    . show s'.transport.knows t p
      rw [heq]
      have hknows := h.knows
      cases p <;> exact hknows
    . show s'.transport.Safe
      rw [heq]
      exact h.inv.status hactive status

/-- A task that has `io_lock` may change what the lock guards. -/
theorem transportOutline_locked (hlock : s.ioLock = some t) (hsafe : s'.transport.Safe)
    (hknows : s'.transport.knows t q) (hlock' : s'.ioLock = some t ∨ s'.ioLock = none)
    (hstops : s'.ghost.stops = s.ghost.stops)
    (hclosing : ∀ u, u ≠ t → s'.ghost.closing u = s.ghost.closing u)
    (hhalted : s'.ghost.halted = s.ghost.halted)
    : transportOutline.Moves t q s s' where
  guar := by
    constructor
    . intro u hu hother
      have : s.ioLock = some u := hother
      rw [hlock] at this
      exact absurd (Option.some.inj this).symm hu
    . intro u hu hother
      have : s'.ioLock = some u := hother
      cases hlock' with
      | inl hlock' =>
        rw [hlock'] at this
        exact absurd (Option.some.inj this).symm hu
      | inr hlock' =>
        rw [hlock'] at this
        contradiction
    . exact Nat.le_of_eq hstops.symm
    . exact hclosing
    . intro _ hnot
      show s'.ghost.halted = false
      rw [hhalted]
      exact hnot
  here := ⟨hknows, hsafe⟩

/-- A task takes `io_lock`. -/
theorem transportOutline_take (h : transportOutline.Here t p s) (hlock : s.ioLock = none)
    (hknows : s.transport.opening = none →
      ({ s.transport with lock := some t } : Transport).knows t q)
    : transportOutline.Moves t q s { s with ioLock := some t } where
  guar := by
    constructor
    . intro u _ hother
      have : s.ioLock = some u := hother
      rw [hlock] at this
      contradiction
    . intro u hu hother
      exact absurd (Option.some.inj hother).symm hu
    . exact Nat.le_refl _
    . intro u _
      rfl
    . intro _ hnot
      exact hnot
  here := ⟨hknows (h.inv.opening_eq_none hlock), h.inv.take t⟩

/-- What a task with `io_lock` may do that does not open a session. -/
theorem tolerant_transportOutline
    (hp : ∀ s, Transport.knows t p s ↔ s.closing t = false ∧ s.Holds t)
    : transportOutline.Tolerant t p where
  result := by
    intro r s hs
    have hknows := (hp s.transport).mp hs.knows
    apply transportOutline_locked hknows.2.1
    . exact hs.inv.result r.session
    . exact (hp _).mpr hknows
    . exact .inl hknows.2.1
    . rfl
    . intro u _
      rfl
    . rfl
  complete := by
    intro s hs _
    exact ⟨trivial, transportOutline_same hs rfl⟩

theorem calls_transportOutline
    : transportOutline.SoundCalls where
  take := by
    intro t s hs hlock
    apply transportOutline_take hs hlock
    intro hopening
    exact ⟨hs.knows.1, rfl, hopening⟩
  release := by
    intro t s hs
    have hknows : s.transport.closing t = false ∧ s.transport.Holds t := hs.knows
    apply transportOutline_locked hknows.2.1
    . exact hs.inv.release hknows.2.2
    . exact ⟨hknows.1, by simp [MhiPlayer.transport]⟩
    . exact .inr rfl
    . rfl
    . intro u _
      rfl
    . rfl
  locked := by
    intro t
    apply tolerant_transportOutline
    intro s
    rfl
  reenter := by
    intro t s hs _
    unfold MhiPlayer.reenter
    split
    . next hstatus => exact transportOutline_status hs rfl (by simp [hstatus])
    . exact transportOutline_same hs rfl
  restore := by
    intro t s hs hstatus _
    exact ⟨trivial, transportOutline_status hs rfl (by simp [hstatus])⟩
  resumed := by
    intro t s hs
    unfold MhiPlayer.resumed
    split
    . next hstatus => exact transportOutline_status hs rfl (by simp [hstatus])
    . exact transportOutline_same hs rfl
  rearm := by
    intro t s hs hrearm
    have hstatus : s.status = .paused := hrearm
    exact ⟨trivial, transportOutline_status hs rfl (by simp [hstatus])⟩
  pause := by
    intro t s hs
    unfold MhiPlayer.pause
    split
    . next hstatus => exact transportOutline_status hs rfl (by simp [hstatus])
    . exact transportOutline_same hs rfl
    . exact transportOutline_same hs rfl
  remHead := by
    intro t s hs
    apply transportOutline_same hs
    unfold MhiPlayer.remHead
    split
    . rfl
    . split <;> rfl
  addTail := by
    intro t s ptr buffer data hs _ _
    refine ⟨?_, trivial⟩
    by_cases hstatus : s.status = .outOfData
    . have heq : (s.addTail ptr buffer data).transport
          = { s.transport with status := .playing } := by
        simp [MhiPlayer.transport, MhiPlayer.addTail, hstatus]
      apply transportOutline_status hs heq
      simp [hstatus]
    . apply transportOutline_same hs
      simp [MhiPlayer.transport, MhiPlayer.addTail, hstatus]

theorem play_transportOutline
    : transportOutline.SoundPlay where
  call := by
    intro t s hs
    constructor
    . constructor
      . intro u _ hlock
        exact ⟨hlock, rfl, rfl, rfl⟩
      . intro u _ hlock
        exact hlock
      . exact Nat.le_refl _
      . intro u _
        rfl
      . intro _ _
        rfl
    . constructor
      . refine ⟨hs.knows, Nat.le_refl _, ?_⟩
        intro _
        rfl
      . exact hs.inv.call
  free_of_called := by
    intro t e s hs
    exact ⟨hs.knows.1, hs.inv⟩
  take := by
    intro t e s hs hlock
    apply transportOutline_take hs hlock
    intro hopening
    exact ⟨⟨hs.knows.1.1, rfl, hopening⟩, hs.knows.2⟩
  gen := by
    intro s hs
    exact hs.gen
  read := by
    intro t e s hs hread
    obtain ⟨⟨hclosing, hlock, hopening⟩, hcalled⟩ := hs.knows
    have hlock' : s.ioLock = some t := hlock
    refine ⟨trivial, ?_⟩
    apply transportOutline_locked hlock'
    . apply hs.inv.enter
      . rw [hlock]
        simp
      . exact hread.2
      . exact hcalled.2 hread.1
    . exact ⟨hclosing, hlock, rfl⟩
    . exact .inl hlock'
    . rfl
    . intro u _
      rfl
    . rfl
  exists_session := by
    intro t n s hs hsession
    exact ⟨⟨hs.knows, hsession⟩, hs.inv⟩
  no_session := by
    intro t n s hs hsession
    exact ⟨⟨hs.knows, hsession⟩, hs.inv⟩
  result := by
    intro t n r s hs
    have hknows : s.transport.Opening t n ∧ s.transport.session = 0 := hs.knows
    apply transportOutline_locked hknows.1.2.1
    . exact hs.inv.result r.session
    . exact hknows
    . exact .inl hknows.1.2.1
    . rfl
    . intro u _
      rfl
    . rfl
  fail := by
    intro t n s hs
    have hknows : s.transport.Opening t n ∧ s.transport.session = 0 := hs.knows
    apply transportOutline_locked hknows.1.2.1
    . exact hs.inv.giveUp hknows.2
    . exact ⟨hknows.1.1, by simp [MhiPlayer.transport]⟩
    . exact .inr rfl
    . rfl
    . intro u _
      rfl
    . rfl
  begun := by
    intro t n s hs hbegun
    refine ⟨trivial, ?_⟩
    apply transportOutline_frame hs
    . rfl
    . exact ⟨hs.knows.1, hs.knows.2, hbegun⟩
  session := by
    intro t n s hs
    have hknows : s.transport.Opening t n ∧ s.transport.session = 0 ∧ s.transport.begun ≠ 0 :=
      hs.knows
    apply transportOutline_locked hknows.1.2.1
    . exact hs.inv.adopt hknows.1.2.2 hknows.2.1
    . exact ⟨hknows.1, hknows.2.2⟩
    . exact .inl hknows.1.2.1
    . rfl
    . intro u _
      rfl
    . rfl
  count := by
    intro t n s hs
    apply transportOutline_frame hs
    . rfl
    . exact hs.knows
  check := by
    intro t n g s _ _ _
    trivial
  cancel := by
    intro t n g s hs hgen hne
    have hknows : s.transport.Opening t n ∧ s.transport.session ≠ 0 := hs.knows
    refine ⟨⟨hknows.1, ?_⟩, hs.inv⟩
    have hle := hs.inv.opening_le n hknows.1.2.2
    have hne' : n ≠ s.transport.stops := by
      intro heq
      apply hne
      have htransport : s.transportGen = UInt32.ofNat s.transport.stops := hs.inv.gen
      rw [htransport, ← heq]
      exact hgen.symm
    exact Nat.lt_of_le_of_ne hle hne'
  cancelled := by
    intro t n
    constructor
    . intro s hs hsession
      exact ⟨⟨hs.knows.1, hs.knows.2, hsession⟩, hs.inv⟩
    . intro s hs
      have hknows : s.transport.Opening t n ∧ n < s.transport.stops := hs.knows
      apply transportOutline_locked hknows.1.2.1
      . apply hs.inv.close
        exact hs.inv.outdated ⟨n, hknows.1.2.2, hknows.2⟩
      . exact ⟨hknows.1, hknows.2, rfl⟩
      . exact .inl hknows.1.2.1
      . rfl
      . intro u _
        rfl
      . rfl
    . intro s hs
      exact transportOutline_same hs rfl
    . intro s hs
      exact transportOutline_same hs rfl
  cancel_end := by
    intro t n s hs
    have hknows : s.transport.Opening t n ∧ n < s.transport.stops ∧ s.transport.session = 0 :=
      hs.knows
    apply transportOutline_locked hknows.1.2.1
    . exact hs.inv.giveUp hknows.2.2
    . exact ⟨hknows.1.1, by simp [MhiPlayer.transport]⟩
    . exact .inr rfl
    . rfl
    . intro u _
      rfl
    . rfl
  publish := by
    intro t n g s status hs _ hchecks hgen hstatus
    have hknows : s.transport.Opening t n ∧ s.transport.session ≠ 0 := hs.knows
    have hstops : s.ghost.stops = n := hchecks hgen
    apply transportOutline_locked hknows.1.2.1
    . apply hs.inv.publish
      . rw [hknows.1.2.2]
        exact congrArg some hstops.symm
      . exact hknows.2
    . exact ⟨hknows.1.1, hknows.1.2.1, rfl⟩
    . exact .inl hknows.1.2.1
    . rfl
    . intro u _
      rfl
    . rfl

theorem stop_transportOutline
    : transportOutline.SoundStop where
  flip := by
    intro t s hs hflip
    have hknows : s.transport.closing t = false ∧ s.transport.lock ≠ some t := hs.knows
    refine ⟨trivial, ?_⟩
    constructor
    . constructor
      . intro u _ hlock
        exact ⟨hlock, rfl, rfl, rfl⟩
      . intro u _ hlock
        exact hlock
      . exact Nat.le_succ _
      . intro u hu
        show (if s.status = .stopped then s.ghost.closing else
          Function.update s.ghost.closing t true) u = _
        split
        . rfl
        . exact Function.update_of_ne hu _ _
      . intro hstops
        exact absurd hstops (Nat.succ_ne_self _)
    . constructor
      . show (s.flip t).transport.knows t _
        split
        . next hstatus =>
          refine ⟨?_, hknows.2⟩
          show (if s.status = .stopped then s.ghost.closing else
            Function.update s.ghost.closing t true) t = _
          rw [if_pos hstatus]
          exact hknows.1
        . next hstatus =>
          refine ⟨?_, hknows.2⟩
          show (if s.status = .stopped then s.ghost.closing else
            Function.update s.ghost.closing t true) t = _
          rw [if_neg hstatus]
          exact Function.update_self t true s.ghost.closing
      . exact hs.inv.flip t hflip
  take := by
    intro t s hs hlock
    apply transportOutline_take hs hlock
    intro hopening
    exact ⟨hs.knows.1, rfl, hopening⟩
  closes := by
    intro t
    constructor
    . intro s hs hsession
      exact ⟨⟨hs.knows.1, hs.knows.2, hsession⟩, hs.inv⟩
    . intro s hs
      have hknows : s.transport.closing t = true ∧ s.transport.Holds t := hs.knows
      apply transportOutline_locked hknows.2.1
      . apply hs.inv.close
        by_contra hactive
        have := (hs.inv.active hactive).2 t
        rw [hknows.1] at this
        contradiction
      . exact ⟨hknows.1, hknows.2, rfl⟩
      . exact .inl hknows.2.1
      . rfl
      . intro u _
        rfl
      . rfl
    . intro s hs
      exact transportOutline_same hs rfl
    . intro s hs
      exact transportOutline_same hs rfl
  finish := by
    intro t s hs
    have hknows : s.transport.closing t = true ∧ s.transport.Holds t ∧ s.transport.session = 0 :=
      hs.knows
    apply transportOutline_locked hknows.2.1.1
    . exact hs.inv.finish hknows.1 hknows.2.2 hknows.2.1.2
    . refine ⟨?_, by simp [MhiPlayer.transport]⟩
      exact Function.update_self t false s.ghost.closing
    . exact .inr rfl
    . rfl
    . intro u hu
      exact Function.update_of_ne hu _ _
    . rfl

theorem feeder_transportOutline
    : transportOutline.SoundFeeder where
  serve := by
    intro s hs _
    exact ⟨hs.knows, hs.inv⟩
  served := by
    intro s hs
    exact ⟨hs.knows, hs.inv⟩
  serving := by
    apply tolerant_transportOutline
    intro s
    rfl
  outOfData := by
    intro s hs
    unfold MhiPlayer.outOfData
    split
    . next hdry => exact transportOutline_status hs rfl (by simp [hdry.1])
    . exact transportOutline_same hs rfl
  statusFailed := by
    intro s hs
    unfold MhiPlayer.statusFailed
    split
    . next hstatus => exact transportOutline_status hs rfl (by simp [hstatus])
    . exact transportOutline_same hs rfl
  drained := by
    intro s hs _
    exact ⟨hs.knows, hs.inv⟩
  drain := by
    intro s hs _
    exact ⟨trivial, transportOutline_frame hs rfl hs.knows⟩
  gen := by
    intro s _
    trivial
  chunk := by
    intro s node _
    trivial
  scan := by
    intro s hs
    exact transportOutline_same hs rfl
  find := by
    intro s node hs _ _
    exact ⟨trivial, hs.knows, hs.inv⟩
  hit := by
    intro n node gen chunk s hs _ _ _ _
    exact ⟨trivial, hs.knows, hs.inv⟩
  miss := by
    intro n node gen chunk s hs _ _ _
    exact ⟨hs.knows, hs.inv⟩
  copy_failed := by
    intro n node chunk s hs
    exact ⟨hs.knows, hs.inv⟩
  copy := by
    intro n node chunk bytes s hs
    exact transportOutline_frame hs rfl hs.knows
  memo := by
    intro n node gen chunk _ _ s hs
    exact transportOutline_same hs rfl
  feed_result := by
    intro n node chunk r s hs
    have hknows : s.transport.closing .feeder = false ∧ s.transport.Holds .feeder := hs.knows
    apply transportOutline_locked hknows.2.1
    . exact hs.inv.result r.session
    . exact hknows
    . exact .inl hknows.2.1
    . rfl
    . intro u _
      rfl
    . rfl
  feed_failed := by
    intro n node chunk s hs
    exact ⟨hs.knows, hs.inv⟩
  append := by
    intro n node chunk _ s hs
    dsimp only [MhiPlayer.append]
    split <;> exact transportOutline_frame hs rfl hs.knows
  forget := by
    intro n node chunk s hs
    exact transportOutline_frame hs rfl hs.knows
  account := by
    intro n node gen chunk _ _ s hs _
    refine ⟨trivial, ?_⟩
    dsimp only
    split
    . exact transportOutline_frame hs rfl hs.knows
    . exact transportOutline_frame hs rfl hs.knows

theorem sound_transportOutline
    : transportOutline.Sound where
  calls := calls_transportOutline
  play := play_transportOutline
  stop := stop_transportOutline
  feeder := feeder_transportOutline
  refl := by
    intro t s
    exact Transport.Guar.refl
  trans := by
    intro t s s' s'' h h'
    exact Transport.Guar.trans h h'
  stable := by
    intro t u p s s' hu hguar _ hknows
    exact Transport.Guar.stable hguar hu hknows
  core_inv := by
    intro s
    rfl
  core_knows := by
    intro t p s
    rfl
  core_guar := by
    intro t s s'
    rfl

end

section Runs

variable {stagingLength : Nat} {result : StreamResult} {capped : Bool}

theorem here_init (t : MhiTask)
    : transportOutline.Here t .free (.init stagingLength result capped) := by
  refine ⟨⟨rfl, by simp [MhiPlayer.transport, MhiPlayer.init]⟩, ?_⟩
  constructor
  . intro hactive
    contradiction
  . rfl
  . intro hopening
    contradiction
  . intro n hn
    contradiction
  . intro _
    rfl
  . intro hn
    contradiction
  . intro hhalted
    contradiction

variable {st : mhiPool.State} {as : List (Pool.Action MhiTask MhiCall MhiAnswer)}
  {marks : Trace MhiPlayer MhiMark}

/--
While no call is in progress a stream that is not stopped has a session, and after a stop the stream
is stopped and has none, provided that the calls are serial where they race with a stop.
-/
theorem transport_run
    (hrun : mhiPool.run (.start mhiPool (.init stagingLength result capped)) as = some (marks, st))
    (hserial : ∀ m ∈ marks, mhiSerial m.1 m.2) (hquiet : ∀ t, st.parked t = none)
    : (st.shared.status ≠ .stopped → st.shared.session ≠ 0)
        ∧ (st.shared.ghost.halted = true →
            st.shared.status = .stopped ∧ st.shared.session = 0) := by
  have hend := sound_transportOutline.run here_init hrun hserial
  have hsafe : st.shared.transport.Safe := hend.2.1
  have hidle (t : MhiTask)
      : st.shared.transport.closing t = false ∧ st.shared.transport.lock ≠ some t :=
    hend.2.2 t (hquiet t)
  -- nobody has the lock, so nobody is opening a session
  have hlock : st.shared.transport.lock = none := by
    by_contra hlock
    obtain ⟨t, ht⟩ := Option.ne_none_iff_exists'.mp hlock
    exact (hidle t).2 ht
  have hopening := hsafe.opening_eq_none hlock
  constructor
  . intro hactive
    exact (hsafe.active hactive).1
  . intro hhalted
    have hleft := hsafe.halted hhalted
    refine ⟨hleft.1, ?_⟩
    cases hleft.2 with
    | inl hsession => exact hsession
    | inr hrest =>
      cases hrest with
      | inl hclosing =>
        obtain ⟨t, ht⟩ := hclosing
        rw [(hidle t).1] at ht
        contradiction
      | inr hout =>
        obtain ⟨n, hn, _⟩ := hout
        rw [hopening] at hn
        contradiction

/-- A stream is opened and stopped. -/
def stoppedRun : List (Pool.Action MhiTask MhiCall MhiAnswer) :=
  MhiCall.play.sections (.app 0) 26 (drainedAnswer .ok 0)
    ++ MhiCall.stop.sections (.app 0) 16 (drainedAnswer .ok 0)

/-- The firmware refuses to go on with a stream, which is stopped then. -/
def refusedRun : List (Pool.Action MhiTask MhiCall MhiAnswer) :=
  MhiCall.play.sections (.app 0) 26 (drainedAnswer .ok 0)
    ++ (MhiCall.queueBuffer 9 [1]).sections (.app 0) 1 (drainedAnswer .ok 7)
    ++ (MhiCall.iteration 3).sections .feeder 43 (drainedAnswer .ok 0)
    ++ (MhiCall.iteration 3).sections .feeder 16 (drainedAnswer .error 0)
    ++ MhiCall.stop.sections (.app 0) 1 (drainedAnswer .ok 0)

set_option maxRecDepth 4000 in
theorem transport_run_stopped
    : ∃ marks st,
        mhiPool.run (.start mhiPool (.init 4 (drainedAnswer .ok 0).result false)) stoppedRun
            = some (marks, st)
          ∧ st.shared.ghost.halted = true ∧ st.shared.status = .stopped
          ∧ st.shared.session = 0 := by
  have hmarks : (mhiPool.run (.start mhiPool (.init 4 (drainedAnswer .ok 0).result false))
      stoppedRun).map (fun r => r.1.map fun m => (m.1, m.2.status, m.2.ghost.stops,
        m.2.ghost.closing))
      = some [(.playReads 0, .stopped, 0, fun _ => false), (.begun 1, .stopped, 0, fun _ => false),
        (.playChecks 0 0, .stopped, 0, fun _ => false), (.flip, .playing, 0, fun _ => false)] := by
    rfl
  have heval : (mhiPool.run (.start mhiPool (.init 4 (drainedAnswer .ok 0).result false))
      stoppedRun).any (fun r => r.2.shared.ghost.halted
        && [MhiTask.app 0].all fun t => (r.2.parked t).isNone) = true := by
    decide +kernel
  rw [Option.any_eq_true] at heval
  obtain ⟨⟨marks, st⟩, hrun, heval⟩ := heval
  simp only [Bool.and_eq_true, List.all_eq_true] at heval
  have hidle := Pool.idle_run _ hrun (by decide +kernel) heval.2
  have hend := transport_run hrun (by
    intro m hm
    rw [hrun, Option.map_some, Option.some.injEq] at hmarks
    have hmem := List.mem_map_of_mem (f := fun m : MhiMark × MhiPlayer =>
      (m.1, m.2.status, m.2.ghost.stops, m.2.ghost.closing)) hm
    rw [hmarks] at hmem
    simp only [List.mem_cons, Prod.mk.injEq, List.not_mem_nil, or_false] at hmem
    obtain ⟨h, hs⟩ | ⟨h, hs⟩ | ⟨h, hs⟩ | ⟨h, hs⟩ := hmem
    . rw [h]
      exact ⟨hs.2.1, by simp [hs.2.2]⟩
    . rw [h]
      exact (by decide : (1 : UInt32) ≠ 0)
    . rw [h]
      exact fun _ => hs.2.1
    . rw [h]
      intro hstopped
      rw [hs.1] at hstopped
      contradiction) hidle
  exact ⟨marks, st, hrun, heval.1, hend.2 heval.1⟩

theorem transport_refused
    : ¬ ∀ (stagingLength : Nat) (result : StreamResult) (capped : Bool)
          (as : List (Pool.Action MhiTask MhiCall MhiAnswer)) (marks : Trace MhiPlayer MhiMark)
          (st : mhiPool.State),
        mhiPool.run (.start mhiPool (.init stagingLength result capped)) as = some (marks, st) →
        (∀ t, st.parked t = none) →
        (st.shared.status ≠ .stopped → st.shared.session ≠ 0)
          ∧ (st.shared.ghost.halted = true →
              st.shared.status = .stopped ∧ st.shared.session = 0) := by
  intro h
  have heval : (mhiPool.run (.start mhiPool (.init 4 (drainedAnswer .ok 0).result false))
      refusedRun).any (fun r => r.2.shared.ghost.halted && r.2.shared.session != 0
        && [MhiTask.feeder, .app 0].all fun t => (r.2.parked t).isNone) = true := by
    decide +kernel
  rw [Option.any_eq_true] at heval
  obtain ⟨⟨marks, st⟩, hrun, heval⟩ := heval
  simp only [Bool.and_eq_true, bne_iff_ne, List.all_eq_true] at heval
  have hidle := Pool.idle_run _ hrun (by decide +kernel) heval.2
  have := h _ _ _ _ _ _ hrun hidle
  exact heval.1.2 (this.2 heval.1.1).2

end Runs

end ZZMhi
