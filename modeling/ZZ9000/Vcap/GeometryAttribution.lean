import ZZ9000.Vcap.Drives
import ZZ9000.Vcap.GeometryCard
import ZZ9000.Vcap.GeometryLemmas

/-!
This module contains the verification of `zz_vcap_geometry_apply`: what its results say about the
requests that were made while it ran.
-/

namespace ZZVcap

open Concurrency
open Concurrency.Coroutine

namespace GeometryCard

/-- A window that is applied without a rejection after it is on record. -/
def Recorded (s : GeometryCard) : Prop :=
  s.current = none → s.rejected = false → s.appliedValid = true →
    (s.requestedWidth, s.requestedHeight) ∈ s.settledWindows

/-- All that is not processed yet was issued in the call, and so was what was rejected. -/
structure CallOnly (s : GeometryCard) : Prop where
  queue : ∀ r ∈ s.queue, r.inCall = true
  current : ∀ r, s.current = some r → r.inCall = true
  rejected : s.rejected = true → ∃ r ∈ s.rejections, r.inCall = true

/-- What may have become of the firmware. -/
structure After (s s' : GeometryCard) : Prop where
  dedicated : s'.dedicated = s.dedicated
  recorded : s.Recorded → s'.Recorded
  callOnly : s.CallOnly → s'.CallOnly
  accepted : s.accepted ≤ s'.accepted
  requested : s'.accepted = s.accepted →
    s'.requestedWidth = s.requestedWidth ∧ s'.requestedHeight = s.requestedHeight
  settledWindows : s.settledWindows <+: s'.settledWindows
  rejections : s.rejections <+: s'.rejections

structure Passes (s s' : GeometryCard) : Prop extends After s s' where
  key : s'.key = s.key

theorem after_refl (s : GeometryCard) : After s s where
  dedicated := rfl
  recorded := id
  callOnly := id
  accepted := Nat.le_refl _
  requested := fun _ => ⟨rfl, rfl⟩
  settledWindows := List.prefix_refl _
  rejections := List.prefix_refl _

theorem after_trans {s s' s'' : GeometryCard} (h : After s s') (h' : After s' s'')
    : After s s'' := by
  have haccepted := h.accepted
  have haccepted' := h'.accepted
  constructor
  . exact h'.dedicated.trans h.dedicated
  . exact fun hs => h'.recorded (h.recorded hs)
  . exact fun hs => h'.callOnly (h.callOnly hs)
  . exact Nat.le_trans haccepted haccepted'
  . intro hsame
    have hfirst := h.requested (by omega)
    have hsecond := h'.requested (by omega)
    exact ⟨hsecond.1.trans hfirst.1, hsecond.2.trans hfirst.2⟩
  . exact List.IsPrefix.trans h.settledWindows h'.settledWindows
  . exact List.IsPrefix.trans h.rejections h'.rejections

/-- What changes nothing but the registers. -/
theorem after_of_same {s s' : GeometryCard} (hdedicated : s'.dedicated = s.dedicated)
    (hqueue : s'.queue = s.queue) (hcurrent : s'.current = s.current)
    (hwidth : s'.requestedWidth = s.requestedWidth)
    (hheight : s'.requestedHeight = s.requestedHeight) (haccepted : s'.accepted = s.accepted)
    (hvalid : s'.appliedValid = s.appliedValid) (hrejected : s'.rejected = s.rejected)
    (hwindows : s'.settledWindows = s.settledWindows)
    (hrejections : s'.rejections = s.rejections)
    : After s s' := by
  constructor
  . exact hdedicated
  . intro hs
    unfold Recorded
    rw [hcurrent, hrejected, hvalid, hwidth, hheight, hwindows]
    exact hs
  . intro hs
    constructor
    . rw [hqueue]
      exact hs.queue
    . rw [hcurrent]
      exact hs.current
    . rw [hrejected, hrejections]
      exact hs.rejected
  . exact Nat.le_of_eq haccepted.symm
  . exact fun _ => ⟨hwidth, hheight⟩
  . rw [hwindows]
  . rw [hrejections]

theorem after_push (width height : UInt16) (s : GeometryCard) : After s (s.push width height) where
  dedicated := rfl
  recorded := id
  callOnly := by
    intro hs
    refine ⟨?_, hs.current, hs.rejected⟩
    intro r hr
    cases List.mem_append.mp hr with
    | inl hold => exact hs.queue r hold
    | inr hnew =>
      rw [List.mem_singleton] at hnew
      rw [hnew]
  accepted := Nat.le_refl _
  requested := fun _ => ⟨rfl, rfl⟩
  settledWindows := List.prefix_refl _
  rejections := List.prefix_refl _

theorem after_write (offset : UInt32) (value : UInt16) (s : GeometryCard)
    : After s (s.write offset value) := by
  unfold write
  split
  . exact after_of_same rfl rfl rfl rfl rfl rfl rfl rfl rfl rfl
  . split
    . exact after_of_same rfl rfl rfl rfl rfl rfl rfl rfl rfl rfl
    . split
      . exact after_of_same rfl rfl rfl rfl rfl rfl rfl rfl rfl rfl
      . split
        . exact after_push _ _ s
        . split
          . exact after_of_same rfl rfl rfl rfl rfl rfl rfl rfl rfl rfl
          . split
            . split
              . exact after_trans (after_push _ _ s)
                  (after_of_same rfl rfl rfl rfl rfl rfl rfl rfl rfl rfl)
              . exact after_refl s
            . exact after_refl s

theorem after_accept {s : GeometryCard} {r : WindowRequest} {rest : List WindowRequest}
    (hqueue : s.queue = r :: rest) (keepValid : Bool)
    : After s {
        s with
        queue := rest
        current := some r
        requestedWidth := r.width
        requestedHeight := r.height
        accepted := s.accepted + 1
        appliedValid := s.appliedValid && keepValid
        rejected := false
      } := by
  constructor
  . rfl
  . intro _ hnone
    contradiction
  . intro hs
    constructor
    . intro q hq
      apply hs.queue
      rw [hqueue]
      exact List.mem_cons_of_mem r hq
    . intro q hq
      rw [Option.some.injEq] at hq
      rw [← hq]
      apply hs.queue
      rw [hqueue]
      exact List.mem_cons_self
    . intro hrejected
      contradiction
  . exact Nat.le_succ _
  . intro hsame
    exact absurd hsame (Nat.succ_ne_self _)
  . exact List.prefix_refl _
  . exact List.prefix_refl _

theorem after_reject {s : GeometryCard} {r : WindowRequest} {rest : List WindowRequest}
    (hqueue : s.queue = r :: rest)
    : After s { s with queue := rest, rejected := true, rejections := s.rejections ++ [r] } := by
  constructor
  . rfl
  . intro _ _ hrejected
    contradiction
  . intro hs
    constructor
    . intro q hq
      apply hs.queue
      rw [hqueue]
      exact List.mem_cons_of_mem r hq
    . exact hs.current
    . intro _
      refine ⟨r, List.mem_append_right _ (List.mem_singleton_self r), ?_⟩
      apply hs.queue
      rw [hqueue]
      exact List.mem_cons_self
  . exact Nat.le_refl _
  . exact fun _ => ⟨rfl, rfl⟩
  . exact List.prefix_refl _
  . exact List.prefix_append _ _

theorem after_apply (s : GeometryCard) (width height : UInt16)
    : After s {
        s with
        current := none
        appliedWidth := width
        appliedHeight := height
        appliedAt := s.accepted
        appliedValid := true
        settledWindows := s.settledWindows ++ [(s.requestedWidth, s.requestedHeight)]
      } := by
  constructor
  . rfl
  . intro _ _ _ _
    exact List.mem_append_right _ (List.mem_singleton_self _)
  . intro hs
    refine ⟨hs.queue, ?_, hs.rejected⟩
    intro r hr
    contradiction
  . exact Nat.le_refl _
  . exact fun _ => ⟨rfl, rfl⟩
  . exact List.prefix_append _ _
  . exact List.prefix_refl _

theorem after_refuse {s : GeometryCard} {r : WindowRequest} (hcurrent : s.current = some r)
    : After s { s with current := none, rejected := true, rejections := s.rejections ++ [r] } := by
  constructor
  . rfl
  . intro _ _ hrejected
    contradiction
  . intro hs
    refine ⟨hs.queue, ?_, ?_⟩
    . intro q hq
      contradiction
    . intro _
      exact ⟨r, List.mem_append_right _ (List.mem_singleton_self r), hs.current r hcurrent⟩
  . exact Nat.le_refl _
  . exact fun _ => ⟨rfl, rfl⟩
  . exact List.prefix_refl _
  . exact List.prefix_append _ _

theorem passes_event (s : GeometryCard) (e : GeometryEvent) : Passes s (s.event e) := by
  cases e with
  | issue width height => exact ⟨after_push width height s, rfl⟩
  | accept keepValid =>
    unfold event
    dsimp only
    split
    . exact ⟨after_refl s, rfl⟩
    . next hqueue => exact ⟨after_accept hqueue keepValid, rfl⟩
  | reject =>
    unfold event
    dsimp only
    split
    . exact ⟨after_refl s, rfl⟩
    . next hqueue => exact ⟨after_reject hqueue, rfl⟩
  | apply width height =>
    unfold event
    dsimp only
    split
    . exact ⟨after_refl s, rfl⟩
    . exact ⟨after_apply s width height, rfl⟩
  | refuse =>
    unfold event
    dsimp only
    split
    . exact ⟨after_refl s, rfl⟩
    . next hcurrent => exact ⟨after_refuse hcurrent, rfl⟩

theorem course_passes : Course event Passes where
  refl := fun s => ⟨after_refl s, rfl⟩
  trans := fun _ _ _ h h' => ⟨after_trans h.toAfter h'.toAfter, h'.key.trans h.key⟩
  event := passes_event

theorem lasting_after (m : GeometryCard) : Lasting Passes (After m) :=
  fun _ _ hlater h => after_trans h hlater.toAfter

/-- The firmware knows a key or it does not, whatever happens. -/
theorem isSome_value {s s' : GeometryCard} (h : s'.dedicated = s.dedicated) (key : UInt16)
    : (s'.value key).isSome = (s.value key).isSome := by
  unfold value
  simp only [apply_ite Option.isSome, Option.isSome_some, Option.isSome_none, h]

section Status

variable (s : GeometryCard)

theorem appliedValid_status : (s.status &&& geometryAppliedValid != 0) = s.appliedValid := by
  unfold status
  cases s.appliedValid <;> cases s.current.isSome <;> cases s.rejected <;> decide

theorem pending_status : (s.status &&& geometryPending != 0) = s.current.isSome := by
  unfold status
  cases s.appliedValid <;> cases s.current.isSome <;> cases s.rejected <;> decide

theorem rejected_status : (s.status &&& geometryRejected != 0) = s.rejected := by
  unfold status
  cases s.appliedValid <;> cases s.current.isSome <;> cases s.rejected <;> decide

end Status

/-- The values of the keys, each read at a moment after the one before. -/
inductive Readings : GeometryCard → GeometryCard → List UInt16 → List UInt16 → Prop where
  | nil {s s' : GeometryCard} : After s s' → Readings s s' [] []
  | cons {s m s' : GeometryCard} {key value : UInt16} {keys values : List UInt16} :
    After s m → m.value key = some value → Readings m s' keys values →
      Readings s s' (key :: keys) (value :: values)

end GeometryCard

open GeometryCard

/-- What a state that was read says about the run since `a`. -/
structure Attests (a : GeometryCard) (state : VcapGeometryState) (s : GeometryCard) : Prop where
  window : a.Recorded → s.accepted < a.accepted + 65536 → state.appliedValid = true →
    state.pending = false → state.rejected = false →
      (state.requestedWidth, state.requestedHeight) ∈ s.settledWindows
  rejected : a.CallOnly → state.rejected = true → ∃ r ∈ s.rejections, r.inCall = true

theorem lasting_attests (a : GeometryCard) (state : VcapGeometryState)
    : Lasting Passes (fun s => After a s ∧ Attests a state s) := by
  intro s s' hlater h
  have haccepted := hlater.accepted
  refine ⟨after_trans h.1 hlater.toAfter, ?_, ?_⟩
  . intro hrecorded hfew hvalid hpending hrejected
    exact hlater.settledWindows.subset
      (h.2.window hrecorded (by omega) hvalid hpending hrejected)
  . intro hcall hrejected
    obtain ⟨r, hr, hin⟩ := h.2.rejected hcall hrejected
    exact ⟨r, hlater.rejections.subset hr, hin⟩

section Read

/-- Too few requests for the serial to come around. -/
theorem accepted_eq_of_serial {s s' : GeometryCard} (h : After s s')
    (hfew : s'.accepted < s.accepted + 65536) (hserial : s'.requestSerial = s.requestSerial)
    : s'.accepted = s.accepted := by
  have hmono := h.accepted
  unfold requestSerial at hserial
  rw [← UInt16.toNat_inj, UInt16.toNat_ofNat', UInt16.toNat_ofNat'] at hserial
  omega

/-- The serials and the status enclose the reading of the window. -/
theorem attests_of_readings {a s : GeometryCard} {values : List UInt16}
    {state : VcapGeometryState} (hreadings : Readings a s VcapIo.geometryKeys values)
    (hstate : VcapIo.geometryOf values = some state)
    : Attests a state s := by
  cases hreadings with
  | cons h1 v1 rest =>
  cases rest with
  | cons h2 v2 rest =>
  cases rest with
  | cons h3 v3 rest =>
  cases rest with
  | cons h4 v4 rest =>
  cases rest with
  | cons h5 v5 rest =>
  cases rest with
  | cons h6 v6 rest =>
  cases rest with
  | cons h7 v7 rest =>
  cases rest with
  | cons h8 v8 rest =>
  cases rest with
  | cons h9 v9 rest =>
  cases rest with
  | cons h10 v10 rest =>
  cases rest with
  | nil hend =>
  rename_i m1 serial m2 applied m3 status m4 width m5 height m6 _ m7 _ m8 serial' m9 applied' m10
    status'
  have hstate : (if serial = serial' ∧ applied = applied' ∧ status = status' then _ else _)
      = some state := hstate
  split at hstate
  . next hsame =>
    rw [Option.some.injEq] at hstate
    rw [← hstate]
    have hserial : m1.requestSerial = serial := Option.some.inj v1
    have hserial' : m8.requestSerial = serial' := Option.some.inj v8
    have hstatus : m3.status = status' := (Option.some.inj v3).trans hsame.2.2
    have hwidth : m4.requestedWidth = width := Option.some.inj v4
    have hheight : m5.requestedHeight = height := Option.some.inj v5
    -- the moments in their order
    have h13 := after_trans h2 h3
    have h35 := after_trans h4 h5
    have h58 := after_trans h6 (after_trans h7 h8)
    have hall := after_trans h13 (after_trans h35 h58)
    have h3s := after_trans h35 (after_trans h58 (after_trans h9 (after_trans h10 hend)))
    constructor
    . intro hrecorded hfew hvalid hpending hrejected
      unfold VcapGeometryState.appliedValid at hvalid
      unfold VcapGeometryState.pending at hpending
      unfold VcapGeometryState.rejected at hrejected
      rw [← hstatus] at hvalid hpending hrejected
      rw [appliedValid_status] at hvalid
      rw [pending_status] at hpending
      rw [rejected_status] at hrejected
      have hstart := h1.accepted
      have hlast := (after_trans h9 (after_trans h10 hend)).accepted
      -- equal serials: no request was accepted between them
      have hsteady := accepted_eq_of_serial hall (by omega)
        (hserial'.trans (hsame.1.symm.trans hserial.symm))
      have hm13 := h13.accepted
      have hm34 := h4.accepted
      have hm45 := h5.accepted
      have hm58 := h58.accepted
      -- the window is settled at the moment of the status, and it is the one that is read
      have hthree := (after_trans h1 h13).recorded hrecorded
      have hnone : m3.current = none := Option.isNone_iff_eq_none.mp (by
        rw [← Option.not_isSome, hpending]
        rfl)
      have hmem := hthree hnone hrejected hvalid
      have hfour := (h4.requested (by omega)).1
      have hfive := (h35.requested (by omega)).2
      rw [← hfour, ← hfive, hwidth, hheight] at hmem
      exact h3s.settledWindows.subset hmem
    . intro hcall hrejected
      unfold VcapGeometryState.rejected at hrejected
      rw [← hstatus, rejected_status] at hrejected
      obtain ⟨r, hr, hin⟩ := ((after_trans h1 h13).callOnly hcall).rejected hrejected
      exact ⟨r, h3s.rejections.subset hr, hin⟩
  . contradiction

end Read

section Rules

variable {assume assert : Empty → GeometryCard → Prop} {io : VcapIo Requesting}
  (hio : Drives assume assert Passes GeometryCard.register GeometryCard.write io)
  {a : GeometryCard}

theorem drives_geometryIo
    : Drives assume assert Passes GeometryCard.register GeometryCard.write geometryIo := by
  constructor
  . intro I hI offset
    exact triple_observe course_passes _ hI _
  . intro I J hI offset value hJ
    exact triple_act course_passes _ hI hJ
  . intro I hI
    apply triple_bind (triple_happen course_passes _ hI)
    intro _
    apply triple_pure
    intro s hs
    exact hs
  . intro I hI
    apply triple_bind (triple_happen course_passes _ hI)
    intro _
    apply triple_pure
    intro s hs
    exact hs

include hio

theorem triple_geometryWrite (offset : UInt32) (value : UInt16)
    : Triple (.solo assume assert) (After a) (io.write16 offset value) (fun _ => After a) := by
  apply hio.write (lasting_after a)
  intro s hs
  exact after_trans hs (after_write _ _ s)

/-- An answer is the value of the key at some moment. -/
theorem triple_geometryQuery (key : UInt16)
    : Triple (.solo assume assert) (After a) (io.query key)
        (fun r s => After a s ∧ ∀ value, r = some value →
          ∃ m, After m s ∧ After a m ∧ m.value key = some value) := by
  have hkey : Lasting Passes (fun s => After a s ∧ s.key = key) := by
    intro s s' hlater h
    exact ⟨after_trans h.1 hlater.toAfter, hlater.key.trans h.2⟩
  apply triple_bind (J := fun _ s => After a s ∧ s.key = key)
  . apply hio.write (lasting_after a)
    intro s hs
    exact ⟨after_trans hs (after_write _ _ s), rfl⟩
  . intro _
    apply triple_bind (hio.read32 course_passes hkey regConfigKey)
    intro raw
    apply triple_pure
    intro s hs
    obtain ⟨hs, first, hfirst, hpasses, hraw⟩ := hs
    refine ⟨hs.1, ?_⟩
    intro value hvalue
    split at hvalue
    . next hfound =>
      have hhigh : first.register regConfigKey = (first.value first.key).getD 0 := rfl
      have hlow : s.register (regConfigKey + 2)
          = if (s.value s.key).isSome then 1 else 0 := rfl
      rw [hraw, toUInt16_vcapWord, hlow, hs.2, isSome_value hpasses.dedicated] at hfound
      rw [hraw, toUInt16_vcapWord_shiftRight, hhigh, hfirst.2, Option.some.injEq] at hvalue
      refine ⟨first, hpasses.toAfter, hfirst.1, ?_⟩
      cases hknown : first.value key with
      | none =>
        rw [hknown] at hfound
        contradiction
      | some v =>
        rw [hknown] at hvalue
        rw [← hvalue]
        rfl
    . contradiction

theorem triple_geometryQueries (keys : List UInt16)
    : Triple (.solo assume assert) (After a) (io.queries keys)
        (fun r s => After a s ∧ ∀ values, r = some values → Readings a s keys values) := by
  induction keys generalizing a with
  | nil =>
    apply triple_pure
    intro s hs
    refine ⟨hs, ?_⟩
    intro values hvalues
    rw [Option.some.injEq] at hvalues
    rw [← hvalues]
    exact .nil hs
  | cons key keys ih =>
    apply triple_bind (triple_geometryQuery hio key)
    intro r
    cases r with
    | none =>
      apply triple_pure
      intro s hs
      exact ⟨hs.1, nofun⟩
    | some value =>
      apply triple_of_pre (K := fun s => ∃ m, After m s ∧ After a m ∧ m.value key = some value)
      . intro s hs
        exact hs.2 value rfl
      apply triple_exists
      intro m
      apply triple_of_fact (fun s hs => hs.2)
      intro hm
      apply triple_of_pre (K := After m) (fun s hs => hs.1)
      apply triple_bind ih
      intro rest
      apply triple_pure
      intro s hs
      refine ⟨after_trans hm.1 hs.1, ?_⟩
      intro values hvalues
      cases rest with
      | none => contradiction
      | some rest =>
        rw [Option.map_some, Option.some.injEq] at hvalues
        rw [← hvalues]
        exact .cons hm.1 hm.2 (hs.2 rest rfl)

/-- What a reading of the state says. -/
def Told (a : GeometryCard) (r : Except VcapResult VcapGeometryState) (s : GeometryCard) : Prop :=
  After a s ∧
    match r with
    | .error result => result ≠ .ok ∧ result ≠ .rejected
    | .ok state => Attests a state s

theorem triple_geometryAttempt (n : Nat)
    : Triple (.solo assume assert) (After a) (io.geometryAttempt n) (Told a) := by
  induction n with
  | zero =>
    apply triple_pure
    intro s hs
    exact ⟨hs, nofun, nofun⟩
  | succ n ih =>
    apply triple_bind (triple_geometryQueries hio VcapIo.geometryKeys)
    intro r
    cases r with
    | none =>
      apply triple_pure
      intro s hs
      exact ⟨hs.1, nofun, nofun⟩
    | some values =>
      dsimp only
      cases hstate : VcapIo.geometryOf values with
      | none => exact triple_of_pre (fun s hs => hs.1) ih
      | some state =>
        apply triple_pure
        intro s hs
        exact ⟨hs.1, attests_of_readings (hs.2 values rfl) hstate⟩

theorem triple_geometryRead
    : Triple (.solo assume assert) (After a) io.geometryRead (Told a) := by
  apply triple_bind (J := fun _ => After a)
  . apply triple_bind (hio.read (lasting_after a) regFwCapabilities)
    intro _
    apply triple_pure
    intro s hs
    exact hs.1
  . intro supported
    apply triple_ite
    . intro _
      exact triple_geometryAttempt hio _
    . intro _
      apply triple_pure
      intro s hs
      exact ⟨hs, nofun, nofun⟩

theorem triple_geometryWriteRequest (width height : UInt16)
    : Triple (.solo assume assert) (After a)
        (do io.writeRequest (← io.dedicatedRegisters) width height) (fun _ => After a) := by
  have hregisters : Triple (.solo assume assert) (After a) io.dedicatedRegisters
      (fun _ => After a) := by
    apply triple_bind (triple_geometryQuery hio _)
    intro _
    apply triple_pure
    intro s hs
    exact hs.1
  apply triple_bind hregisters
  intro registers
  apply triple_ite
  . intro _
    apply triple_bind (triple_geometryWrite hio _ _)
    intro _
    exact triple_geometryWrite hio _ _
  . intro _
    apply triple_bind (triple_geometryWrite hio _ _)
    intro _
    apply triple_bind (triple_geometryWrite hio _ _)
    intro _
    exact triple_geometryWrite hio _ _

/-- A success is the window that was requested, and a rejection is one of the call. -/
structure Attributed (a : GeometryCard) (width height : UInt16) (r : VcapResult)
    (s : GeometryCard) : Prop where
  ok : r = .ok → a.Recorded → s.accepted < a.accepted + 65536 →
    (width, height) ∈ s.settledWindows
  rejected : r = .rejected → a.CallOnly → ∃ q ∈ s.rejections, q.inCall = true

omit hio in
theorem attributed_of_other {width height : UInt16} {r : VcapResult} {s : GeometryCard}
    (hok : r ≠ .ok) (hrejected : r ≠ .rejected)
    : Attributed a width height r s :=
  ⟨fun h => absurd h hok, fun h => absurd h hrejected⟩

omit hio in
theorem attributed_of_done {width height : UInt16} {state : VcapGeometryState}
    {s : GeometryCard} (h : Attests a state s) (hdone : state.Done width height)
    : Attributed a width height .ok s := by
  refine ⟨?_, nofun⟩
  intro _ hrecorded hfew
  have hsettled := hdone.settled
  unfold VcapGeometryState.settled at hsettled
  rw [Bool.and_eq_true, Bool.and_eq_true, Bool.not_eq_true'] at hsettled
  have hrequests := hdone.requests
  unfold VcapGeometryState.requests at hrequests
  rw [Bool.and_eq_true, beq_iff_eq, beq_iff_eq] at hrequests
  have hmem := h.window hrecorded hfew hsettled.1.1 hsettled.1.2 hdone.rejected
  rw [hrequests.1, hrequests.2] at hmem
  exact hmem

omit hio in
theorem attributed_of_outcome {width height serial expected : UInt16} {r : VcapResult}
    {state : VcapGeometryState} {s : GeometryCard} (h : Attests a state s)
    (houtcome : state.outcome width height serial expected = some r)
    : Attributed a width height r s := by
  by_cases hok : r = .ok
  . rw [hok] at houtcome ⊢
    exact attributed_of_done h (VcapGeometryState.done_of_outcome houtcome)
  . refine ⟨fun h => absurd h hok, ?_⟩
    intro hr hcall
    apply h.rejected hcall
    rw [hr] at houtcome
    unfold VcapGeometryState.outcome at houtcome
    split at houtcome
    . next hrejected => exact hrejected
    . split at houtcome
      . contradiction
      . split at houtcome
        . split at houtcome
          . contradiction
          . contradiction
        . contradiction

theorem triple_geometryAwait (width height serial expected : UInt16) (restoring : Bool)
    (ticks : Nat)
    : Triple (.solo assume assert) (After a)
        (io.geometryWait width height serial expected restoring ticks)
        (Attributed a width height) := by
  induction ticks with
  | zero =>
    apply triple_pure
    intro s _
    exact attributed_of_other nofun nofun
  | succ ticks ih =>
    apply triple_bind (hio.keepRunningOr (lasting_after a) restoring)
    intro running
    apply triple_ite
    . intro _
      apply triple_bind (triple_geometryRead hio)
      intro r
      cases r with
      | error result =>
        apply triple_pure
        intro s hs
        exact attributed_of_other hs.2.1 hs.2.2
      | ok state =>
        dsimp only
        cases houtcome : state.outcome width height serial expected with
        | some result =>
          apply triple_pure
          intro s hs
          exact attributed_of_outcome hs.2 houtcome
        | none =>
          apply triple_of_pre (K := After a) (fun s hs => hs.1)
          apply triple_bind (hio.delay (lasting_after a))
          intro _
          exact ih
    . intro _
      apply triple_pure
      intro s _
      exact attributed_of_other nofun nofun

theorem triple_geometryCall (width height : UInt16) (restoring : Bool)
    : Triple (.solo assume assert) (After a) (io.geometryApply width height restoring)
        (Attributed a width height) := by
  apply triple_ite
  . intro _
    apply triple_bind (triple_geometryRead hio)
    intro r
    cases r with
    | error result =>
      apply triple_pure
      intro s hs
      exact attributed_of_other hs.2.1 hs.2.2
    | ok before =>
      apply triple_bind (hio.keepRunningOr (lasting_attests a before) restoring)
      intro running
      apply triple_ite
      . intro _
        apply triple_ite
        . intro hdone
          apply triple_pure
          intro s hs
          rw [Bool.and_eq_true, Bool.and_eq_true, Bool.not_eq_true'] at hdone
          exact attributed_of_done hs.2 ⟨hdone.1.1, hdone.1.2, hdone.2⟩
        . intro _
          apply triple_of_pre (K := After a) (fun s hs => hs.1)
          have hwrite := triple_geometryWriteRequest hio (a := a) width height
          have hwait := triple_geometryAwait hio (a := a) width height before.requestSerial
            (before.requestSerial + 1) restoring geometryWaitTicks
          have hboth := triple_bind hwrite (fun _ => hwait)
          rw [bind_assoc] at hboth
          exact hboth
      . intro _
        apply triple_pure
        intro s _
        exact attributed_of_other nofun nofun
  . intro _
    apply triple_pure
    intro s _
    exact attributed_of_other nofun nofun

end Rules

end ZZVcap
