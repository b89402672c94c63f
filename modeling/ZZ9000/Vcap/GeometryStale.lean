import ZZ9000.Vcap.GeometryAttribution

/-!
This module contains when the results of `zz_vcap_geometry_apply` are about the requests of the
call: a rejection from before it is in the status until the next request is processed.
-/

namespace ZZVcap

open Concurrency
open Concurrency.Coroutine

namespace GeometryCard

/-- A firmware that has not been asked for a window yet. -/
def boot (capabilities : UInt16) (dedicated : Bool) : GeometryCard where
  capabilities
  dedicated
  key := 0
  user1 := 0
  user2 := 0
  stagedWidth := none
  queue := []
  current := none
  requestedWidth := 0
  requestedHeight := 0
  appliedWidth := 0
  appliedHeight := 0
  accepted := 0
  appliedAt := 0
  appliedValid := false
  rejected := false
  settledWindows := []
  rejections := []

/-- What the firmware can be when a call begins. -/
inductive Reached : GeometryCard → Prop where
  | boot (capabilities : UInt16) (dedicated : Bool) : Reached (boot capabilities dedicated)
  | write {s : GeometryCard} (offset : UInt32) (value : UInt16) :
    Reached s → Reached (s.write offset value)
  | event {s : GeometryCard} (e : GeometryEvent) : Reached s → Reached (s.event e)

/-- The client can ask this firmware for a window. -/
def Supports (s : GeometryCard) : Prop :=
  s.capabilities &&& (fwCapVideocapGeometry ||| fwCapVideocapGeometryAck)
    = fwCapVideocapGeometry ||| fwCapVideocapGeometryAck

instance (s : GeometryCard) : Decidable s.Supports :=
  inferInstanceAs (Decidable (_ = _))

instance (s : GeometryCard) : Decidable s.Idle :=
  inferInstanceAs (Decidable (_ ∧ _))

/-- Nothing has changed but the registers and what is waiting in the queue. -/
def Alike (s s' : GeometryCard) : Prop :=
  ∃ key user1 user2 stagedWidth queue, s' = { s with key, user1, user2, stagedWidth, queue }

theorem alike_refl (s : GeometryCard) : Alike s s := ⟨_, _, _, _, _, rfl⟩

theorem alike_trans {s s' s'' : GeometryCard} (h : Alike s s') (h' : Alike s' s'')
    : Alike s s'' := by
  obtain ⟨_, _, _, _, _, hs'⟩ := h
  obtain ⟨_, _, _, _, _, hs''⟩ := h'
  rw [hs'', hs']
  exact ⟨_, _, _, _, _, rfl⟩

theorem alike_write (offset : UInt32) (value : UInt16) (s : GeometryCard)
    : Alike s (s.write offset value) := by
  unfold write
  split
  . exact ⟨_, _, _, _, _, rfl⟩
  . split
    . exact ⟨_, _, _, _, _, rfl⟩
    . split
      . exact ⟨_, _, _, _, _, rfl⟩
      . split
        . exact ⟨_, _, _, _, _, rfl⟩
        . split
          . exact ⟨_, _, _, _, _, rfl⟩
          . split
            . split
              . exact ⟨_, _, _, _, _, rfl⟩
              . exact alike_refl s
            . exact alike_refl s

section Alike

variable {s s' : GeometryCard}

theorem value_of_alike (h : Alike s s') (key : UInt16)
    : s'.value key = s.value key := by
  obtain ⟨_, _, _, _, _, hs'⟩ := h
  rw [hs']
  rfl

theorem supports_of_alike (h : Alike s s') (hs : s.Supports)
    : s'.Supports := by
  obtain ⟨_, _, _, _, _, hs'⟩ := h
  rw [hs']
  exact hs

theorem sound_of_alike (h : Alike s s') (hs : s.Sound)
    : s'.Sound := by
  obtain ⟨_, _, _, _, _, hs'⟩ := h
  rw [hs']
  exact hs

end Alike

theorem sound_event {s : GeometryCard} (hs : s.Sound) (e : GeometryEvent)
    : (s.event e).Sound := by
  cases e with
  | issue width height => exact hs
  | accept keepValid =>
    unfold event
    dsimp only
    split
    . exact hs
    . intro hnone
      contradiction
  | reject =>
    unfold event
    dsimp only
    split
    . exact hs
    . intro _ hrejected
      contradiction
  | apply width height =>
    unfold event
    dsimp only
    split
    . exact hs
    . exact fun _ _ _ => rfl
  | refuse =>
    unfold event
    dsimp only
    split
    . exact hs
    . intro _ hrejected
      contradiction

theorem sound_of_reached {s : GeometryCard} (h : Reached s)
    : s.Sound := by
  induction h with
  | boot capabilities dedicated => exact fun _ _ _ => rfl
  | write offset value _ ih => exact sound_of_alike (alike_write offset value _) ih
  | event e _ ih => exact sound_event ih e

theorem recorded_begin {s : GeometryCard} (hs : s.Sound)
    : s.begin.Recorded := by
  intro hnone hrejected hvalid
  have hcurrent : s.current = none := Option.map_eq_none_iff.mp hnone
  have hsettled : s.Settled := ⟨hcurrent, hvalid, hs hcurrent hrejected hvalid⟩
  show _ ∈ if s.Settled then _ else _
  rw [if_pos hsettled]
  exact List.mem_singleton_self _

theorem callOnly_begin {s : GeometryCard} (hs : s.Idle)
    : s.begin.CallOnly := by
  obtain ⟨hqueue, hcurrent, hrejected⟩ := hs
  constructor
  . intro r hr
    have hr : r ∈ s.queue.map earlier := hr
    rw [hqueue] at hr
    contradiction
  . intro r hr
    have hr : s.current.map earlier = some r := hr
    rw [hcurrent] at hr
    contradiction
  . intro h
    have h : s.rejected = true := h
    rw [hrejected] at h
    contradiction

/-- A rejection that is not one of the call. -/
structure Stale (s : GeometryCard) : Prop where
  rejected : s.rejected = true
  rejections : ∀ q ∈ s.rejections, q.inCall = false

theorem stale_of_alike {s s' : GeometryCard} (h : Alike s s') (hs : s.Stale)
    : s'.Stale := by
  obtain ⟨_, _, _, _, _, hs'⟩ := h
  rw [hs']
  exact ⟨hs.rejected, hs.rejections⟩

/-- What makes the firmware reject a request from before the call. -/
theorem stale_events {s : GeometryCard} (hs : ¬s.Idle)
    : ∃ events : List GeometryEvent, (events.foldl event s.begin).Stale
        ∧ (events.foldl event s.begin).capabilities = s.capabilities
        ∧ (events.foldl event s.begin).accepted = s.accepted := by
  cases hrejected : s.rejected with
  | true =>
    -- the rejection is there already
    exact ⟨[], ⟨hrejected, fun q hq => by contradiction⟩, rfl, rfl⟩
  | false =>
    cases hqueue : s.queue with
    | cons r rest =>
      -- the oldest request in the queue is rejected
      have hbegin : s.begin.queue = earlier r :: rest.map earlier := by
        show s.queue.map earlier = _
        rw [hqueue]
        rfl
      have hevent : s.begin.event .reject
          = { s.begin with
              queue := rest.map earlier, rejected := true, rejections := [earlier r] } := by
        unfold event
        rw [hbegin]
        rfl
      refine ⟨[.reject], ?_⟩
      rw [List.foldl_cons, List.foldl_nil, hevent]
      refine ⟨⟨rfl, ?_⟩, rfl, rfl⟩
      intro q hq
      rw [List.mem_singleton] at hq
      rw [hq]
      rfl
    | nil =>
      cases hcurrent : s.current with
      | none => exact absurd ⟨hqueue, hcurrent, hrejected⟩ hs
      | some r =>
        -- the one that is being processed is refused
        have hbegin : s.begin.current = some (earlier r) := by
          show s.current.map earlier = _
          rw [hcurrent]
          rfl
        have hevent : s.begin.event .refuse
            = { s.begin with
                current := none, rejected := true, rejections := [earlier r] } := by
          unfold event
          rw [hbegin]
          rfl
        refine ⟨[.refuse], ?_⟩
        rw [List.foldl_cons, List.foldl_nil, hevent]
        refine ⟨⟨rfl, ?_⟩, rfl, rfl⟩
        intro q hq
        rw [List.mem_singleton] at hq
        rw [hq]
        rfl

end GeometryCard

open GeometryCard

/-- The program gives an answer and leaves what the firmware goes by alone. -/
def Gives {α : Type} (c : Requesting α) (s : GeometryCard) (a : α) : Prop :=
  ∃ answers s', Runs c s answers a s' ∧ Alike s s'

section Gives

variable {α β : Type} {s : GeometryCard}

theorem gives_pure (a : α)
    : Gives (pure a) s a :=
  ⟨[], s, runs_pure, alike_refl s⟩

theorem gives_bind {c : Requesting α} {f : α → Requesting β} {a : α} {b : β}
    (hc : Gives c s a) (hf : ∀ s', Alike s s' → Gives (f a) s' b)
    : Gives (c >>= f) s b := by
  obtain ⟨answers, s', hruns, halike⟩ := hc
  obtain ⟨answers', s'', hruns', halike'⟩ := hf s' halike
  exact ⟨answers ++ answers', s'', runs_bind hruns hruns', alike_trans halike halike'⟩

end Gives

namespace GeometryAnswer

/-- Nothing happens. -/
def quiet : GeometryAnswer where
  events := []
  running := true

end GeometryAnswer

section Runs

variable (s : GeometryCard)

theorem runs_geometryRegister (events : List GeometryEvent) (running : Bool) (offset : UInt32)
    : Runs (geometryIo.read16 offset) s [⟨events, running⟩]
        ((events.foldl event s).register offset) (events.foldl event s) :=
  runs_observe GeometryAnswer.events (GeometryCard.register offset) ⟨events, running⟩

theorem gives_geometryWrite (offset : UInt32) (value : UInt16)
    : Gives (geometryIo.write16 offset value) s () :=
  ⟨[.quiet], s.write offset value, runs_act _ _ _, alike_write offset value s⟩

theorem gives_keepRunningOr (restoring : Bool)
    : Gives (geometryIo.keepRunningOr restoring) s true := by
  unfold VcapIo.keepRunningOr
  split
  . exact gives_pure true
  . exact ⟨[.quiet], s, fun _ _ _ => rfl, alike_refl s⟩

/-- The answer to a query when nothing happens. -/
theorem runs_query (key : UInt16)
    : Runs (geometryIo.query key) s [.quiet, .quiet, .quiet] (s.value key)
        { s with key := key } := by
  have hread32 : Runs (geometryIo.read32 regConfigKey) { s with key := key } [.quiet, .quiet]
      (vcapWord ((s.value key).getD 0) (if (s.value key).isSome then 1 else 0))
      { s with key := key } := by
    apply runs_bind (runs_geometryRegister { s with key := key } [] true regConfigKey)
    apply runs_bind (runs_geometryRegister { s with key := key } [] true (regConfigKey + 2))
    exact runs_pure
  have hanswer : (if (vcapWord ((s.value key).getD 0)
          (if (s.value key).isSome then 1 else 0)).toUInt16 = 1 then
        some (vcapWord ((s.value key).getD 0)
          (if (s.value key).isSome then 1 else 0) >>> 16).toUInt16 else none)
      = s.value key := by
    rw [toUInt16_vcapWord, toUInt16_vcapWord_shiftRight]
    cases s.value key with
    | none => rfl
    | some value => rfl
  have hwrite : Runs (geometryIo.write16 regConfigKey key) s [.quiet] () { s with key := key } :=
    runs_act GeometryAnswer.events (GeometryCard.write regConfigKey key) .quiet
  have htail : Runs (pure (s.value key) : Requesting (Option UInt16)) { s with key := key } []
      (s.value key) { s with key := key } := runs_pure
  rw [← hanswer] at htail ⊢
  exact runs_bind hwrite (runs_bind hread32 htail)

end Runs

/-- What the state is read as when nothing happens. -/
def GeometryCard.shown (s : GeometryCard) : VcapGeometryState where
  requestedWidth := s.requestedWidth
  requestedHeight := s.requestedHeight
  appliedWidth := s.appliedWidth
  appliedHeight := s.appliedHeight
  requestSerial := s.requestSerial
  appliedSerial := s.appliedSerial
  status := s.status

section Gives

variable {s : GeometryCard}

theorem gives_query (key : UInt16)
    : Gives (geometryIo.query key) s (s.value key) :=
  ⟨_, _, runs_query s key, ⟨_, _, _, _, _, rfl⟩⟩

theorem gives_queries {keys : List UInt16} (hkeys : ∀ key ∈ keys, (s.value key).isSome)
    : Gives (geometryIo.queries keys) s (some (keys.map fun key => (s.value key).getD 0)) := by
  induction keys generalizing s with
  | nil => exact gives_pure (some [])
  | cons key keys ih =>
    apply gives_bind (gives_query key)
    intro s' halike
    obtain ⟨value, hvalue⟩ := Option.isSome_iff_exists.mp (hkeys key List.mem_cons_self)
    have hrest : ∀ k ∈ keys, (s'.value k).isSome := by
      intro k hk
      rw [value_of_alike halike]
      exact hkeys k (List.mem_cons_of_mem key hk)
    rw [hvalue]
    apply gives_bind (ih hrest)
    intro s'' _
    have hmap : (keys.map fun k => (s'.value k).getD 0)
        = keys.map fun k => (s.value k).getD 0 := by
      simp only [value_of_alike halike]
    rw [hmap, List.map_cons, hvalue]
    exact gives_pure _

theorem gives_geometryAttempt (n : Nat)
    : Gives (geometryIo.geometryAttempt (n + 1)) s (.ok s.shown) := by
  have hkeys : ∀ key ∈ VcapIo.geometryKeys, (s.value key).isSome := by
    intro key hkey
    simp only [VcapIo.geometryKeys, List.mem_cons, List.not_mem_nil, or_false] at hkey
    rcases hkey with h | h | h | h | h | h | h | h | h | h <;> rw [h] <;> rfl
  have hstate : VcapIo.geometryOf (VcapIo.geometryKeys.map fun key => (s.value key).getD 0)
      = some s.shown := by
    show (if _ ∧ _ ∧ _ then _ else _) = _
    exact if_pos ⟨rfl, rfl, rfl⟩
  apply gives_bind (gives_queries hkeys)
  intro s' _
  dsimp only
  rw [hstate]
  exact gives_pure _

/-- The state is read after what happens first. -/
theorem runs_geometryRead {events : List GeometryEvent}
    (h : (events.foldl GeometryCard.event s).Supports)
    : ∃ answers s', Runs geometryIo.geometryRead s answers
        (.ok (events.foldl GeometryCard.event s).shown) s'
        ∧ Alike (events.foldl GeometryCard.event s) s' := by
  have hsupported : Runs geometryIo.geometrySupported s [⟨events, true⟩] true
      (events.foldl GeometryCard.event s) := by
    have htrue : ((events.foldl GeometryCard.event s).register regFwCapabilities
        &&& (fwCapVideocapGeometry ||| fwCapVideocapGeometryAck)
        == fwCapVideocapGeometry ||| fwCapVideocapGeometryAck) = true := beq_iff_eq.mpr h
    have hread := runs_geometryRegister s events true regFwCapabilities
    refine runs_bind hread (show Runs _ _ [] _ _ from ?_)
    rw [htrue]
    exact runs_pure
  obtain ⟨answers, s', hruns, halike⟩ :=
    gives_geometryAttempt (s := events.foldl GeometryCard.event s) 7
  exact ⟨_, s', runs_bind hsupported hruns, halike⟩

theorem gives_geometryRead (h : s.Supports)
    : Gives geometryIo.geometryRead s (.ok s.shown) := by
  have h' : (([] : List GeometryEvent).foldl GeometryCard.event s).Supports := h
  exact runs_geometryRead h'

theorem gives_dedicatedRegisters
    : Gives geometryIo.dedicatedRegisters s
        (s.value cfgKeyGeometryRegs == some cfgGeometryRegsAbi) := by
  apply gives_bind (gives_query cfgKeyGeometryRegs)
  intro s' _
  exact gives_pure _

theorem gives_writeRequest (registers : Bool) (width height : UInt16)
    : Gives (geometryIo.writeRequest registers width height) s () := by
  unfold VcapIo.writeRequest
  split
  . apply gives_bind (gives_geometryWrite s _ _)
    intro s' _
    exact gives_geometryWrite s' _ _
  . apply gives_bind (gives_geometryWrite s _ _)
    intro s' _
    apply gives_bind (gives_geometryWrite s' _ _)
    intro s'' _
    exact gives_geometryWrite s'' _ _

/-- A rejection that was there before is taken for one of the request. -/
theorem gives_staleWait (width height serial expected : UInt16) (restoring : Bool) (ticks : Nat)
    (hsupports : s.Supports) (hstale : s.Stale)
    : Gives (geometryIo.geometryWait width height serial expected restoring (ticks + 1)) s
        .rejected := by
  apply gives_bind (gives_keepRunningOr s restoring)
  intro s' halike
  rw [if_pos rfl]
  apply gives_bind (gives_geometryRead (supports_of_alike halike hsupports))
  intro s'' _
  have hrejected : s'.shown.rejected = true :=
    (rejected_status s').trans (stale_of_alike halike hstale).rejected
  have houtcome : s'.shown.outcome width height serial expected = some .rejected := by
    unfold VcapGeometryState.outcome
    exact if_pos hrejected
  dsimp only
  rw [houtcome]
  exact gives_pure _

theorem gives_staleRequest (width height : UInt16) (restoring : Bool)
    {before : VcapGeometryState} (hbefore : before.rejected = true) (hsupports : s.Supports)
    (hstale : s.Stale)
    : Gives (geometryIo.geometryRequest width height restoring before) s .rejected := by
  unfold VcapIo.geometryRequest
  rw [hbefore, Bool.not_true, Bool.and_false, Bool.false_and, if_neg Bool.false_ne_true]
  apply gives_bind gives_dedicatedRegisters
  intro s' halike
  apply gives_bind (gives_writeRequest _ width height)
  intro s'' halike'
  have hthen := alike_trans halike halike'
  exact gives_staleWait width height _ _ restoring 149 (supports_of_alike hthen hsupports)
    (stale_of_alike hthen hstale)

theorem runs_staleApply {width height : UInt16} (restoring : Bool) {events : List GeometryEvent}
    (hvalid : geometryValid width height = true)
    (hsupports : (events.foldl GeometryCard.event s).Supports)
    (hstale : (events.foldl GeometryCard.event s).Stale)
    : ∃ answers s', Runs (geometryIo.geometryApply width height restoring) s answers .rejected s'
        ∧ Alike (events.foldl GeometryCard.event s) s' := by
  obtain ⟨answers, first, hread, hfirst⟩ := runs_geometryRead hsupports
  have hrejected : (events.foldl GeometryCard.event s).shown.rejected = true :=
    (rejected_status _).trans hstale.rejected
  have hrest : Gives
      (do
        if ← geometryIo.keepRunningOr restoring then
          geometryIo.geometryRequest width height restoring
            (events.foldl GeometryCard.event s).shown
        else
          return .cancelled)
      first .rejected := by
    apply gives_bind (gives_keepRunningOr first restoring)
    intro s' halike
    rw [if_pos rfl]
    have hthen := alike_trans hfirst halike
    exact gives_staleRequest width height restoring hrejected (supports_of_alike hthen hsupports)
      (stale_of_alike hthen hstale)
  obtain ⟨answers', s', hruns, halike⟩ := hrest
  refine ⟨answers ++ answers', s', ?_, alike_trans hfirst halike⟩
  unfold VcapIo.geometryApply
  rw [if_pos hvalid]
  exact runs_bind hread hruns

end Gives

/-- What the results of a call say about the requests that were made in it. -/
def Attributes (s : GeometryCard) (width height : UInt16) (restoring : Bool) : Prop :=
  ∀ answers marks s' r,
    (zzVcapGeometryApply width height restoring).exec s.begin answers = some (marks, s', .done r) →
      s'.accepted < s.accepted + 65536 →
        (r = .ok → (width, height) ∈ s'.settledWindows)
          ∧ (r = .rejected → ∃ q ∈ s'.rejections, q.inCall = true)

section Attributes

variable {s : GeometryCard} {width height : UInt16} {restoring : Bool}

theorem idle_of_attributes (hattributes : Attributes s width height restoring)
    (hvalid : geometryValid width height = true) (hsupports : s.Supports)
    : s.Idle := by
  by_contra hbusy
  obtain ⟨events, hstale, hcapabilities, haccepted⟩ := stale_events hbusy
  have hsupports' : (events.foldl GeometryCard.event s.begin).Supports := by
    unfold Supports
    rw [hcapabilities]
    exact hsupports
  obtain ⟨answers, s', hruns, halike⟩ := runs_staleApply restoring hvalid hsupports' hstale
  have hexec : (zzVcapGeometryApply width height restoring).exec s.begin answers
      = some ([], s', .done .rejected) := exec_of_runs hruns
  have hfew : s'.accepted < s.accepted + 65536 := by
    obtain ⟨_, _, _, _, _, hs'⟩ := halike
    have hsame : s'.accepted = s.accepted := by
      rw [hs']
      exact haccepted
    omega
  obtain ⟨q, hq, hcall⟩ := (hattributes answers [] s' .rejected hexec hfew).2 rfl
  rw [(stale_of_alike halike hstale).rejections q hq] at hcall
  contradiction

theorem course_capabilities
    : Course GeometryCard.event (fun s s' => s'.capabilities = s.capabilities) where
  refl := fun _ => rfl
  trans := fun _ _ _ h h' => h'.trans h
  event := by
    intro s e
    cases e with
    | issue width height => rfl
    | accept keepValid =>
      unfold GeometryCard.event
      dsimp only
      split <;> rfl
    | reject =>
      unfold GeometryCard.event
      dsimp only
      split <;> rfl
    | apply width height =>
      unfold GeometryCard.event
      dsimp only
      split <;> rfl
    | refuse =>
      unfold GeometryCard.event
      dsimp only
      split <;> rfl

/-- A call that asks for nothing. -/
theorem triple_unsupported
    : Triple (.solo (fun _ _ => True) (fun _ _ => True)) (fun s : GeometryCard => ¬s.Supports)
        (zzVcapGeometryApply width height restoring) (fun r _ => r ≠ .ok ∧ r ≠ .rejected) := by
  have hlasting : Lasting (fun s s' : GeometryCard => s'.capabilities = s.capabilities)
      (fun s => ¬s.Supports) := by
    intro s s' hsame hs
    unfold Supports at hs ⊢
    rw [hsame]
    exact hs
  have hsupported : Triple (.solo (fun _ _ => True) (fun _ _ => True))
      (fun s : GeometryCard => ¬s.Supports) geometryIo.geometrySupported
      (fun r _ => r = false) := by
    apply triple_bind (triple_observe course_capabilities GeometryAnswer.events hlasting
      (GeometryCard.register regFwCapabilities))
    intro capabilities
    apply triple_pure
    intro s hs
    rw [hs.2]
    exact beq_eq_false_iff_ne.mpr hs.1
  have hread : Triple (.solo (fun _ _ => True) (fun _ _ => True))
      (fun s : GeometryCard => ¬s.Supports) geometryIo.geometryRead
      (fun r _ => r = .error .unsupported) := by
    apply triple_bind hsupported
    intro supported
    apply triple_of_fact (fun s hs => hs)
    intro hno
    rw [hno, if_neg Bool.false_ne_true]
    apply triple_pure
    intro s _
    rfl
  apply triple_ite
  . intro _
    apply triple_bind hread
    intro r
    apply triple_of_fact (fun s hs => hs)
    intro hr
    rw [hr]
    apply triple_pure
    intro s _
    exact ⟨nofun, nofun⟩
  . intro _
    apply triple_pure
    intro s _
    exact ⟨nofun, nofun⟩

theorem attributes_of_idle (hsound : s.Sound)
    (hidle : geometryValid width height = true → s.Supports → s.Idle)
    : Attributes s width height restoring := by
  intro answers marks s' r hexec hfew
  by_cases hvalid : geometryValid width height = true
  . by_cases hsupports : s.Supports
    . have htriple : Triple (.solo (fun _ _ => True) (fun _ _ => True)) (After s.begin)
          (zzVcapGeometryApply width height restoring) (Attributed s.begin width height) :=
        triple_geometryCall drives_geometryIo width height restoring
      obtain ⟨_, a, hstop, hout⟩ :=
        exec_of_triple htriple (GeometryCard.after_refl s.begin) hexec (fun _ _ => trivial)
      rw [Stop.done.injEq] at hstop
      rw [← hstop] at hout
      exact ⟨fun hr => hout.ok hr (recorded_begin hsound) hfew,
        fun hr => hout.rejected hr (callOnly_begin (hidle hvalid hsupports))⟩
    . have hbegin : ¬s.begin.Supports := hsupports
      obtain ⟨_, a, hstop, hout⟩ := exec_of_triple triple_unsupported hbegin hexec
        (fun _ _ => trivial)
      rw [Stop.done.injEq] at hstop
      rw [← hstop] at hout
      exact ⟨fun hr => absurd hr hout.1, fun hr => absurd hr hout.2⟩
  . have hinvalid : zzVcapGeometryApply width height restoring = pure .invalid := if_neg hvalid
    have htriple : Triple (.solo (fun _ _ => True) (fun _ _ => True)) (fun _ => True)
        (zzVcapGeometryApply width height restoring) (fun r _ => r = .invalid) := by
      rw [hinvalid]
      apply triple_pure
      intro _ _
      rfl
    obtain ⟨_, a, hstop, hout⟩ := exec_of_triple htriple trivial hexec (fun _ _ => trivial)
    rw [Stop.done.injEq] at hstop
    rw [← hstop] at hout
    rw [hout]
    exact ⟨nofun, nofun⟩

/--
The results are about the requests of the call exactly if the firmware has processed all of the
earlier ones when it begins and the last of them was not rejected, or if nothing is asked for.
-/
theorem geometryApply_attributes_iff (h : s.Reached) (width height : UInt16) (restoring : Bool)
    : Attributes s width height restoring
        ↔ (geometryValid width height = true → s.Supports → s.Idle) :=
  ⟨idle_of_attributes, attributes_of_idle (sound_of_reached h)⟩

theorem geometryApply_attributes_iff_boot
    : Attributes (boot 0x500 true) 320 256 false :=
  (geometryApply_attributes_iff (.boot 0x500 true) 320 256 false).mpr (fun _ _ => by decide)

/-- Another task has asked for a window, and the firmware has rejected it. -/
def rejectingCard : GeometryCard := ((boot 0x500 true).event (.issue 1280 1024)).event .reject

theorem geometryApply_stale_rejection
    : rejectingCard.Reached ∧ ¬Attributes rejectingCard 320 256 false := by
  refine ⟨.event _ (.event _ (.boot 0x500 true)), ?_⟩
  intro hattributes
  have hidle := idle_of_attributes hattributes (by decide) (by decide)
  revert hidle
  decide

end Attributes

end ZZVcap
