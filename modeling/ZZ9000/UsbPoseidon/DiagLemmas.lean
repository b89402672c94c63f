import Mathlib.Data.List.DropRight
import ZZ9000.UsbPoseidon.Diag

/-!
This module contains what a diagnostics snapshot shows: without interruption the last records since
the last reset, and between the stores of another task one moment between two mutations, as long as
no mutation is under way when the snapshot compares the generation.
-/

namespace ZZUsb

open Concurrency

namespace DiagContents

/-- The events of the ring that the loop of a snapshot keeps. -/
def ringEvents (c : DiagContents) (first : UInt32) (indices : List Nat) : List DiagEvent :=
  match indices with
  | [] => []
  | i :: indices =>
    let sequence := first + i.toUInt32
    let event := c.events (diagRingIndex sequence)
    if event.sequence ≠ sequence then
      ringEvents c first indices
    else
      event :: ringEvents c first indices

def recorded (c : DiagContents) : List DiagEvent :=
  let next := c.nextSequence
  let count := if next < diagEventCount then next else diagEventCount
  let first := if count ≠ 0 then next - count + 1 else 0
  c.ringEvents first (List.range count.toNat)

/-- The snapshot of contents that do not change. -/
def view (c : DiagContents) (capabilities controllerEpoch : UInt32) : DiagSnapshot where
  magic := diagMagic
  generation := 0
  version := diagVersion
  eventCount := c.recorded.length.toUInt16
  nextSequence := c.nextSequence
  lostEvents := c.lostEvents
  capabilities := capabilities
  controllerEpoch := controllerEpoch
  counters := (List.finRange 16).map c.counters
  events := c.recorded

end DiagContents

/-- The snapshot has the sequence numbers, the counters and the events of `c`. -/
structure DiagSnapshot.Shows (snapshot : DiagSnapshot) (c : DiagContents) : Prop where
  nextSequence : snapshot.nextSequence = c.nextSequence
  lostEvents : snapshot.lostEvents = c.lostEvents
  counters : snapshot.counters = (List.finRange 16).map c.counters
  events : snapshot.events = c.recorded
  eventCount : snapshot.eventCount = c.recorded.length.toUInt16

namespace DiagWorld

/-- The generation counts the mutations that have ended, twice each. -/
structure Inv (generation : UInt32) (w : DiagWorld) : Prop where
  generation : w.state.generation = generation + 2 * UInt32.ofNat w.ended
  publishes : ∀ run, w.running = some run → run.generation = w.state.generation + 1
  settled : w.running = none → w.state.contents ∈ w.settled
  hooks : w.hooks = true → w.running = none ∧ ∀ underWay ∈ w.compares, underWay = false

/-- What may have happened between two loads. -/
structure Later (w w' : DiagWorld) : Prop where
  ended : w.ended ≤ w'.ended
  begun : w.begun ≤ w'.begun
  calm : w'.begun = w.begun → w.running = none → w'.state = w.state ∧ w'.running = none
  compares : w.compares ⊆ w'.compares
  hooks : w'.hooks = w.hooks

theorem Later.refl (w : DiagWorld) : Later w w where
  ended := Nat.le_refl _
  begun := Nat.le_refl _
  calm := fun _ h => ⟨rfl, h⟩
  compares := List.Subset.refl _
  hooks := rfl

theorem Later.trans {w w' w'' : DiagWorld} (h : Later w w') (h' : Later w' w'') : Later w w'' where
  ended := Nat.le_trans h.ended h'.ended
  begun := Nat.le_trans h.begun h'.begun
  calm := by
    intro hbegun hrunning
    have hle := h.begun
    have hle' := h'.begun
    obtain ⟨hstate, hrunning⟩ := h.calm (by omega) hrunning
    obtain ⟨hstate', hrunning'⟩ := h'.calm (by omega) hrunning
    exact ⟨hstate'.trans hstate, hrunning'⟩
  compares := List.Subset.trans h.compares h'.compares
  hooks := h'.hooks.trans h.hooks

theorem begun_of_none {w : DiagWorld} (h : w.running = none) : w.begun = w.ended := by
  unfold begun
  rw [h]
  rfl

theorem begun_of_some {w : DiagWorld} {run : DiagRun} (h : w.running = some run)
    : w.begun = w.ended + 1 := by
  unfold begun
  rw [h]
  rfl

theorem ended_le_begun (w : DiagWorld) : w.ended ≤ w.begun := by
  unfold begun
  omega

theorem Inv.publish {g : UInt32} {w : DiagWorld} (h : w.Inv g) {state : DiagState}
    (hgeneration : state.generation = w.state.generation + 2)
    : (w.publish state).Inv g where
  generation := by
    show state.generation = g + 2 * UInt32.ofNat (w.ended + 1)
    rw [hgeneration, h.generation, UInt32.ofNat_add, UInt32.mul_add, UInt32.add_assoc]
    rfl
  publishes := by
    intro run hrun
    contradiction
  settled := by
    intro _
    show state.contents ∈ w.settled ++ [state.contents]
    simp
  hooks := fun hhooks => ⟨rfl, (h.hooks hhooks).2⟩

theorem Later.publish (w : DiagWorld) (state : DiagState) : Later w (w.publish state) where
  ended := Nat.le_succ _
  begun := by
    have hle : w.begun ≤ w.ended + 1 := by
      unfold DiagWorld.begun
      split <;> omega
    exact hle
  calm := by
    intro hbegun hrunning
    have hbegun : w.ended + 1 = w.begun := hbegun
    rw [begun_of_none hrunning] at hbegun
    omega
  compares := List.Subset.refl _
  hooks := rfl

theorem apply_generation {d : DiagState} {m : DiagMutation} {stores : List DiagStore}
    (h : m.stores d.contents = some stores)
    : (d.apply m).generation = d.generation + 2 := by
  unfold DiagState.apply
  rw [h]
  show d.generation + 1 + 1 = d.generation + 2
  rw [UInt32.add_assoc]
  rfl

theorem Inv.move {g : UInt32} {w : DiagWorld} (h : w.Inv g) (m : DiagMove)
    : (w.move m).Inv g ∧ Later w (w.move m) := by
  unfold DiagWorld.move
  split
  . exact ⟨h, .refl w⟩
  . next m hrunning =>
    split
    . exact ⟨h, .refl w⟩
    . next stores hstores =>
      split
      . exact ⟨h.publish (apply_generation hstores), .publish w _⟩
      . next hhooks =>
        refine ⟨⟨h.generation, ?_, ?_, ?_⟩, ?_⟩
        . intro run hrun
          cases hrun
          rfl
        . intro hrun
          contradiction
        . intro hhooks'
          exact absurd hhooks' hhooks
        . refine ⟨Nat.le_refl _, ?_, ?_, List.Subset.refl _, rfl⟩
          . rw [begun_of_none hrunning]
            exact Nat.le_succ _
          . intro hbegun _
            rw [begun_of_none hrunning] at hbegun
            have hbegun : w.ended + 1 = w.ended := hbegun
            omega
  . exact ⟨h, .refl w⟩
  . next generation hrunning =>
    refine ⟨h.publish ?_, .publish w _⟩
    have := h.publishes _ hrunning
    dsimp only at this ⊢
    rw [this, UInt32.add_assoc]
    rfl
  . next store stores generation hrunning =>
    refine ⟨⟨h.generation, ?_, ?_, ?_⟩, ⟨Nat.le_refl _, ?_, ?_, List.Subset.refl _, rfl⟩⟩
    . intro run hrun
      cases hrun
      have hpublishes := h.publishes _ hrunning
      exact hpublishes
    . intro hrun
      contradiction
    . intro hhooks
      have := (h.hooks hhooks).1
      rw [hrunning] at this
      contradiction
    . rw [begun_of_some hrunning]
      exact Nat.le_refl _
    . intro _ hnone
      rw [hrunning] at hnone
      contradiction

theorem Inv.elapse {g : UInt32} {w : DiagWorld} (h : w.Inv g)
    : (Interrupted.elapse w).Inv g ∧ Later w (Interrupted.elapse w) := by
  apply Interrupted.elapse_induction (p := fun w' => w'.Inv g ∧ Later w w')
  . intro w' m hw'
    obtain ⟨hinv, hlater⟩ := hw'.1.move m
    exact ⟨hinv, hw'.2.trans hlater⟩
  . intro w' gaps hw'
    refine ⟨⟨hw'.1.generation, hw'.1.publishes, hw'.1.settled, hw'.1.hooks⟩, ?_⟩
    exact ⟨hw'.2.ended, hw'.2.begun, hw'.2.calm, hw'.2.compares, hw'.2.hooks⟩
  . exact ⟨h, .refl w⟩

end DiagWorld

open DiagWorld

/-- A program that only loads: it finds `f` of the state if no mutation begins meanwhile. -/
structure Reads {β : Type} (m : DiagReader β) (f : DiagState → β) : Prop where
  inv : ∀ {g w}, w.Inv g → (m w).2.Inv g
  later : ∀ {g w}, w.Inv g → Later w (m w).2
  value : ∀ {g w}, w.Inv g → (m w).2.begun = w.begun → w.running = none → (m w).1 = f w.state
  quiet : ∀ {w}, w.gaps = [] → (m w).2 = w

namespace Reads

variable {β γ : Type}

theorem pure (b : β) : Reads (Pure.pure b : DiagReader β) (fun _ => b) where
  inv := fun h => h
  later := fun {_ w} _ => .refl w
  value := fun _ _ _ => rfl
  quiet := fun _ => rfl

theorem bind {m : DiagReader β} {k : β → DiagReader γ} {f : DiagState → β}
    {f' : β → DiagState → γ} (h : Reads m f) (h' : ∀ b, Reads (k b) (f' b))
    : Reads (m >>= k) (fun d => f' (f d) d) where
  inv := fun hw => (h' _).inv (h.inv hw)
  later := fun hw => (h.later hw).trans ((h' _).later (h.inv hw))
  value := by
    intro g w hw hbegun hrunning
    have hlater := h.later hw
    have hlater' := (h' (m w).1).later (h.inv hw)
    have hle := hlater.begun
    have hle' := hlater'.begun
    have hbegun : (k (m w).1 (m w).2).2.begun = w.begun := hbegun
    obtain ⟨hstate, hrunning'⟩ := hlater.calm (by omega) hrunning
    have hvalue := h.value hw (by omega) hrunning
    have hvalue' := (h' (m w).1).value (h.inv hw) (by omega) hrunning'
    show (k (m w).1 (m w).2).1 = f' (f w.state) w.state
    rw [hvalue', hstate, hvalue]
  quiet := by
    intro w hw
    show (k (m w).1 (m w).2).2 = w
    rw [h.quiet hw]
    exact (h' _).quiet hw

theorem load (f : DiagState → β) : Reads (diagLoad f) f where
  inv := fun hw => hw.elapse.1
  later := fun hw => hw.elapse.2
  value := by
    intro g w hw hbegun hrunning
    obtain ⟨hstate, _⟩ := hw.elapse.2.calm hbegun hrunning
    show f (Interrupted.elapse w).state = f w.state
    rw [hstate]
  quiet := by
    intro w hw
    show Interrupted.elapse w = w
    have hgaps : Interrupted.gaps w = [] := hw
    unfold Interrupted.elapse
    rw [hgaps]

theorem mapM (f : α → DiagState → β) (l : List α)
    : Reads (l.mapM fun a => diagLoad (f a)) (fun d => l.map fun a => f a d) := by
  induction l with
  | nil =>
    rw [List.mapM_nil]
    exact pure []
  | cons a l ih =>
    rw [List.mapM_cons]
    exact (load (f a)).bind fun b => ih.bind fun bs => pure (b :: bs)

end Reads

theorem reads_diagLoadEvent (i : Fin 64)
    : Reads (diagLoadEvent i) (fun d => d.contents.events i) := by
  unfold diagLoadEvent
  exact (Reads.load _).bind fun _ => (Reads.load _).bind fun _ => (Reads.load _).bind fun _ =>
    (Reads.load _).bind fun _ => (Reads.load _).bind fun _ => (Reads.load _).bind fun _ =>
    (Reads.load _).bind fun _ => (Reads.load _).bind fun _ => (Reads.load _).bind fun _ =>
    (Reads.load _).bind fun _ => (Reads.load _).bind fun _ => (Reads.load _).bind fun _ =>
    Reads.pure _

theorem reads_diagLoadEvents (first : UInt32) (indices : List Nat)
    : Reads (diagLoadEvents first indices) (fun d => d.contents.ringEvents first indices) := by
  induction indices with
  | nil => exact Reads.pure []
  | cons i indices ih =>
    unfold diagLoadEvents
    have hrest (seen : UInt32)
        : Reads
            (if seen ≠ first + i.toUInt32 then
              diagLoadEvents first indices
            else do
              let event ← diagLoadEvent (diagRingIndex (first + i.toUInt32))
              let events ← diagLoadEvents first indices
              return event :: events)
            (fun d =>
              if seen ≠ first + i.toUInt32 then
                d.contents.ringEvents first indices
              else
                d.contents.events (diagRingIndex (first + i.toUInt32)) ::
                  d.contents.ringEvents first indices) := by
      split
      . exact ih
      . exact (reads_diagLoadEvent _).bind fun event => ih.bind fun events => Reads.pure _
    exact (Reads.load _).bind hrest

theorem reads_diagLoadSnapshot (capabilities controllerEpoch : UInt32)
    : Reads (diagLoadSnapshot capabilities controllerEpoch)
        (fun d => d.contents.view capabilities controllerEpoch) := by
  unfold diagLoadSnapshot
  exact (Reads.load _).bind fun next => (Reads.load _).bind fun lostEvents =>
    (Reads.mapM _ _).bind fun counters => (reads_diagLoadEvents _ _).bind fun events =>
    Reads.pure _

theorem shows_view (c : DiagContents) (capabilities controllerEpoch generation : UInt32)
    : { c.view capabilities controllerEpoch with generation := generation }.Shows c :=
  ⟨rfl, rfl, rfl, rfl, rfl⟩

theorem DiagWorld.inv_start (hooks : Bool) (state : DiagState) (gaps : List (List DiagMove))
    : (DiagWorld.start hooks state gaps).Inv state.generation where
  generation := (UInt32.add_zero _).symm
  publishes := by
    intro run hrun
    contradiction
  settled := fun _ => List.mem_singleton_self _
  hooks := fun _ => ⟨rfl, by simp [DiagWorld.start]⟩

/-- The load at the end of an attempt also records whether a mutation was under way. -/
theorem diagCompare_spec {g : UInt32} {w : DiagWorld} (h : w.Inv g)
    : (diagCompare w).1 = (diagCompare w).2.state.generation
        ∧ (diagCompare w).2.Inv g ∧ Later w (diagCompare w).2
        ∧ (diagCompare w).2.running.isSome ∈ (diagCompare w).2.compares := by
  obtain ⟨hinv, hlater⟩ := h.elapse
  have hsubset : w.compares ⊆ (diagCompare w).2.compares :=
    List.Subset.trans hlater.compares (List.subset_append_left _ _)
  refine ⟨rfl, ?_, ?_, ?_⟩
  . refine ⟨hinv.generation, hinv.publishes, hinv.settled, ?_⟩
    intro hhooks
    obtain ⟨hnone, hcompares⟩ := hinv.hooks hhooks
    refine ⟨hnone, ?_⟩
    intro underWay hmem
    cases List.mem_append.mp hmem with
    | inl hmem => exact hcompares underWay hmem
    | inr hmem =>
      rw [List.mem_singleton.mp hmem, hnone]
      rfl
  . exact ⟨hlater.ended, hlater.begun, hlater.calm, hsubset, hlater.hooks⟩
  . exact List.mem_append_right _ (List.mem_singleton_self _)

/-- Fewer than 2^31 mutations cannot bring the generation back. -/
theorem ended_eq_of_generation {g : UInt32} {w w' : DiagWorld} (h : w.Inv g) (h' : w'.Inv g)
    (hle : w.ended ≤ w'.ended) (hfew : w'.ended < 2 ^ 31)
    (hgeneration : w.state.generation = w'.state.generation)
    : w'.ended = w.ended := by
  rw [h.generation, h'.generation] at hgeneration
  have hmul := UInt32.add_right_inj g |>.mp hgeneration
  have hmul := congrArg UInt32.toNat hmul
  simp only [UInt32.toNat_mul, UInt32.toNat_ofNat', UInt32.reduceToNat] at hmul
  omega

theorem diagSnapshot_inv {g : UInt32} (capabilities controllerEpoch : UInt32) (retries : Nat)
    {w : DiagWorld} (h : w.Inv g)
    : (diagSnapshot capabilities controllerEpoch retries w).2.Inv g
        ∧ Later w (diagSnapshot capabilities controllerEpoch retries w).2 := by
  induction retries generalizing w with
  | zero => exact ⟨h, .refl w⟩
  | succ retries ih =>
    have hload := Reads.load fun d => d.generation
    have hreads := reads_diagLoadSnapshot capabilities controllerEpoch
    have hloaded := hload.inv h
    have hread := hreads.inv hloaded
    obtain ⟨_, hcompared, hlater, _⟩ := diagCompare_spec hread
    have hlater := (hload.later h).trans ((hreads.later hloaded).trans hlater)
    unfold diagSnapshot
    dsimp only
    split
    . exact ⟨(ih hloaded).1, (hload.later h).trans (ih hloaded).2⟩
    . split
      . exact ⟨hcompared, hlater⟩
      . exact ⟨(ih hcompared).1, hlater.trans (ih hcompared).2⟩

theorem diagSnapshot_shows {g : UInt32} {capabilities controllerEpoch : UInt32} {retries : Nat}
    {w w' : DiagWorld} {snapshot : DiagSnapshot} (h : w.Inv g)
    (hrun : diagSnapshot capabilities controllerEpoch retries w = (some snapshot, w'))
    (hfew : w'.begun < 2 ^ 31) (hcompares : ∀ underWay ∈ w'.compares, underWay = false)
    : ∃ c ∈ w'.settled, snapshot.Shows c := by
  induction retries generalizing w with
  | zero => simp [diagSnapshot] at hrun
  | succ retries ih =>
    have hloaded := (Reads.load fun d => d.generation).inv h
    have hreads := reads_diagLoadSnapshot capabilities controllerEpoch
    unfold diagSnapshot at hrun
    have hgeneration : (diagLoad (fun d => d.generation) w).1
        = (diagLoad (fun d => d.generation) w).2.state.generation := rfl
    generalize diagLoad (fun d => d.generation) w = loaded at *
    have hread := hreads.inv hloaded
    have hlaterRead := hreads.later hloaded
    have hvalue := hreads.value hloaded
    dsimp only at hrun
    generalize diagLoadSnapshot capabilities controllerEpoch loaded.2 = read at *
    obtain ⟨hsame, hcompared, hlaterCompared, hflag⟩ := diagCompare_spec hread
    generalize diagCompare read.2 = compared at *
    split at hrun
    . exact ih hloaded hrun
    . split at hrun
      . next heq =>
        simp only [Prod.mk.injEq, Option.some.injEq] at hrun
        obtain ⟨rfl, rfl⟩ := hrun
        -- nothing is under way at the comparison and nothing has ended since the first load
        have hnone : compared.2.running = none := by
          have := hcompares _ hflag
          simpa using this
        have hlater := hlaterRead.trans hlaterCompared
        have hended := ended_eq_of_generation hloaded hcompared hlater.ended
          (Nat.lt_of_le_of_lt (ended_le_begun _) hfew) (by rw [← hgeneration, ← hsame, heq])
        have hbegun := begun_of_none hnone
        have hle := hlaterRead.begun
        have hle' := hlaterCompared.begun
        have hle'' := ended_le_begun loaded.2
        have hquiet : loaded.2.running = none := by
          cases hrunning : loaded.2.running with
          | none => rfl
          | some run =>
            have := begun_of_some hrunning
            omega
        obtain ⟨hstate, _⟩ := hlater.calm (by omega) hquiet
        refine ⟨compared.2.state.contents, hcompared.settled hnone, ?_⟩
        rw [hvalue (by omega) hquiet, hstate]
        exact shows_view _ _ _ _
      . exact ih hcompared hrun

/--
A snapshot shows the contents between two mutations if no mutation is under way whenever it compares
the generation, as the critical section hooks make sure.
-/
theorem diagSnapshot_settled (hooks : Bool) (state : DiagState) (gaps : List (List DiagMove))
    (capabilities controllerEpoch : UInt32) (retries : Nat) (snapshot : DiagSnapshot)
    (w : DiagWorld)
    (hrun : diagSnapshot capabilities controllerEpoch retries (.start hooks state gaps)
      = (some snapshot, w))
    (hfew : w.begun < 2 ^ 31)
    (hcompares : hooks = true ∨ ∀ underWay ∈ w.compares, underWay = false)
    : ∃ c ∈ w.settled, snapshot.Shows c := by
  have hstart := DiagWorld.inv_start hooks state gaps
  obtain ⟨hinv, hlater⟩ := diagSnapshot_inv capabilities controllerEpoch retries hstart
  rw [hrun] at hinv hlater
  apply diagSnapshot_shows hstart hrun hfew
  cases hcompares with
  | inl hhooks => exact (hinv.hooks (hlater.hooks.trans hhooks)).2
  | inr hcompares => exact hcompares

/-- The report of a completed request. -/
def diagCompletion : DiagRecord := ⟨2, 0, 7, 1, 0, 0, 0, 0, 0, 0, 0⟩

/-- A record that ends within the first attempt. -/
def diagOvertaken : DiagWorld :=
  .start false ⟨.zero, 0⟩ [[], [.start (.record diagCompletion)], List.replicate 15 .store]

theorem diagSnapshot_settled_retried
    : ∃ snapshot w, diagSnapshot 0 0 2 diagOvertaken = (some snapshot, w) ∧
        ∃ c ∈ w.settled, snapshot.Shows c := by
  have hsome : (diagSnapshot 0 0 2 diagOvertaken).1.isSome := by decide +kernel
  obtain ⟨snapshot, hsnapshot⟩ := Option.isSome_iff_exists.mp hsome
  have hrun : diagSnapshot 0 0 2 diagOvertaken
      = (some snapshot, (diagSnapshot 0 0 2 diagOvertaken).2) :=
    Prod.ext hsnapshot rfl
  exact ⟨_, _, hrun, diagSnapshot_settled false ⟨.zero, 0⟩ _ 0 0 2 _ _ hrun (by decide +kernel)
    (.inr (by decide +kernel))⟩

/-- A record that has not got beyond its sequence number. -/
def diagTorn : DiagWorld :=
  .start false ⟨.zero, 0⟩ [[.start (.record diagCompletion), .store]]

/-- Without the hooks a snapshot within a record shows its sequence number without its event. -/
theorem diagSnapshot_not_settled
    : ∃ snapshot w, diagSnapshot 0 0 1 diagTorn = (some snapshot, w) ∧
        w.begun < 2 ^ 31 ∧ ∀ c ∈ w.moments, ¬ snapshot.Shows c := by
  have hsome : (diagSnapshot 0 0 1 diagTorn).1.isSome := by decide +kernel
  obtain ⟨snapshot, hsnapshot⟩ := Option.isSome_iff_exists.mp hsome
  have hrun : diagSnapshot 0 0 1 diagTorn = (some snapshot, (diagSnapshot 0 0 1 diagTorn).2) :=
    Prod.ext hsnapshot rfl
  have hother : (diagSnapshot 0 0 1 diagTorn).2.moments.all fun c =>
      (diagSnapshot 0 0 1 diagTorn).1.all fun snapshot =>
        snapshot.nextSequence ≠ c.nextSequence || snapshot.events ≠ c.recorded := by
    decide +kernel
  refine ⟨_, _, hrun, by decide +kernel, ?_⟩
  intro c hmem hshows
  have := List.all_eq_true.mp hother c hmem
  rw [hsnapshot] at this
  simp [hshows.nextSequence, hshows.events] at this

namespace DiagContents

theorem foldl_modifyEvent (i : Fin 64) (fs : List (DiagEvent → DiagEvent)) (c : DiagContents)
    : (fs.map (modifyEvent i)).foldl (fun c store => store c) c
        =
      modifyEvent i (fun e => fs.foldl (fun e f => f e) e) c := by
  induction fs generalizing c with
  | nil =>
    unfold modifyEvent
    simp only [List.map_nil, List.foldl_nil, Function.update_eq_self]
  | cons f fs ih =>
    rw [List.map_cons, List.foldl_cons, ih]
    unfold modifyEvent
    simp only [Function.update_self, Function.update_idem, List.foldl_cons]

theorem foldl_setCounter (l : List (Fin 16)) (c : DiagContents)
    : (l.map fun i => setCounter i 0).foldl (fun c store => store c) c
        =
      { c with counters := fun i => if i ∈ l then 0 else c.counters i } := by
  induction l generalizing c with
  | nil => rfl
  | cons j l ih =>
    rw [List.map_cons, List.foldl_cons, ih]
    unfold setCounter
    congr 1
    funext i
    by_cases hl : i ∈ l
    . simp [hl]
    . by_cases hj : i = j <;> simp [hl, hj]

theorem foldl_zeroStores (l : List (Fin 64)) (c : DiagContents)
    : (l.flatMap fun i => DiagEvent.zeroStores.map (modifyEvent i)).foldl
          (fun c store => store c) c
        =
      { c with events := fun i => if i ∈ l then .zero else c.events i } := by
  induction l generalizing c with
  | nil => rfl
  | cons j l ih =>
    rw [List.flatMap_cons, List.foldl_append, foldl_modifyEvent, ih]
    unfold modifyEvent
    congr 1
    funext i
    by_cases hl : i ∈ l
    . simp [hl]
    . by_cases hj : i = j
      . subst hj
        simp only [hl, if_false, Function.update_self, List.mem_cons_self, if_true]
        rfl
      . simp [hl, hj]

end DiagContents

def DiagRecord.event (r : DiagRecord) (sequence : UInt32) : DiagEvent where
  sequence := sequence
  requestId := r.requestId
  controllerEpoch := r.controllerEpoch
  detail := r.detail
  timestamp := r.timestamp
  type := r.type
  status := r.status
  address := r.address
  topology := r.topology
  endpoint := r.endpoint
  direction := r.direction
  schedule := r.schedule

namespace DiagState

theorem contents_apply_of_some {d : DiagState} {m : DiagMutation} {stores : List DiagStore}
    (h : m.stores d.contents = some stores)
    : (d.apply m).contents = stores.foldl (fun c store => store c) d.contents := by
  unfold apply
  rw [h]

theorem apply_of_none {d : DiagState} {m : DiagMutation} (h : m.stores d.contents = none)
    : d.apply m = d := by
  unfold apply
  rw [h]

theorem apply_reset (d : DiagState) : (d.apply .reset).contents = .zero := by
  unfold apply DiagMutation.stores
  dsimp only
  rw [List.foldl_append, List.foldl_append, DiagContents.foldl_zeroStores]
  rw [DiagContents.foldl_setCounter]
  simp only [List.mem_finRange, if_true]
  rfl

theorem apply_record (d : DiagState) (r : DiagRecord)
    : (d.apply (.record r)).contents
        =
      { nextSequence := d.contents.nextSequence + 1
        lostEvents :=
          if diagEventCount < d.contents.nextSequence + 1 then
            d.contents.lostEvents + 1
          else
            d.contents.lostEvents
        counters := d.contents.counters
        events := Function.update d.contents.events (diagRingIndex (d.contents.nextSequence + 1))
          (r.event (d.contents.nextSequence + 1)) } := by
  unfold apply DiagMutation.stores
  dsimp only
  rw [List.cons_append, List.foldl_cons, List.foldl_append, DiagContents.foldl_modifyEvent]
  split <;> rfl

theorem apply_count (d : DiagState) (counter : UInt32)
    : (d.apply (.count counter)).contents
        =
      { d.contents with
        counters := fun i =>
          if counter.toNat = i.val then d.contents.counters i + 1 else d.contents.counters i } := by
  by_cases hlt : counter < diagCounterCount
  . have hstores : (DiagMutation.count counter).stores d.contents = some _ := dif_pos hlt
    rw [contents_apply_of_some hstores, List.foldl_cons, List.foldl_nil]
    unfold DiagContents.setCounter
    congr 1
    funext i
    by_cases heq : counter.toNat = i.val
    . have hi : (⟨counter.toNat, UInt32.lt_iff_toNat_lt.mp hlt⟩ : Fin 16) = i := Fin.ext heq
      rw [hi, Function.update_self, if_pos heq]
    . rw [if_neg heq, Function.update_of_ne]
      intro hi
      rw [hi] at heq
      exact heq rfl
  . have hstores : (DiagMutation.count counter).stores d.contents = none := dif_neg hlt
    rw [apply_of_none hstores]
    -- a counter that does not exist is not counted
    have hcounter : ∀ i : Fin 16, counter.toNat ≠ i.val := by
      intro i heq
      apply hlt
      rw [UInt32.lt_iff_toNat_lt, heq]
      exact i.isLt
    simp only [hcounter, if_false]

theorem apply_highWater (d : DiagState) (depth : UInt32)
    : ∃ value, (d.apply (.highWater depth)).contents
        = d.contents.setCounter countQueueHighWater value := by
  by_cases hle : depth ≤ d.contents.counters countQueueHighWater
  . have hstores : (DiagMutation.highWater depth).stores d.contents = some _ := if_pos hle
    refine ⟨d.contents.counters countQueueHighWater, ?_⟩
    rw [contents_apply_of_some hstores]
    unfold DiagContents.setCounter
    rw [Function.update_eq_self]
    rfl
  . have hstores : (DiagMutation.highWater depth).stores d.contents = some _ := if_neg hle
    refine ⟨depth, ?_⟩
    rw [contents_apply_of_some hstores]
    rfl

theorem apply_even (d : DiagState) (m : DiagMutation) (h : d.generation &&& 1 = 0)
    : (d.apply m).generation &&& 1 = 0 := by
  cases hstores : m.stores d.contents with
  | none =>
    unfold apply
    rw [hstores]
    exact h
  | some stores =>
    rw [DiagWorld.apply_generation hstores]
    apply UInt32.toNat.inj
    have h := congrArg UInt32.toNat h
    simp only [UInt32.toNat_and, UInt32.toNat_add, UInt32.reduceToNat, Nat.and_one_is_mod] at h ⊢
    omega

def applyAll (d : DiagState) (ms : List DiagMutation) : DiagState := ms.foldl apply d

theorem applyAll_even (d : DiagState) (ms : List DiagMutation) (h : d.generation &&& 1 = 0)
    : (d.applyAll ms).generation &&& 1 = 0 := by
  induction ms generalizing d with
  | nil => exact h
  | cons m ms ih => exact ih (d.apply m) (apply_even d m h)

end DiagState

namespace DiagMutation

def isReset (m : DiagMutation) : Bool :=
  match m with
  | .reset => true
  | _ => false

def recorded? (m : DiagMutation) : Option DiagRecord :=
  match m with
  | .record r => some r
  | _ => none

def counts (i : Fin 16) (m : DiagMutation) : Bool :=
  match m with
  | .count counter => counter.toNat = i.val
  | _ => false

end DiagMutation

def sinceReset (ms : List DiagMutation) : List DiagMutation := ms.rtakeWhile fun m => !m.isReset

def diagRecords (ms : List DiagMutation) : List DiagRecord := ms.filterMap DiagMutation.recorded?

/-- The events that a history of records since the last reset leaves, the oldest ones lost. -/
def lastEvents (records : List DiagRecord) : List DiagEvent :=
  ((records.zipIdx 1).map fun p => p.1.event p.2.toUInt32).drop (records.length - 64)

/-- What the contents are after the mutations `ms` since a reset. -/
structure Ring (c : DiagContents) (ms : List DiagMutation) : Prop where
  next : c.nextSequence.toNat = (diagRecords ms).length
  lost : c.lostEvents.toNat = (diagRecords ms).length - 64
  events : ∀ k, (h : k < (diagRecords ms).length) → (diagRecords ms).length ≤ k + 64 →
    c.events (Fin.ofNat 64 k) = (diagRecords ms)[k].event (k + 1).toUInt32
  counters : ∀ i, i ≠ countQueueHighWater → c.counters i = (ms.countP (·.counts i)).toUInt32

namespace Ring

theorem zero : Ring .zero [] where
  next := rfl
  lost := rfl
  events := by
    intro k h
    contradiction
  counters := fun _ _ => rfl

theorem diagRecords_concat_of_none {ms : List DiagMutation} {m : DiagMutation}
    (h : m.recorded? = none)
    : diagRecords (ms ++ [m]) = diagRecords ms := by
  unfold diagRecords
  rw [List.filterMap_append, List.filterMap_cons, h]
  exact List.append_nil _

theorem diagRecords_concat_record (ms : List DiagMutation) (r : DiagRecord)
    : diagRecords (ms ++ [.record r]) = diagRecords ms ++ [r] := by
  unfold diagRecords
  rw [List.filterMap_append]
  rfl

theorem countP_concat (ms : List DiagMutation) (m : DiagMutation) (i : Fin 16)
    : (ms ++ [m]).countP (·.counts i) = ms.countP (·.counts i) + if m.counts i then 1 else 0 := by
  rw [List.countP_append, List.countP_singleton]

theorem step {d : DiagState} {ms : List DiagMutation} (h : Ring d.contents ms) {m : DiagMutation}
    (hm : m.isReset = false) (hfew : (diagRecords (ms ++ [m])).length < 2 ^ 32)
    : Ring (d.apply m).contents (ms ++ [m]) := by
  cases m with
  | reset => contradiction
  | count counter =>
    rw [DiagState.apply_count]
    have hrecords : diagRecords (ms ++ [.count counter]) = diagRecords ms :=
      diagRecords_concat_of_none rfl
    refine ⟨?_, ?_, ?_, ?_⟩
    . rw [hrecords]
      exact h.next
    . rw [hrecords]
      exact h.lost
    . simp only [hrecords]
      exact h.events
    . intro i hi
      rw [countP_concat]
      dsimp only
      rw [h.counters i hi]
      have hcounts : (DiagMutation.count counter).counts i = decide (counter.toNat = i.val) := rfl
      rw [hcounts]
      split
      . next heq =>
        simp only [heq, decide_true, if_true, Nat.toUInt32_eq, UInt32.ofNat_add]
        rfl
      . next hne =>
        simp only [hne, decide_false, Bool.false_eq_true, if_false, Nat.add_zero]
  | highWater depth =>
    obtain ⟨value, hvalue⟩ := DiagState.apply_highWater d depth
    have hrecords : diagRecords (ms ++ [.highWater depth]) = diagRecords ms :=
      diagRecords_concat_of_none rfl
    rw [hvalue]
    refine ⟨?_, ?_, ?_, ?_⟩
    . rw [hrecords]
      exact h.next
    . rw [hrecords]
      exact h.lost
    . simp only [hrecords]
      exact h.events
    . intro i hi
      rw [countP_concat]
      unfold DiagContents.setCounter
      dsimp only
      rw [Function.update_of_ne hi, h.counters i hi]
      rfl
  | record r =>
    have hnext := h.next
    have hlost := h.lost
    rw [diagRecords_concat_record, List.length_append, List.length_singleton] at hfew
    have hsequence : (d.contents.nextSequence + 1).toNat = (diagRecords ms).length + 1 := by
      rw [UInt32.toNat_add, hnext]
      exact Nat.mod_eq_of_lt hfew
    have hindex : diagRingIndex (d.contents.nextSequence + 1)
        = Fin.ofNat 64 (diagRecords ms).length := by
      unfold diagRingIndex
      rw [UInt32.add_sub_cancel, hnext]
    rw [DiagState.apply_record]
    refine ⟨?_, ?_, ?_, ?_⟩
    . rw [diagRecords_concat_record, List.length_append]
      exact hsequence
    . rw [diagRecords_concat_record, List.length_append, List.length_singleton]
      dsimp only
      have hlt : diagEventCount < d.contents.nextSequence + 1
          ↔ 64 < (diagRecords ms).length + 1 := by
        rw [UInt32.lt_iff_toNat_lt, hsequence]
        rfl
      split
      . next hmany =>
        have := hlt.mp hmany
        rw [UInt32.toNat_add, hlost]
        show ((diagRecords ms).length - 64 + 1) % 2 ^ 32 = _
        rw [Nat.mod_eq_of_lt (by omega)]
        omega
      . next hfits =>
        have := (not_congr hlt).mp hfits
        omega
    . intro k hk hlast
      simp only [diagRecords_concat_record, List.length_append, List.length_singleton] at hk hlast ⊢
      rw [hindex]
      by_cases heq : k = (diagRecords ms).length
      . subst heq
        rw [Function.update_self, List.getElem_concat_length rfl]
        congr 1
        apply UInt32.toNat.inj
        rw [hsequence]
        exact (UInt32.toNat_ofNat_of_lt' hfew).symm
      . have hlt : k < (diagRecords ms).length := by omega
        rw [Function.update_of_ne, List.getElem_append_left hlt]
        . exact h.events k hlt (by omega)
        . intro hsame
          have := congrArg Fin.val hsame
          simp only [Fin.val_ofNat] at this
          omega
    . intro i hi
      rw [countP_concat]
      exact h.counters i hi

theorem run {d : DiagState} {ms ms' : List DiagMutation} (h : Ring d.contents ms)
    (hm : ∀ m ∈ ms', m.isReset = false) (hfew : (diagRecords (ms ++ ms')).length < 2 ^ 32)
    : Ring (d.applyAll ms').contents (ms ++ ms') := by
  induction ms' generalizing d ms with
  | nil =>
    rw [List.append_nil]
    exact h
  | cons m ms' ih =>
    rw [List.append_cons] at hfew ⊢
    apply ih
    . apply h.step
      . exact hm m (List.mem_cons_self ..)
      . unfold diagRecords at hfew ⊢
        rw [List.filterMap_append, List.length_append] at hfew
        omega
    . intro m' hm'
      exact hm m' (List.mem_cons_of_mem _ hm')
    . exact hfew

end Ring

/-- What happened before the last reset does not matter. -/
theorem ring_applyAll {ms : List DiagMutation}
    (hfew : (diagRecords (sinceReset ms)).length < 2 ^ 32)
    : Ring (DiagState.applyAll ⟨.zero, 0⟩ ms).contents (sinceReset ms) := by
  unfold sinceReset at hfew ⊢
  have hsplit := List.rdropWhile_append_rtakeWhile (p := fun m : DiagMutation => !m.isReset) (l := ms)
  have hlast := List.rdropWhile_last_not (fun m : DiagMutation => !m.isReset) ms
  have hsince : ∀ m ∈ ms.rtakeWhile (fun m => !m.isReset), m.isReset = false := by
    intro m hm
    have := List.mem_rtakeWhile_imp hm
    simpa using this
  generalize ms.rtakeWhile (fun m => !m.isReset) = since at *
  generalize ms.rdropWhile (fun m => !m.isReset) = before at *
  rw [← hsplit]
  unfold DiagState.applyAll
  rw [List.foldl_append]
  have hstart : Ring (before.foldl DiagState.apply ⟨.zero, 0⟩).contents [] := by
    cases List.eq_nil_or_concat before with
    | inl hnil =>
      rw [hnil]
      exact Ring.zero
    | inr hconcat =>
      obtain ⟨ms', m, heq⟩ := hconcat
      rw [List.concat_eq_append] at heq
      subst heq
      have hreset := hlast (by simp)
      rw [List.getLast_concat] at hreset
      rw [List.foldl_append, List.foldl_cons, List.foldl_nil]
      cases m with
      | reset =>
        rw [DiagState.apply_reset]
        exact Ring.zero
      | _ => simp [DiagMutation.isReset] at hreset
  exact hstart.run hsince hfew

theorem DiagContents.ringEvents_eq_map {c : DiagContents} {first : UInt32} {indices : List Nat}
    (h : ∀ i ∈ indices,
      (c.events (diagRingIndex (first + i.toUInt32))).sequence = first + i.toUInt32)
    : c.ringEvents first indices
        =
      indices.map fun i => c.events (diagRingIndex (first + i.toUInt32)) := by
  induction indices with
  | nil => rfl
  | cons i indices ih =>
    unfold ringEvents
    dsimp only
    rw [if_neg (not_not.mpr (h i (List.mem_cons_self ..))), List.map_cons]
    rw [ih fun j hj => h j (List.mem_cons_of_mem _ hj)]

theorem Ring.recorded {c : DiagContents} {ms : List DiagMutation} (h : Ring c ms)
    : c.recorded = lastEvents (diagRecords ms) := by
  have hnext := h.next
  have hlt := c.nextSequence.toNat_lt
  unfold DiagContents.recorded
  dsimp only
  have hcount : (if c.nextSequence < diagEventCount then c.nextSequence else diagEventCount).toNat
      = min (diagRecords ms).length 64 := by
    split
    . next hshort =>
      have : c.nextSequence.toNat < 64 := UInt32.lt_iff_toNat_lt.mp hshort
      omega
    . next hlong =>
      have : ¬ c.nextSequence.toNat < 64 := fun hshort => hlong (UInt32.lt_iff_toNat_lt.mpr hshort)
      show 64 = _
      omega
  generalize (if c.nextSequence < diagEventCount then c.nextSequence else diagEventCount) = count at *
  generalize hrecords : diagRecords ms = records at *
  -- the event that the loop loads for `i`
  have hevent (i : Nat) (hi : i < min records.length 64) (hk : records.length - 64 + i < records.length)
      : c.events (diagRingIndex ((if count ≠ 0 then c.nextSequence - count + 1 else 0) + i.toUInt32))
            = records[records.length - 64 + i].event (records.length - 64 + i + 1).toUInt32
          ∧ (if count ≠ 0 then c.nextSequence - count + 1 else 0) + i.toUInt32
            = (records.length - 64 + i + 1).toUInt32 := by
    have hpos : count ≠ 0 := by
      intro hzero
      rw [hzero] at hcount
      have : 0 = min records.length 64 := hcount
      omega
    have hle : count ≤ c.nextSequence := by
      rw [UInt32.le_iff_toNat_le]
      omega
    have hsequence : c.nextSequence - count + 1 + i.toUInt32
        = (records.length - 64 + i + 1).toUInt32 := by
      apply UInt32.toNat.inj
      rw [UInt32.toNat_add, UInt32.toNat_add, UInt32.toNat_sub_of_le _ _ hle, hnext, hcount]
      simp only [Nat.toUInt32_eq, UInt32.toNat_ofNat', UInt32.reduceToNat]
      omega
    rw [if_pos hpos, hsequence]
    refine ⟨?_, rfl⟩
    have hindex : diagRingIndex (records.length - 64 + i + 1).toUInt32
        = Fin.ofNat 64 (records.length - 64 + i) := by
      have hsub : (records.length - 64 + i + 1).toUInt32 - 1
          = (records.length - 64 + i).toUInt32 := by
        rw [Nat.toUInt32_eq, Nat.toUInt32_eq, UInt32.ofNat_add]
        exact UInt32.add_sub_cancel _ _
      unfold diagRingIndex
      rw [hsub, Nat.toUInt32_eq, UInt32.toNat_ofNat_of_lt' (by simp only [UInt32.size]; omega)]
    rw [hindex]
    have := h.events (records.length - 64 + i) (by rw [hrecords]; exact hk)
      (by rw [hrecords]; omega)
    simp only [hrecords] at this
    exact this
  rw [DiagContents.ringEvents_eq_map]
  . unfold lastEvents
    apply List.ext_getElem
    . simp only [List.length_map, List.length_range, List.length_drop, List.length_zipIdx]
      omega
    . intro i hi hi'
      simp only [List.length_map, List.length_range] at hi
      rw [hcount] at hi
      rw [List.getElem_map, List.getElem_range, List.getElem_drop, List.getElem_map]
      rw [List.getElem_zipIdx, (hevent i hi (by omega)).1, Nat.add_comm 1]
  . intro i hi
    have hi := List.mem_range.mp hi
    rw [hcount] at hi
    obtain ⟨hevent, hsequence⟩ := hevent i hi (by omega)
    rw [hevent, hsequence]
    rfl

/-- A snapshot that nothing interrupts succeeds at once. -/
theorem diagSnapshot_quiet (hooks : Bool) {d : DiagState} (h : d.generation &&& 1 = 0)
    (capabilities controllerEpoch : UInt32) (retries : Nat)
    : (diagSnapshot capabilities controllerEpoch (retries + 1) (.start hooks d [])).1
        =
      some { d.contents.view capabilities controllerEpoch with generation := d.generation } := by
  have hstart := DiagWorld.inv_start hooks d []
  have hreads := reads_diagLoadSnapshot capabilities controllerEpoch
  have hquiet := hreads.quiet (w := .start hooks d []) rfl
  have hvalue := hreads.value hstart (by rw [hquiet]) rfl
  unfold diagSnapshot
  dsimp only
  have hload : diagLoad (fun d => d.generation) (.start hooks d []) = (d.generation, .start hooks d []) :=
    rfl
  rw [hload]
  dsimp only
  rw [if_neg (not_not.mpr h), hquiet, hvalue]
  exact congrArg Prod.fst (if_pos rfl)

/--
What a snapshot shows after any calls: the records since the last reset with the oldest lost, and
the counters modulo 2^32.
-/
theorem diagSnapshot_ring (hooks : Bool) (ms : List DiagMutation)
    (capabilities controllerEpoch : UInt32) (retries : Nat)
    (hfew : (diagRecords (sinceReset ms)).length < 2 ^ 32)
    : ∃ snapshot,
        (diagSnapshot capabilities controllerEpoch (retries + 1)
            (.start hooks (DiagState.applyAll ⟨.zero, 0⟩ ms) [])).1 = some snapshot
          ∧ snapshot.nextSequence.toNat = (diagRecords (sinceReset ms)).length
          ∧ snapshot.lostEvents.toNat = (diagRecords (sinceReset ms)).length - 64
          ∧ snapshot.eventCount.toNat = min (diagRecords (sinceReset ms)).length 64
          ∧ snapshot.events = lastEvents (diagRecords (sinceReset ms))
          ∧ ∀ i, i ≠ countQueueHighWater →
            snapshot.counters[i.val]? = some ((sinceReset ms).countP (·.counts i)).toUInt32 := by
  have hring := ring_applyAll hfew
  have heven := DiagState.applyAll_even ⟨.zero, 0⟩ ms rfl
  refine ⟨_, diagSnapshot_quiet hooks heven capabilities controllerEpoch retries, ?_⟩
  refine ⟨hring.next, hring.lost, ?_, hring.recorded, ?_⟩
  . have hlength : (lastEvents (diagRecords (sinceReset ms))).length
        = min (diagRecords (sinceReset ms)).length 64 := by
      unfold lastEvents
      simp only [List.length_drop, List.length_map, List.length_zipIdx]
      omega
    show (DiagContents.recorded _).length.toUInt16.toNat = _
    rw [hring.recorded, hlength, Nat.toUInt16_eq, UInt16.toNat_ofNat_of_lt' (by simp only [UInt16.size]; omega)]
  . intro i hi
    have hget : ((List.finRange 16).map (DiagState.applyAll ⟨.zero, 0⟩ ms).contents.counters)[i.val]?
        = some ((DiagState.applyAll ⟨.zero, 0⟩ ms).contents.counters i) := by
      simp
    show ((List.finRange 16).map _)[i.val]? = _
    rw [hget, hring.counters i hi]

theorem diagSnapshot_ring_reset
    : (diagSnapshot 0 0 1 (.start true
          (DiagState.applyAll ⟨.zero, 0⟩ [.record diagCompletion, .reset, .count 3]) [])).1.any
        fun snapshot => snapshot.counters[3]? = some 1 := by
  obtain ⟨snapshot, hsnapshot, _, _, _, _, hcounters⟩ :=
    diagSnapshot_ring true [.record diagCompletion, .reset, .count 3] 0 0 0 (by decide)
  rw [hsnapshot]
  exact decide_eq_true (hcounters 3 (by decide))

theorem sinceReset_counts (n : Nat) (counter : UInt32)
    : sinceReset (List.replicate n (.count counter)) = List.replicate n (.count counter) := by
  unfold sinceReset
  rw [List.rtakeWhile_eq_self_iff]
  intro m hm
  rw [List.eq_of_mem_replicate hm]
  rfl

theorem diagRecords_counts (n : Nat) (counter : UInt32)
    : diagRecords (List.replicate n (.count counter)) = [] := by
  unfold diagRecords
  rw [List.filterMap_replicate_of_none rfl]

theorem counters_counts (n : Nat)
    : (DiagState.applyAll ⟨.zero, 0⟩ (List.replicate n (.count 0))).contents.counters 0
        = n.toUInt32 := by
  have hfew : (diagRecords (sinceReset (List.replicate n (.count 0)))).length < 2 ^ 32 := by
    rw [sinceReset_counts, diagRecords_counts]
    exact Nat.two_pow_pos 32
  rw [(ring_applyAll hfew).counters 0 (by decide), sinceReset_counts, List.countP_replicate]
  exact congrArg Nat.toUInt32 (if_pos rfl)

theorem diagSnapshot_counts {n : Nat} {snapshot : DiagSnapshot}
    (h : (diagSnapshot 0 0 1 (.start true
        (DiagState.applyAll ⟨.zero, 0⟩ (List.replicate n (.count 0))) [])).1 = some snapshot)
    : snapshot.counters[0]? = some n.toUInt32 := by
  have heven := DiagState.applyAll_even ⟨.zero, 0⟩ (List.replicate n (.count 0)) rfl
  rw [diagSnapshot_quiet true heven 0 0 0] at h
  rw [← Option.some.inj h]
  show ((List.finRange 16).map _)[0]? = _
  rw [List.getElem?_map]
  exact congrArg some (counters_counts n)

theorem countP_counts (n : Nat)
    : (sinceReset (List.replicate n (.count 0))).countP (·.counts 0) = n := by
  rw [sinceReset_counts, List.countP_replicate]
  exact if_pos rfl

/-- A counter is back at zero after 2^32 counts. -/
theorem diagSnapshot_counter_wraps
    : ∃ ms,
        (diagRecords (sinceReset ms)).length < 2 ^ 32
          ∧ (sinceReset ms).countP (·.counts 0) = 2 ^ 32
          ∧ ∀ snapshot,
            (diagSnapshot 0 0 1 (.start true (DiagState.applyAll ⟨.zero, 0⟩ ms) [])).1
                = some snapshot →
              snapshot.counters[0]? = some 0 := by
  have hzero : (2 ^ 32).toUInt32 = 0 := rfl
  have hpos : 0 < 2 ^ 32 := Nat.two_pow_pos 32
  generalize 2 ^ 32 = n at *
  refine ⟨List.replicate n (.count 0), ?_, countP_counts n, ?_⟩
  . rw [sinceReset_counts, diagRecords_counts]
    exact hpos
  . intro snapshot h
    rw [diagSnapshot_counts h, hzero]

end ZZUsb
