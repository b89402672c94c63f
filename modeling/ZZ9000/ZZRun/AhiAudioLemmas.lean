import ZZ9000.ZZRun.AhiAudio

/-!
This module contains what the AHI route plays: the requests of an epoch are the stream of that epoch,
frame by frame, as long as the firmware does not replace a stream in the middle of a call.
-/

namespace ZZRun

open Concurrency Streams

/-- The samples of a stream as AHI wants them. -/
def swapSamples (bytes : List UInt8) : List UInt8 :=
  match bytes with
  | low :: high :: bytes => high :: low :: swapSamples bytes
  | _ => []

theorem swapSamples_append {xs : List UInt8} (ys : List UInt8) (h : 2 ∣ xs.length)
    : swapSamples (xs ++ ys) = swapSamples xs ++ swapSamples ys := by
  match xs with
  | [] => rfl
  | [_] => simp at h
  | low :: high :: xs =>
    rw [List.length_cons, List.length_cons] at h
    have hxs : 2 ∣ xs.length := by
      omega
    simp only [List.cons_append, swapSamples]
    rw [swapSamples_append ys hxs]

theorem length_swapSamples {xs : List UInt8} (h : 2 ∣ xs.length)
    : (swapSamples xs).length = xs.length := by
  match xs with
  | [] => rfl
  | [_] => simp at h
  | low :: high :: xs =>
    rw [List.length_cons, List.length_cons] at h
    have hxs : 2 ∣ xs.length := by
      omega
    simp only [swapSamples, List.length_cons]
    rw [length_swapSamples hxs]

/-- The frames of some requests, one after the other. -/
def framesOf (requests : List AhiRequest) : List UInt8 := requests.flatMap (·.data)

theorem framesOf_append (rs rs' : List AhiRequest)
    : framesOf (rs ++ rs') = framesOf rs ++ framesOf rs' := by
  unfold framesOf
  apply List.flatMap_append

namespace AudioWorld

def submittedOf (w : AudioWorld) (epoch : UInt32) : List AhiRequest :=
  w.submitted.filter fun r => r.epoch == epoch

def completedOf (w : AudioWorld) (epoch : UInt32) : List AhiRequest :=
  w.completed.filter fun r => r.epoch == epoch

/-- The requests that ZZRun has not got back. -/
def flight (w : AudioWorld) : List AhiRequest := w.replies ++ w.device

/-- The requests for a stream are its frames from the first one on. -/
structure Played (w : AudioWorld) (s : AudioStream) : Prop where
  whole : 4 ∣ (framesOf (w.submittedOf s.epoch)).length
  length : (framesOf (w.submittedOf s.epoch)).length ≤ s.bytes.length
  frames : framesOf (w.submittedOf s.epoch)
    = swapSamples (s.bytes.take (framesOf (w.submittedOf s.epoch)).length)

/-- The tail of a stream is at the end of the first of its requests, which have been completed. -/
def Retired (w : AudioWorld) (s : AudioStream) (reaped : List AhiRequest) : Prop :=
  reaped <+: w.submittedOf s.epoch
    ∧ reaped <+: w.completedOf s.epoch
    ∧ (w.completedOf s.epoch).length ≤ reaped.length + 2
    ∧ w.header.tail = counter s.start (framesOf reaped).length

/-- Every stream is played exactly. -/
structure PlaysExactly (w : AudioWorld) : Prop where
  known : ∀ r ∈ w.submitted, ∃ s ∈ w.streams, s.epoch = r.epoch
  played : ∀ s ∈ w.streams, w.Played s
  tail : ∀ s, w.streams.head? = some s → w.intact = true → ∃ reaped, w.Retired s reaped

end AudioWorld

/-- No stream is replaced between the access to the epoch and the end of the call. -/
def AhiMark.assume (m : AhiMark) (w : AudioWorld) : Prop :=
  match m with
  | .gap events => w.seen ≠ 0 → ∀ e ∈ events, e.reopens = false
  | _ => True

def AhiMark.assert (audio : AudioAbi) (m : AhiMark) (w : AudioWorld) : Prop :=
  match m with
  | .gap events => ∀ before, before <+: events → (w.happens audio before).PlaysExactly
  | .refill slot => ∀ r ∈ w.device, r.slot ≠ slot
  | .spins => False

def audioContract (audio : AudioAbi) : Contract AudioWorld AhiMark Empty :=
  .solo AhiMark.assume (AhiMark.assert audio)

namespace AudioWorld

/-- What the variables of ZZRun say about its requests. -/
structure Books (w : AudioWorld) : Prop where
  nodup : (w.flight.map (·.slot)).Nodup
  pending : ∀ slot, w.ahi.pending slot = true → ∃ r ∈ w.flight, r.slot = slot
  flying : ∀ r ∈ w.flight, w.ahi.pending r.slot = true
    ∧ (w.ahi.pendingBytes r.slot).toNat = r.data.length ∧ r.epoch = w.ahi.streamEpoch
  idle : ∀ slot, w.ahi.pending slot = false → w.ahi.pendingBytes slot = 0

/-- AHI has been opened. -/
structure Opened (ahi : AhiState) : Prop where
  port : ahi.port = true
  request : ∀ slot, ahi.request slot = true
  buffer : ∀ slot, (ahi.buffer slot).isSome = true
  channels : ahi.channels = 2

/-- AHI is open as a whole or not at all. -/
structure Whole (w : AudioWorld) : Prop where
  opened : w.ahi.request 0 = true → Opened w.ahi
  closed : w.ahi.request 0 = false → w.flight = [] ∧ w.ahi.streamEpochValid = false
  valid : w.ahi.streamEpochValid = false → w.flight = []

/-- What has been submitted and completed, and which streams there were. -/
structure History (w : AudioWorld) : Prop where
  nodup : (w.streams.map (·.epoch)).Nodup
  known : ∀ r ∈ w.submitted, ∃ s ∈ w.streams, s.epoch = r.epoch
  completed : ∀ r ∈ w.completed, r ∈ w.submitted
  flying : ∀ r ∈ w.flight, r ∈ w.submitted
  accepted : w.ahi.streamEpochValid = true → ∃ s ∈ w.streams, s.epoch = w.ahi.streamEpoch
  played : ∀ s ∈ w.streams, w.Played s
  header : w.header.epoch ≠ 0
    → w.intact = true ∧ ∃ s, w.streams.head? = some s ∧ s.epoch = w.header.epoch

variable (audio : AudioAbi)

/-- How the ring and its counters relate to the last stream, of which `retired` bytes are gone. -/
structure Fits (w : AudioWorld) (s : AudioStream) (retired : Nat) : Prop where
  tail : w.header.tail = counter s.start retired
  head : w.header.head = counter s.start s.bytes.length
  le : retired ≤ s.bytes.length
  small : s.bytes.length - retired < 2 ^ 32
  holds : s.bytes.length - retired ≤ audio.capacity.cells
    → Holds audio.capacity w.ring s.start s.bytes retired

/-- ZZRun has accepted the stream. -/
def Owns (w : AudioWorld) (s : AudioStream) : Prop :=
  w.ahi.streamEpochValid = true ∧ w.ahi.streamEpoch = s.epoch

/-- The requests of the stream that ZZRun has accepted. It has not yet published `taken`. -/
structure Exact (w : AudioWorld) (s : AudioStream) (reaped taken : List AhiRequest) : Prop where
  submitted : w.submittedOf s.epoch = reaped ++ (taken ++ w.flight)
  completed : w.completedOf s.epoch = reaped ++ (taken ++ w.replies)
  few : taken.length + w.flight.length ≤ 2

/-- The requests of a stream that ZZRun has not accepted, or that it is about to drop. -/
structure Loose (w : AudioWorld) (s : AudioStream) (reaped : List AhiRequest) : Prop where
  submitted : reaped <+: w.submittedOf s.epoch
  completed : reaped <+: w.completedOf s.epoch
  few : (w.completedOf s.epoch).length + (w.device.filter fun r => r.epoch == s.epoch).length
    ≤ reaped.length + 2

/-- ZZRun cannot accept the stream that is open. -/
def Barred (w : AudioWorld) : Prop :=
  w.launcherAhi = false ∨ (w.header.epoch ≠ 0 → w.header.route ≠ audio.routeAhi)

/-- The last stream between two calls. -/
def Follows (w : AudioWorld) (s : AudioStream) : Prop :=
  ∃ reaped, (w.intact = true → w.Fits audio s (framesOf reaped).length)
    ∧ ((w.Owns s ∧ w.Exact s reaped [])
      ∨ (¬w.Owns s ∧ w.Loose s reaped ∧ (w.submittedOf s.epoch = [] ∨ w.Barred audio)))

/-- The last stream while its requests are dropped. -/
def Drops (w : AudioWorld) (s : AudioStream) : Prop :=
  ∃ reaped, (w.intact = true → w.Fits audio s (framesOf reaped).length)
    ∧ w.Loose s reaped ∧ (w.submittedOf s.epoch = [] ∨ w.Barred audio)

variable {audio : AudioAbi} {w w' : AudioWorld}

theorem Books.congr (h : Books w) (hflight : w'.flight = w.flight) (hahi : w'.ahi = w.ahi)
    : Books w' := by
  constructor
  . rw [hflight]
    exact h.nodup
  . rw [hflight, hahi]
    exact h.pending
  . rw [hflight, hahi]
    exact h.flying
  . rw [hahi]
    exact h.idle

theorem Whole.congr (h : Whole w) (hflight : w'.flight = w.flight) (hahi : w'.ahi = w.ahi)
    : Whole w' := by
  constructor
  . rw [hahi]
    exact h.opened
  . rw [hflight, hahi]
    exact h.closed
  . rw [hflight, hahi]
    exact h.valid

theorem submittedOf_congr (h : w'.submitted = w.submitted) (epoch : UInt32)
    : w'.submittedOf epoch = w.submittedOf epoch := by
  unfold submittedOf
  rw [h]

theorem Played.congr {s : AudioStream} (h : w.Played s) (hsubmitted : w'.submitted = w.submitted)
    : w'.Played s := by
  constructor
  . rw [submittedOf_congr hsubmitted]
    exact h.whole
  . rw [submittedOf_congr hsubmitted]
    exact h.length
  . rw [submittedOf_congr hsubmitted]
    exact h.frames

/-- A stream that goes on has been played as before. -/
theorem Played.append {s : AudioStream} (h : w.Played s) (bytes : List UInt8)
    : w.Played { s with bytes := s.bytes ++ bytes } where
  whole := h.whole
  length := by
    apply Nat.le_trans h.length
    rw [List.length_append]
    omega
  frames := by
    rw [List.take_append_of_le_length h.length]
    exact h.frames

section Events

variable (audio) (w : AudioWorld) (e : AudioEvent)

theorem complete_cases
    : w.complete = w
        ∨ ∃ r device, w.device = r :: device ∧ w.complete
          = { w with device, replies := w.replies ++ [r], completed := w.completed ++ [r] } := by
  unfold complete
  split
  . exact .inl rfl
  . next r device heq => exact .inr ⟨r, device, heq, rfl⟩

theorem append_cases (bytes : List UInt8)
    : w.append audio bytes = w
        ∨ ∃ s streams, w.streams = s :: streams ∧ w.header.epoch ≠ 0
          ∧ (w.header.head - w.header.tail).toNat + bytes.length ≤ audio.capacity.cells
          ∧ w.append audio bytes
            =
          {
            w with
            ring := Streams.write audio.capacity w.ring w.header.head 0 bytes
            header := { w.header with head := counter w.header.head bytes.length }
            streams := { s with bytes := s.bytes ++ bytes } :: streams
          } := by
  unfold append
  split
  . exact .inl rfl
  . next s streams heq =>
    split
    . next h => exact .inr ⟨s, streams, heq, h.1, h.2.2, rfl⟩
    . exact .inl rfl

theorem openStream_cases (epoch : UInt32)
    : w.openStream audio epoch = w
        ∨ epoch ≠ 0 ∧ (∀ s ∈ w.streams, s.epoch ≠ epoch) ∧ w.openStream audio epoch
          =
        {
          w with
          header := { w.header with epoch }
          streams :=
            {
              epoch, start := w.header.tail
              bytes := window audio.capacity w.ring w.header.tail
                (w.header.head - w.header.tail).toNat
            } :: w.streams
          intact := true
        } := by
  unfold openStream
  split
  . next h => exact .inr ⟨h.2.1, h.2.2, rfl⟩
  . exact .inl rfl

/--
A write to the header, by which no stream is opened: it leaves the header alone, or the epoch is 0
after it.
-/
def WritesHeader (w' : AudioWorld) (e : AudioEvent) : Prop :=
  ∃ header intact, w' = { w with header, intact }
    ∧ (header.epoch ≠ 0 → header = w.header ∧ intact = w.intact)
    ∧ (intact = true → w.intact = true ∧ header.head = w.header.head
      ∧ header.tail = w.header.tail)
    ∧ (e.reopens = false → intact = w.intact)

theorem writesHeader_refl : w.WritesHeader w e := by
  refine ⟨w.header, w.intact, rfl, ?_, ?_, ?_⟩ <;> simp

theorem writesHeader_write {f : AudioHeader → AudioHeader}
    (hepoch : (f w.header).epoch = w.header.epoch)
    (hcounters : (f w.header).head = w.header.head ∧ (f w.header).tail = w.header.tail)
    : w.WritesHeader (w.write f) e := by
  unfold write
  split
  . next hzero =>
    refine ⟨f w.header, w.intact, rfl, ?_, ?_, ?_⟩ <;> simp [hepoch, hzero, hcounters]
  . exact writesHeader_refl w e

/-- The counters are written only while no stream is open. -/
theorem writesHeader_counters {header : AudioHeader} (hepoch : header.epoch = w.header.epoch)
    (he : e.reopens = true)
    : w.WritesHeader (if w.header.epoch = 0 then { w with header, intact := false } else w) e := by
  split
  . next hzero =>
    refine ⟨header, false, rfl, ?_, ?_, ?_⟩ <;> simp [hepoch, hzero, he]
  . exact writesHeader_refl w e

/-- The steps of the others, one case for each thing that they can change. -/
theorem happen_cases
    : w.WritesHeader (w.happen audio e) e
      ∨ (∃ epoch, e = .writeEpoch epoch ∧ epoch ≠ 0 ∧ (∀ s ∈ w.streams, s.epoch ≠ epoch)
        ∧ w.happen audio e
          =
        {
          w with
          header := { w.header with epoch }
          streams :=
            {
              epoch, start := w.header.tail
              bytes := window audio.capacity w.ring w.header.tail
                (w.header.head - w.header.tail).toNat
            } :: w.streams
          intact := true
        })
      ∨ (∃ bytes s streams, w.streams = s :: streams ∧ w.header.epoch ≠ 0
        ∧ (w.header.head - w.header.tail).toNat + bytes.length ≤ audio.capacity.cells
        ∧ w.happen audio e
          =
        {
          w with
          ring := Streams.write audio.capacity w.ring w.header.head 0 bytes
          header := { w.header with head := counter w.header.head bytes.length }
          streams := { s with bytes := s.bytes ++ bytes } :: streams
        })
      ∨ (∃ r device, w.device = r :: device ∧ w.happen audio e
        = { w with device, replies := w.replies ++ [r], completed := w.completed ++ [r] }) := by
  cases e with
  | clearEpoch =>
    left
    refine ⟨{ w.header with epoch := 0 }, w.intact, rfl, ?_, ?_, ?_⟩ <;> simp
  | writeRoute route =>
    left
    show w.WritesHeader (w.write fun header => { header with route }) _
    apply writesHeader_write <;> simp
  | writeRate rate =>
    left
    show w.WritesHeader (w.write fun header => { header with rate }) _
    apply writesHeader_write <;> simp
  | writeChannels channels =>
    left
    show w.WritesHeader (w.write fun header => { header with channels }) _
    apply writesHeader_write <;> simp
  | writeHead head =>
    left
    exact writesHeader_counters w _ rfl rfl
  | writeTail tail =>
    left
    exact writesHeader_counters w _ rfl rfl
  | writeEpoch epoch =>
    rcases openStream_cases audio w epoch with h | ⟨hne, hfresh, h⟩
    . left
      show w.WritesHeader (w.openStream audio epoch) _
      rw [h]
      apply writesHeader_refl
    . exact .inr (.inl ⟨epoch, rfl, hne, hfresh, h⟩)
  | append bytes =>
    rcases append_cases audio w bytes with h | ⟨s, streams, hs, hepoch, hspace, h⟩
    . left
      show w.WritesHeader (w.append audio bytes) _
      rw [h]
      apply writesHeader_refl
    . exact .inr (.inr (.inl ⟨bytes, s, streams, hs, hepoch, hspace, h⟩))
  | complete =>
    rcases w.complete_cases with h | ⟨r, device, hdevice, h⟩
    . left
      show w.WritesHeader w.complete _
      rw [h]
      apply writesHeader_refl
    . exact .inr (.inr (.inr ⟨r, device, hdevice, h⟩))

theorem ahi_happen : (w.happen audio e).ahi = w.ahi := by
  rcases happen_cases audio w e with ⟨_, _, h, _⟩ | ⟨_, _, _, _, h⟩ | ⟨_, _, _, _, _, _, h⟩ |
    ⟨_, _, _, h⟩ <;> rw [h]

theorem seen_happen : (w.happen audio e).seen = w.seen := by
  rcases happen_cases audio w e with ⟨_, _, h, _⟩ | ⟨_, _, _, _, h⟩ | ⟨_, _, _, _, _, _, h⟩ |
    ⟨_, _, _, h⟩ <;> rw [h]

theorem submitted_happen : (w.happen audio e).submitted = w.submitted := by
  rcases happen_cases audio w e with ⟨_, _, h, _⟩ | ⟨_, _, _, _, h⟩ | ⟨_, _, _, _, _, _, h⟩ |
    ⟨_, _, _, h⟩ <;> rw [h]

/-- Completing a request brings it to the reply port. -/
theorem flight_happen : (w.happen audio e).flight = w.flight := by
  rcases happen_cases audio w e with ⟨_, _, h, _⟩ | ⟨_, _, _, _, h⟩ | ⟨_, _, _, _, _, _, h⟩ |
    ⟨r, device, hdevice, h⟩
  . rw [h]
    rfl
  . rw [h]
    rfl
  . rw [h]
    rfl
  . rw [h]
    unfold flight
    simp [hdevice]

end Events

theorem Books.happen (h : w.Books) (e : AudioEvent) : (w.happen audio e).Books :=
  h.congr (flight_happen audio w e) (ahi_happen audio w e)

theorem Whole.happen (h : w.Whole) (e : AudioEvent) : (w.happen audio e).Whole :=
  h.congr (flight_happen audio w e) (ahi_happen audio w e)

/-- No request is known for an epoch that is fresh. -/
theorem History.fresh {epoch : UInt32} (h : w.History) (hfresh : ∀ s ∈ w.streams, s.epoch ≠ epoch)
    : w.submittedOf epoch = [] ∧ w.completedOf epoch = []
      ∧ (w.device.filter fun r => r.epoch == epoch) = [] := by
  have hne (r : AhiRequest) (hr : r ∈ w.submitted) : (r.epoch == epoch) = false := by
    obtain ⟨s, hs, heq⟩ := h.known r hr
    rw [← heq]
    exact beq_false_of_ne (hfresh s hs)
  refine ⟨?_, ?_, ?_⟩
  . apply List.filter_eq_nil_iff.mpr
    intro r hr
    rw [hne r hr]
    simp
  . apply List.filter_eq_nil_iff.mpr
    intro r hr
    rw [hne r (h.completed r hr)]
    simp
  . apply List.filter_eq_nil_iff.mpr
    intro r hr
    rw [hne r (h.flying r (List.mem_append_right _ hr))]
    simp

theorem History.happen (h : w.History) (e : AudioEvent) : (w.happen audio e).History := by
  rcases happen_cases audio w e with ⟨header, intact, heq, hepoch, _⟩ | ⟨epoch, _, _, hfresh, heq⟩ |
    ⟨bytes, s, streams, hs, hepoch, _, heq⟩ | ⟨r, device, hdevice, heq⟩
  . rw [heq]
    constructor
    . exact h.nodup
    . exact h.known
    . exact h.completed
    . exact h.flying
    . exact h.accepted
    . exact fun s hs => (h.played s hs).congr rfl
    . intro hne
      have := hepoch hne
      simp only [this.1, this.2] at hne ⊢
      exact h.header hne
  . rw [heq]
    constructor
    . simp only [List.map_cons, List.nodup_cons, List.mem_map]
      refine ⟨?_, h.nodup⟩
      rintro ⟨s, hs, hsame⟩
      exact hfresh s hs hsame
    . intro r hr
      obtain ⟨s, hs, hsame⟩ := h.known r hr
      exact ⟨s, List.mem_cons_of_mem _ hs, hsame⟩
    . exact h.completed
    . exact h.flying
    . intro hvalid
      obtain ⟨s, hs, hsame⟩ := h.accepted hvalid
      exact ⟨s, List.mem_cons_of_mem _ hs, hsame⟩
    . intro s hs
      cases List.mem_cons.mp hs with
      | inl hnew =>
        have hnone : w.submittedOf s.epoch = [] := by
          rw [hnew]
          exact (h.fresh hfresh).1
        have hplayed : w.Played s := by
          constructor <;> simp [hnone, framesOf, swapSamples]
        exact hplayed.congr rfl
      | inr hold => exact (h.played s hold).congr rfl
    . intro _
      exact ⟨rfl, _, rfl, rfl⟩
  . rw [heq]
    constructor
    . have := h.nodup
      rw [hs] at this
      exact this
    . intro r hr
      obtain ⟨s', hs', hsame⟩ := h.known r hr
      rw [hs] at hs'
      cases List.mem_cons.mp hs' with
      | inl hfirst =>
        refine ⟨_, List.mem_cons_self, ?_⟩
        rw [← hsame, hfirst]
      | inr hrest => exact ⟨s', List.mem_cons_of_mem _ hrest, hsame⟩
    . exact h.completed
    . exact h.flying
    . intro hvalid
      obtain ⟨s', hs', hsame⟩ := h.accepted hvalid
      rw [hs] at hs'
      cases List.mem_cons.mp hs' with
      | inl hfirst =>
        refine ⟨_, List.mem_cons_self, ?_⟩
        rw [← hsame, hfirst]
      | inr hrest => exact ⟨s', List.mem_cons_of_mem _ hrest, hsame⟩
    . intro s' hs'
      have hplayed := h.played
      rw [hs] at hplayed
      cases List.mem_cons.mp hs' with
      | inl hfirst =>
        rw [hfirst]
        exact ((hplayed s List.mem_cons_self).append bytes).congr rfl
      | inr hrest => exact (hplayed s' (List.mem_cons_of_mem _ hrest)).congr rfl
    . intro hne
      obtain ⟨hintact, s', hs', hsame⟩ := h.header hne
      rw [hs] at hs'
      simp only [List.head?_cons, Option.some.injEq] at hs'
      refine ⟨hintact, _, rfl, ?_⟩
      rw [← hsame, ← hs']
  . rw [heq]
    have hflight : w.flight = w.replies ++ [r] ++ device := by
      unfold flight
      rw [hdevice, List.append_assoc]
      rfl
    constructor
    . exact h.nodup
    . exact h.known
    . intro r' hr'
      cases List.mem_append.mp hr' with
      | inl hold => exact h.completed r' hold
      | inr hnew =>
        rw [List.mem_singleton.mp hnew]
        apply h.flying
        rw [hflight]
        simp
    . have := h.flying
      rw [hflight] at this
      exact this
    . exact h.accepted
    . exact fun s hs => (h.played s hs).congr rfl
    . exact h.header

/-- The counters of a stream that is opened are the ones of its start. -/
theorem fits_open (w : AudioWorld) (epoch : UInt32)
    : Fits audio
        {
          w with
          header := { w.header with epoch }
          streams :=
            {
              epoch, start := w.header.tail
              bytes := window audio.capacity w.ring w.header.tail
                (w.header.head - w.header.tail).toNat
            } :: w.streams
          intact := true
        }
        {
          epoch, start := w.header.tail
          bytes := window audio.capacity w.ring w.header.tail
            (w.header.head - w.header.tail).toNat
        } 0 where
  tail := (counter_zero _).symm
  head := by
    rw [length_window]
    unfold counter
    rw [UInt32.ofNat_toNat, UInt32.add_comm, UInt32.sub_add_cancel]
  le := Nat.zero_le _
  small := by
    rw [length_window]
    exact (w.header.head - w.header.tail).toNat_lt
  holds := by
    intro _
    apply holds_window

/-- What the app appends does not overwrite what ZZRun has not played. -/
theorem Fits.append {s : AudioStream} {retired : Nat} {bytes : List UInt8}
    {streams : List AudioStream} (h : w.Fits audio s retired)
    (hspace : (w.header.head - w.header.tail).toNat + bytes.length ≤ audio.capacity.cells)
    : Fits audio
        {
          w with
          ring := Streams.write audio.capacity w.ring w.header.head 0 bytes
          header := { w.header with head := counter w.header.head bytes.length }
          streams
        }
        { s with bytes := s.bytes ++ bytes } retired := by
  rw [h.head, h.tail, toNat_counter_sub_counter _ h.le h.small] at hspace
  have hle := h.le
  have hsmall := audio.capacity.small
  constructor
  . exact h.tail
  . simp only [List.length_append]
    rw [h.head]
    exact counter_counter _ _ _
  . simp only [List.length_append]
    omega
  . simp only [List.length_append]
    omega
  . intro _
    simp only [h.head]
    rw [write_counter, Nat.add_zero]
    apply (h.holds (by omega)).write
    omega

theorem fit_header {s : AudioStream} {retired : Nat} {header : AudioHeader} {intact : Bool}
    (h : w.intact = true → w.Fits audio s retired)
    (hsame : intact = true → w.intact = true ∧ header.head = w.header.head
      ∧ header.tail = w.header.tail)
    : intact = true → Fits audio { w with header, intact } s retired := by
  intro hintact
  have hsame := hsame hintact
  have hfits := h hsame.1
  constructor
  . simp only [hsame.2.2]
    exact hfits.tail
  . simp only [hsame.2.1]
    exact hfits.head
  . exact hfits.le
  . exact hfits.small
  . exact hfits.holds

theorem Loose.complete {s : AudioStream} {reaped : List AhiRequest} {r : AhiRequest}
    {device : List AhiRequest} (h : w.Loose s reaped) (hdevice : w.device = r :: device)
    : Loose { w with device, replies := w.replies ++ [r], completed := w.completed ++ [r] } s
        reaped where
  submitted := h.submitted
  completed := by
    unfold completedOf
    rw [List.filter_append]
    exact h.completed.trans (List.prefix_append _ _)
  few := by
    have := h.few
    rw [hdevice, List.filter_cons] at this
    unfold completedOf at this ⊢
    rw [List.filter_append, List.length_append]
    by_cases hr : (r.epoch == s.epoch) = true
    . rw [if_pos hr, List.length_cons] at this
      rw [List.filter_cons, if_pos hr]
      simp only [List.filter_nil, List.length_singleton]
      omega
    . rw [if_neg hr] at this
      rw [List.filter_cons, if_neg hr]
      simp only [List.filter_nil, List.length_nil]
      omega

theorem Exact.complete {s : AudioStream} {reaped taken : List AhiRequest} {r : AhiRequest}
    {device : List AhiRequest} (h : w.Exact s reaped taken) (hbooks : w.Books) (hown : w.Owns s)
    (hdevice : w.device = r :: device)
    : Exact { w with device, replies := w.replies ++ [r], completed := w.completed ++ [r] } s
        reaped taken := by
  have hflight : w.flight = w.replies ++ [r] ++ device := by
    unfold flight
    rw [hdevice, List.append_assoc]
    rfl
  have hr : (r.epoch == s.epoch) = true := by
    have := hbooks.flying r (by simp [hflight])
    rw [this.2.2, hown.2]
    simp
  constructor
  . have := h.submitted
    rw [hflight] at this
    exact this
  . have := h.completed
    unfold completedOf at this ⊢
    rw [List.filter_append, this, List.filter_cons, if_pos hr]
    simp
  . have := h.few
    rw [hflight] at this
    exact this

theorem Barred.header {header : AudioHeader} {intact : Bool} (h : w.Barred audio)
    (hepoch : header.epoch ≠ 0 → header = w.header ∧ intact = w.intact)
    : Barred audio { w with header, intact } := by
  cases h with
  | inl hflag => exact .inl hflag
  | inr hroute =>
    right
    intro hne
    have := (hepoch hne).1
    simp only [this] at hne ⊢
    exact hroute hne

/-- The last stream as the events find it. -/
def Last (w : AudioWorld) (p : AudioStream → Prop) : Prop :=
  ∀ s, w.streams.head? = some s → p s

theorem Last.happen_drops (h : w.Last (w.Drops audio)) (hhistory : w.History) (e : AudioEvent)
    : (w.happen audio e).Last ((w.happen audio e).Drops audio) := by
  rcases happen_cases audio w e with ⟨header, intact, heq, hepoch, hsame, _⟩ |
    ⟨epoch, _, _, hfresh, heq⟩ | ⟨bytes, s, streams, hs, hepoch, hspace, heq⟩ |
    ⟨r, device, hdevice, heq⟩
  . rw [heq]
    intro s hs
    obtain ⟨reaped, hfits, hloose, hbarred⟩ := h s hs
    refine ⟨reaped, fit_header hfits hsame, ⟨hloose.submitted, hloose.completed, hloose.few⟩, ?_⟩
    cases hbarred with
    | inl hnone => exact .inl hnone
    | inr hbarred => exact .inr (hbarred.header hepoch)
  . rw [heq]
    intro s hs
    simp only [List.head?_cons, Option.some.injEq] at hs
    have hnone := hhistory.fresh hfresh
    refine ⟨[], ?_, ?_, ?_⟩
    . intro _
      rw [← hs]
      exact fits_open w epoch
    . rw [← hs]
      constructor
      . apply List.nil_prefix
      . apply List.nil_prefix
      . show (w.completedOf epoch).length + _ ≤ _
        rw [hnone.2.1, hnone.2.2]
        simp
    . left
      rw [← hs]
      exact hnone.1
  . rw [heq]
    intro s' hs'
    simp only [List.head?_cons, Option.some.injEq] at hs'
    obtain ⟨reaped, hfits, hloose, hbarred⟩ := h s (by rw [hs]; rfl)
    rw [← hs']
    refine ⟨reaped, ?_, ⟨hloose.submitted, hloose.completed, hloose.few⟩, hbarred⟩
    intro hintact
    exact (hfits hintact).append hspace
  . rw [heq]
    intro s hs
    obtain ⟨reaped, hfits, hloose, hbarred⟩ := h s hs
    refine ⟨reaped, ?_, hloose.complete hdevice, hbarred⟩
    intro hintact
    have := hfits hintact
    exact ⟨this.tail, this.head, this.le, this.small, this.holds⟩

theorem Last.happen_follows (h : w.Last (w.Follows audio)) (hbooks : w.Books)
    (hhistory : w.History) (e : AudioEvent)
    : (w.happen audio e).Last ((w.happen audio e).Follows audio) := by
  rcases happen_cases audio w e with ⟨header, intact, heq, hepoch, hsame, _⟩ |
    ⟨epoch, _, _, hfresh, heq⟩ | ⟨bytes, s, streams, hs, hepoch, hspace, heq⟩ |
    ⟨r, device, hdevice, heq⟩
  . rw [heq]
    intro s hs
    obtain ⟨reaped, hfits, hcase⟩ := h s hs
    refine ⟨reaped, fit_header hfits hsame, ?_⟩
    rcases hcase with ⟨hown, hexact⟩ | ⟨hown, hloose, hbarred⟩
    . exact .inl ⟨hown, hexact.submitted, hexact.completed, hexact.few⟩
    . refine .inr ⟨hown, ⟨hloose.submitted, hloose.completed, hloose.few⟩, ?_⟩
      cases hbarred with
      | inl hnone => exact .inl hnone
      | inr hbarred => exact .inr (hbarred.header hepoch)
  . rw [heq]
    intro s hs
    simp only [List.head?_cons, Option.some.injEq] at hs
    have hnone := hhistory.fresh hfresh
    rw [← hs]
    refine ⟨[], ?_, .inr ⟨?_, ?_, .inl hnone.1⟩⟩
    . intro _
      exact fits_open w epoch
    . intro hown
      obtain ⟨s', hs', hsame⟩ := hhistory.accepted hown.1
      apply hfresh s' hs'
      rw [hsame]
      exact hown.2
    . constructor
      . apply List.nil_prefix
      . apply List.nil_prefix
      . show (w.completedOf epoch).length + _ ≤ _
        rw [hnone.2.1, hnone.2.2]
        simp
  . rw [heq]
    intro s' hs'
    simp only [List.head?_cons, Option.some.injEq] at hs'
    obtain ⟨reaped, hfits, hcase⟩ := h s (by rw [hs]; rfl)
    rw [← hs']
    refine ⟨reaped, ?_, ?_⟩
    . intro hintact
      exact (hfits hintact).append hspace
    . rcases hcase with ⟨hown, hexact⟩ | ⟨hown, hloose, hbarred⟩
      . exact .inl ⟨hown, hexact.submitted, hexact.completed, hexact.few⟩
      . exact .inr ⟨hown, ⟨hloose.submitted, hloose.completed, hloose.few⟩, hbarred⟩
  . rw [heq]
    intro s hs
    obtain ⟨reaped, hfits, hcase⟩ := h s hs
    refine ⟨reaped, ?_, ?_⟩
    . intro hintact
      have := hfits hintact
      exact ⟨this.tail, this.head, this.le, this.small, this.holds⟩
    . rcases hcase with ⟨hown, hexact⟩ | ⟨hown, hloose, hbarred⟩
      . exact .inl ⟨hown, hexact.complete hbooks hown hdevice⟩
      . exact .inr ⟨hown, hloose.complete hdevice, hbarred⟩

end AudioWorld

end ZZRun
