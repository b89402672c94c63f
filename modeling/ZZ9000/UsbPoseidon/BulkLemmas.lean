import ZZ9000.UsbPoseidon.Bulk
import ZZ9000.UsbPoseidon.WorkQueueLemmas

/-!
This module shows that a bulk IN transfer keeps its place across the attempts of the worker: the
buffer receives what the firmware returned, in order and without gaps. The exception is a transfer
without a buffer, whose second chunk is written to memory that nobody gave to the driver.
-/

namespace ZZUsb

theorem toNat_pos {value : UInt32} (h : value ≠ 0) : 0 < value.toNat := by
  apply Nat.pos_of_ne_zero
  intro heq
  exact h (UInt32.toNat_inj.mp heq)

theorem clamp_toNat (value limit : UInt32)
    : (clamp value limit).toNat = min value.toNat limit.toNat := by
  unfold clamp
  split
  . next h =>
    rw [gt_iff_lt, UInt32.lt_iff_toNat_lt] at h
    omega
  . next h =>
    rw [gt_iff_lt, UInt32.lt_iff_toNat_lt] at h
    omega

theorem copyTo_append (address : Nat) (xs ys : List UInt8)
    : copyTo address (xs ++ ys) = copyTo address xs ++ copyTo (address + xs.length) ys := by
  unfold copyTo
  rw [List.mapIdx_append]
  congr 2
  funext k byte
  congr 1
  omega

theorem copyTo_nil (address : Nat) : copyTo address [] = [] := by
  rfl

theorem length_copyTo (address : Nat) (bytes : List UInt8)
    : (copyTo address bytes).length = bytes.length := by
  unfold copyTo
  rw [List.length_mapIdx]

theorem mem_copyTo {address : Nat} {bytes : List UInt8} {w : Nat × UInt8}
    (h : w ∈ copyTo address bytes)
    : address ≤ w.1 ∧ w.1 < address + bytes.length := by
  unfold copyTo at h
  rw [List.mem_mapIdx] at h
  obtain ⟨k, hk, rfl⟩ := h
  dsimp only
  omega

theorem nodup_copyTo (address : Nat) (bytes : List UInt8)
    : ((copyTo address bytes).map Prod.fst).Nodup := by
  induction bytes generalizing address with
  | nil =>
    rw [copyTo_nil]
    exact List.nodup_nil
  | cons byte bytes ih =>
    have hcons : copyTo address (byte :: bytes) = (address, byte) :: copyTo (address + 1) bytes :=
      copyTo_append address [byte] bytes
    rw [hcons, List.map_cons, List.nodup_cons]
    refine ⟨?_, ih (address + 1)⟩
    intro hmem
    rw [List.mem_map] at hmem
    obtain ⟨w, hw, heq⟩ := hmem
    have := mem_copyTo hw
    omega

theorem length_bytes (answer : BulkAnswer) (count : UInt32)
    : (answer.bytes count).length = count.toNat := by
  simp [BulkAnswer.bytes]

theorem BulkRequest.limit_ne_zero (request : BulkRequest) (realtimeActive : Bool)
    : request.limit realtimeActive ≠ 0 := by
  unfold limit
  dsimp only
  split
  . split
    . assumption
    . decide
  . decide

theorem eq_ok_of_classifyStatus {status : UInt16} (h : classifyStatus status = .none)
    : status = EngineStatus.ok := by
  apply Decidable.byContradiction
  intro hne
  unfold classifyStatus at h
  rw [if_neg hne] at h
  simp only [ite_eq_iff, reduceCtorEq, and_false, false_or] at h

theorem eq_ok_of_mapProxyStatus {status : UInt16} (h : mapProxyStatus status = .noError)
    : status = EngineStatus.ok := by
  unfold mapProxyStatus at h
  split at h
  . next hclass => exact eq_ok_of_classifyStatus hclass
  all_goals contradiction

namespace BulkLoop

variable {request : BulkRequest} {limit : UInt32} {s s' : BulkLoop}

/-- The buffer holds what was returned, and the rest of it is still to come. -/
structure Inv (s : BulkLoop) (request : BulkRequest) : Prop where
  length_eq : s.totalActual.toNat + s.remaining.toNat = request.length.toNat
  returned_eq : s.returned.length = s.totalActual.toNat
  bulkActual_eq : s.bulkActual = s.totalActual
  userBuf_eq : request.data ≠ 0 → s.userBuf = request.data + s.totalActual.toNat
  written_eq : request.data ≠ 0 → s.written = copyTo request.data s.returned

theorem Inv.transferred (h : s.Inv request) (hkeeps : request.keepsProgress = true)
    (answer : BulkAnswer) {actual : UInt32} (hactual : actual.toNat ≤ s.remaining.toNat)
    : (s.transferred request answer actual).Inv request := by
  have hin : request.dir = .input := by
    unfold BulkRequest.keepsProgress at hkeeps
    simp at hkeeps
    exact hkeeps.1
  have hlt := request.length.toNat_lt
  have hlength := h.length_eq
  have hadd : (s.totalActual + actual).toNat = s.totalActual.toNat + actual.toNat := by
    rw [UInt32.toNat_add]
    omega
  have hsub : (s.remaining - actual).toNat = s.remaining.toNat - actual.toNat := by
    rw [UInt32.toNat_sub_of_le]
    rw [UInt32.le_iff_toNat_le]
    exact hactual
  unfold BulkLoop.transferred
  constructor
  . dsimp only
    rw [hadd, hsub]
    omega
  . dsimp only
    rw [List.length_append]
    rw [length_bytes]
    rw [h.returned_eq]
    rw [hadd]
  . dsimp only
    rw [if_pos hkeeps]
  . intro hdata
    dsimp only
    rw [h.userBuf_eq hdata]
    rw [hadd]
    omega
  . intro hdata
    have hbuf := h.userBuf_eq hdata
    dsimp only
    rw [if_pos ⟨hin, by omega⟩]
    rw [copyTo_append]
    rw [h.written_eq hdata]
    rw [hbuf]
    rw [h.returned_eq]

theorem Inv.abortWork (h : s.Inv request) (abort : Bool) : (s.abortWork abort).Inv request := by
  unfold BulkLoop.abortWork
  split
  . exact ⟨h.length_eq, h.returned_eq, h.bulkActual_eq, h.userBuf_eq, h.written_eq⟩
  . exact h

theorem Inv.pass (h : s.Inv request) (hkeeps : request.keepsProgress = true) (limit : UInt32)
    (answer : BulkAnswer)
    : (s.pass request limit answer).1.Inv request := by
  have habort := h.abortWork answer.abort
  unfold BulkLoop.pass
  generalize s.abortWork answer.abort = s at habort
  dsimp only
  have hsame (status : UInt16) (commands : List BulkCommand)
      : Inv { s with status, commands } request := by
    exact ⟨habort.length_eq, habort.returned_eq, habort.bulkActual_eq, habort.userBuf_eq,
      habort.written_eq⟩
  split
  . apply hsame
  . split
    . apply hsame
    . apply Inv.transferred (hsame _ _) hkeeps
      rw [clamp_toNat]
      rw [clamp_toNat]
      dsimp only
      omega

theorem Inv.run (h : s.Inv request) (hkeeps : request.keepsProgress = true)
    {answers : List BulkAnswer} (hrun : s.run request limit answers = some s')
    : s'.Inv request := by
  induction answers generalizing s with
  | nil =>
    unfold BulkLoop.run at hrun
    split at hrun
    . rw [Option.some.injEq] at hrun
      rw [← hrun]
      exact h
    . contradiction
  | cons answer answers ih =>
    have hpass := h.pass hkeeps limit answer
    unfold BulkLoop.run at hrun
    dsimp only at hrun
    generalize s.pass request limit answer = next at hpass hrun
    split at hrun
    . rw [Option.some.injEq] at hrun
      rw [← hrun]
      exact h
    . split at hrun
      . rw [Option.some.injEq] at hrun
        rw [← hrun]
        exact hpass
      . exact ih hpass hrun

end BulkLoop

theorem bulkResumeWindow_eq {requested completed : UInt32}
    (h : completed.toNat ≤ requested.toNat)
    : bulkResumeWindow requested completed = some (completed, requested - completed) := by
  unfold bulkResumeWindow
  rw [if_neg]
  rw [gt_iff_lt, UInt32.lt_iff_toNat_lt]
  omega

namespace BulkRun

variable {request : BulkRequest} {run run' : BulkRun}

/-- The slot knows how much of the buffer was filled, until the request is done. -/
structure Inv (run : BulkRun) (request : BulkRequest) : Prop where
  bulkActual_le : run.slot.bulkActual.toNat ≤ request.length.toNat
  returned_eq : run.returned.length = run.slot.bulkActual.toNat
  written_eq : request.data ≠ 0 → run.written = copyTo request.data run.returned

/-- The variables with which an attempt enters its loop -/
def loop (run : BulkRun) (request : BulkRequest) : BulkLoop :=
  run.enter request run.slot.bulkActual (request.length - run.slot.bulkActual)

theorem Inv.loop (h : run.Inv request) : (run.loop request).Inv request where
  length_eq := by
    have := h.bulkActual_le
    unfold BulkRun.loop enter
    dsimp only
    rw [UInt32.toNat_sub_of_le]
    . omega
    . rw [UInt32.le_iff_toNat_le]
      exact this
  returned_eq := h.returned_eq
  bulkActual_eq := by rfl
  userBuf_eq := by
    intro hdata
    exact if_pos hdata
  written_eq := h.written_eq

theorem transfer_eq (h : run.Inv request) (hkeeps : request.keepsProgress = true)
    (realtimeActive : Bool) (answers : List BulkAnswer)
    : run.transfer request realtimeActive answers
        =
      if request.lowSpeedFlag then
        some (run.fail .badParams)
      else
        ((run.loop request).run request (request.limit realtimeActive) answers).map run.leave := by
  unfold transfer completed
  rw [if_pos hkeeps]
  rw [bulkResumeWindow_eq h.bulkActual_le]
  rfl

theorem Inv.begin (h : run.Inv request) (sequence controllerEpoch : UInt32)
    : Inv { run with slot := run.slot.begin sequence controllerEpoch } request := by
  exact ⟨h.bulkActual_le, h.returned_eq, h.written_eq⟩

/-- A transfer keeps its place, and reports it if nothing went wrong. -/
theorem Inv.transfer (h : run.Inv request) (hkeeps : request.keepsProgress = true)
    {realtimeActive : Bool} {answers : List BulkAnswer}
    (htransfer : run.transfer request realtimeActive answers = some run')
    : run'.Inv request
        ∧ (run'.ior.error = .noError → run'.ior.actual.toNat = run'.returned.length) := by
  rw [transfer_eq h hkeeps] at htransfer
  split at htransfer
  . rw [Option.some.injEq] at htransfer
    rw [← htransfer]
    refine ⟨⟨h.bulkActual_le, h.returned_eq, h.written_eq⟩, ?_⟩
    intro herror
    contradiction
  . rw [Option.map_eq_some_iff] at htransfer
    obtain ⟨s, hrun, rfl⟩ := htransfer
    have hs := h.loop.run hkeeps hrun
    refine ⟨⟨?_, ?_, hs.written_eq⟩, ?_⟩
    . have := hs.length_eq
      unfold leave
      dsimp only
      rw [hs.bulkActual_eq]
      omega
    . unfold leave
      dsimp only
      rw [hs.bulkActual_eq]
      exact hs.returned_eq
    . unfold leave
      dsimp only
      split
      . intro _
        exact hs.returned_eq.symm
      . next hok =>
        intro herror
        exact absurd (eq_ok_of_mapProxyStatus herror) hok

/-- An unaborted request is done with the error and the length that its last transfer gave it. -/
theorem finish_ior {ι υ : Type} (slot : WorkSlot ι υ) (ior : WorkIor) (enqueueSeq : UInt32)
    (h : (slot.finish ior enqueueSeq).retried = false)
    (herror : (slot.finish ior enqueueSeq).ior.error = .noError)
    : (slot.finish ior enqueueSeq).ior = ior := by
  unfold WorkSlot.finish at h herror ⊢
  dsimp only at h herror ⊢
  split at h
  . next habort =>
    rw [if_pos habort] at herror
    contradiction
  . next habort =>
    rw [if_neg habort]
    split at h
    . contradiction
    . next hretry =>
      rw [if_neg hretry]
      rfl

theorem finish_bulkActual {ι υ : Type} (slot : WorkSlot ι υ) (ior : WorkIor) (enqueueSeq : UInt32)
    : (slot.finish ior enqueueSeq).slot.bulkActual = slot.bulkActual := by
  unfold WorkSlot.finish
  dsimp only
  split
  . rfl
  . split <;> rfl

theorem retry_abortRequested (request : EngineRequest) (transportStatus : UInt16)
    : (request.retry transportStatus).request.abortRequested = request.abortRequested := by
  unfold EngineRequest.retry
  split <;> rfl

theorem finish_abortRequested {ι υ : Type} (slot : WorkSlot ι υ) (ior : WorkIor)
    (enqueueSeq : UInt32)
    : (slot.finish ior enqueueSeq).slot.lifecycle.abortRequested = false := by
  unfold WorkSlot.finish
  dsimp only
  split
  . rfl
  . next habort =>
    split
    . rw [retry_abortRequested]
      simpa using habort
    . rfl

/-- The request keeps its place between the attempts of the worker. -/
structure Placed (run : BulkRun) (request : BulkRequest) : Prop where
  inv : run.Inv request
  abortRequested : run.slot.lifecycle.abortRequested = false
  actual_eq : run.done = true → run.ior.error = .noError →
    run.ior.actual.toNat = run.returned.length

theorem placed_start (request : BulkRequest) (enqueueSeq : UInt32)
    : (start request enqueueSeq).Placed request where
  inv := by
    refine ⟨Nat.zero_le _, rfl, ?_⟩
    intro _
    rfl
  abortRequested := by rfl
  actual_eq := by
    intro hdone
    contradiction

/-- What the worker hands to `execute_io` -/
def begun (run : BulkRun) (a : BulkAttempt) : BulkRun :=
  { run with slot := run.slot.begin (nextSequence a.workSequence) a.controllerEpoch }

/-- How the worker ends an attempt -/
def finished (run : BulkRun) (a : BulkAttempt) : BulkRun :=
  let lifecycle := if a.abort then run.slot.lifecycle.abort.request else run.slot.lifecycle
  let done := { run.slot with lifecycle }.finish run.ior a.workSequence
  { run with slot := done.slot, ior := done.ior, done := !done.retried }

theorem attempt_eq (run : BulkRun) (request : BulkRequest) (a : BulkAttempt)
    : run.attempt request a
        =
      ((run.begun a).transfer request a.realtimeActive a.answers).map (finished · a) := by
  unfold attempt begun
  dsimp only
  split
  . next heq => rw [heq]; rfl
  . next heq => rw [heq]; rfl

theorem Placed.attempt (h : run.Placed request) (hkeeps : request.keepsProgress = true)
    {a : BulkAttempt} (hattempt : run.attempt request a = some run')
    : run'.Placed request := by
  rw [attempt_eq, Option.map_eq_some_iff] at hattempt
  obtain ⟨run₁, htransfer, rfl⟩ := hattempt
  have hbegun : (run.begun a).Inv request := h.inv.begin _ _
  have htransfer := hbegun.transfer hkeeps htransfer
  unfold finished
  dsimp only
  refine ⟨⟨?_, ?_, htransfer.1.written_eq⟩, ?_, ?_⟩
  . dsimp only
    rw [finish_bulkActual]
    exact htransfer.1.bulkActual_le
  . dsimp only
    rw [finish_bulkActual]
    exact htransfer.1.returned_eq
  . apply finish_abortRequested
  . intro hdone herror
    dsimp only at hdone herror ⊢
    rw [Bool.not_eq_true'] at hdone
    have hior := finish_ior _ _ _ hdone herror
    rw [hior] at herror ⊢
    exact htransfer.2 herror

theorem Placed.attempts (h : run.Placed request) (hkeeps : request.keepsProgress = true)
    {as : List BulkAttempt} (hattempts : run.attempts request as = some run')
    : run'.Placed request := by
  induction as generalizing run with
  | nil =>
    unfold BulkRun.attempts at hattempts
    rw [Option.some.injEq] at hattempts
    rw [← hattempts]
    exact h
  | cons a as ih =>
    unfold BulkRun.attempts at hattempts
    split at hattempts
    . rw [Option.some.injEq] at hattempts
      rw [← hattempts]
      exact h
    . split at hattempts
      . contradiction
      . next run₁ hattempt => exact ih (h.attempt hkeeps hattempt) hattempts

end BulkRun

/-! A transfer without a buffer writes nothing as long as no attempt gets to a second chunk. -/

/-- Two chunks with data follow each other. -/
def SecondChunk (remaining limit : UInt32) (answers : List BulkAnswer) : Prop :=
  limit < remaining
    ∧ match answers with
      | first :: second :: _ =>
        first.abort = false ∧ first.status = EngineStatus.ok ∧ limit ≤ first.actualLength
          ∧ second.abort = false ∧ second.status = EngineStatus.ok ∧ second.actualLength ≠ 0
      | _ => False

namespace BulkLoop

variable {request : BulkRequest} {limit : UInt32} {s s' : BulkLoop}

/-- A pass that is not cut short -/
def Passes (s : BulkLoop) (answer : BulkAnswer) : Prop :=
  s.lifecycle.abortRequested = false ∧ answer.abort = false ∧ answer.status = EngineStatus.ok

theorem pass_of_passes {answer : BulkAnswer} (h : s.Passes answer)
    : s.pass request limit answer
        =
      let chunk := clamp s.remaining limit
      let actual := clamp answer.actualLength chunk
      let s := { s with
        status := answer.status
        commands := s.commands ++ [request.command s.userBuf chunk] }
      (s.transferred request answer actual, decide (actual ≥ chunk)) := by
  unfold pass abortWork
  simp [h.1, h.2.1, h.2.2]

theorem pass_of_not_passes {answer : BulkAnswer} (hstate : s.lifecycle.state = .inFlight)
    (h : ¬s.Passes answer)
    : (s.pass request limit answer).1.written = s.written
        ∧ (s.pass request limit answer).2 = false := by
  unfold pass
  dsimp only
  have hwritten : (s.abortWork answer.abort).written = s.written := by
    unfold abortWork
    split <;> rfl
  split
  . exact ⟨hwritten, rfl⟩
  . next habort =>
    split
    . exact ⟨hwritten, rfl⟩
    . next hok =>
      have hanswer : answer.abort = false := by
        cases hanswer : answer.abort with
        | false => rfl
        | true =>
          rw [hanswer] at habort
          simp [abortWork, EngineRequest.abort_of_inFlight hstate] at habort
      rw [hanswer] at habort
      simp only [abortWork, Bool.false_eq_true, if_false, Bool.not_eq_true] at habort
      exact absurd ⟨habort, hanswer, by simpa using hok⟩ h

theorem written_pass (answer : BulkAnswer)
    : ∃ extra, (s.pass request limit answer).1.written = s.written ++ extra := by
  have hwritten : (s.abortWork answer.abort).written = s.written := by
    unfold abortWork
    split <;> rfl
  rw [← hwritten]
  unfold pass
  dsimp only
  split
  . exact ⟨[], by simp⟩
  . split
    . exact ⟨[], by simp⟩
    . unfold transferred
      dsimp only
      split
      . exact ⟨_, rfl⟩
      . exact ⟨[], by simp⟩

theorem written_run {answers : List BulkAnswer} (hrun : s.run request limit answers = some s')
    : ∃ extra, s'.written = s.written ++ extra := by
  induction answers generalizing s with
  | nil =>
    unfold run at hrun
    split at hrun
    . rw [Option.some.injEq] at hrun
      exact ⟨[], by simp [hrun]⟩
    . contradiction
  | cons answer answers ih =>
    have hpass : ∃ extra, (s.pass request limit answer).1.written = s.written ++ extra :=
      written_pass answer
    unfold run at hrun
    dsimp only at hrun
    generalize s.pass request limit answer = next at hpass hrun
    split at hrun
    . rw [Option.some.injEq] at hrun
      exact ⟨[], by simp [hrun]⟩
    . split at hrun
      . rw [Option.some.injEq] at hrun
        rw [← hrun]
        exact hpass
      . obtain ⟨first, hfirst⟩ := hpass
        obtain ⟨rest, hrest⟩ := ih hrun
        exact ⟨first ++ rest, by rw [hrest, hfirst, List.append_assoc]⟩

theorem clamp_ne_zero {value limit : UInt32} (hvalue : value ≠ 0) (hlimit : limit ≠ 0)
    : clamp value limit ≠ 0 := by
  unfold clamp
  split
  . exact hlimit
  . exact hvalue

theorem bytes_eq_nil_iff (answer : BulkAnswer) (count : UInt32)
    : answer.bytes count = [] ↔ count = 0 := by
  rw [← List.length_eq_zero_iff]
  rw [length_bytes]
  rw [← UInt32.toNat_inj]
  rfl

theorem clamp_eq_zero_iff {value limit : UInt32} (hlimit : limit ≠ 0)
    : clamp value limit = 0 ↔ value = 0 := by
  constructor
  . intro h
    apply Decidable.byContradiction
    intro hvalue
    exact clamp_ne_zero hvalue hlimit h
  . intro h
    rw [← UInt32.toNat_inj]
    rw [clamp_toNat, h]
    exact Nat.zero_min _

/-- Data that is returned to a pointer other than `NULL` is written. -/
theorem written_run_iff_of_userBuf (hdir : request.dir = .input) (hbuf : s.userBuf ≠ 0)
    (hstate : s.lifecycle.state = .inFlight) (hremaining : s.remaining ≠ 0) (hlimit : limit ≠ 0)
    {answer : BulkAnswer} {answers : List BulkAnswer}
    (hrun : s.run request limit (answer :: answers) = some s')
    : s'.written = s.written ↔ ¬(s.Passes answer ∧ answer.actualLength ≠ 0) := by
  unfold run at hrun
  rw [if_neg hremaining] at hrun
  dsimp only at hrun
  by_cases hpasses : s.Passes answer
  . rw [pass_of_passes hpasses] at hrun
    have hchunk := clamp_ne_zero hremaining hlimit
    dsimp only at hrun
    generalize clamp s.remaining limit = chunk at hchunk hrun
    simp only [hpasses, true_and, not_not, ne_eq]
    rw [← clamp_eq_zero_iff hchunk]
    generalize clamp answer.actualLength chunk = actual at hrun
    generalize hnext : transferred _ request answer actual = next at hrun
    have hwritten : next.written = s.written ++ copyTo s.userBuf (answer.bytes actual) := by
      rw [← hnext]
      exact if_pos ⟨hdir, hbuf⟩
    constructor
    . intro heq
      have hrest : ∃ extra, s'.written = next.written ++ extra := by
        split at hrun
        . exact ⟨[], by simp_all⟩
        . next hmore =>
          simp only [Prod.mk.injEq] at hmore
          rw [hmore.1]
          exact written_run hrun
      obtain ⟨extra, hextra⟩ := hrest
      rw [hwritten, heq, List.append_assoc] at hextra
      have hnil := List.append_right_eq_self.mp hextra.symm
      have hlength := congrArg List.length (List.append_eq_nil_iff.mp hnil).1
      rw [length_copyTo, List.length_nil, List.length_eq_zero_iff, bytes_eq_nil_iff] at hlength
      exact hlength
    . intro hzero
      have hstop : decide (actual ≥ chunk) = false := by
        rw [hzero]
        apply decide_eq_false
        intro hle
        apply hchunk
        rw [← UInt32.toNat_inj]
        rw [ge_iff_le, UInt32.le_iff_toNat_le] at hle
        exact Nat.le_zero.mp hle
      rw [hstop] at hrun
      dsimp only at hrun
      rw [Option.some.injEq] at hrun
      rw [← hrun, hwritten, hzero]
      simp [BulkAnswer.bytes, copyTo]
  . have hpass : (s.pass request limit answer).1.written = s.written
        ∧ (s.pass request limit answer).2 = false := pass_of_not_passes hstate hpasses
    generalize s.pass request limit answer = next at hpass hrun
    split at hrun
    . next s₁ =>
      rw [Option.some.injEq] at hrun
      simp only [hpasses, false_and, not_false_eq_true, iff_true]
      rw [← hrun]
      exact hpass.1
    . exact absurd hpass.2 (by simp)

/-- Without a buffer, data is written as soon as there is a second chunk. -/
theorem written_run_iff_of_null (hkeeps : request.keepsProgress = true) (hbuf : s.userBuf = 0)
    (hstate : s.lifecycle.state = .inFlight) (habort : s.lifecycle.abortRequested = false)
    (hlimit : limit ≠ 0) {answers : List BulkAnswer}
    (hrun : s.run request limit answers = some s')
    : s'.written = s.written ↔ ¬SecondChunk s.remaining limit answers := by
  have hdir : request.dir = .input := by
    unfold BulkRequest.keepsProgress at hkeeps
    simp at hkeeps
    exact hkeeps.1
  unfold run at hrun
  split at hrun
  . next hremaining =>
    rw [Option.some.injEq] at hrun
    rw [← hrun, hremaining]
    simp [SecondChunk]
  . next hremaining =>
    cases answers with
    | nil => contradiction
    | cons first answers =>
      dsimp only at hrun
      by_cases hpasses : s.Passes first
      . rw [pass_of_passes hpasses] at hrun
        dsimp only at hrun
        have hchunk := clamp_ne_zero hremaining hlimit
        have hchunk_eq := clamp_toNat s.remaining limit
        generalize clamp s.remaining limit = chunk at hchunk hchunk_eq hrun
        have hactual_eq := clamp_toNat first.actualLength chunk
        generalize clamp first.actualLength chunk = actual at hactual_eq hrun
        generalize hnext : transferred _ request first actual = next at hrun
        have hwritten : next.written = s.written := by
          rw [← hnext]
          exact if_neg (by simp [hbuf])
        have huserBuf : next.userBuf = actual.toNat := by
          rw [← hnext]
          simp [transferred, hbuf]
        have hleft : next.remaining = s.remaining - actual := by
          rw [← hnext]
          rfl
        have hlifecycle : next.lifecycle = s.lifecycle := by
          rw [← hnext]
          rfl
        unfold SecondChunk
        rw [UInt32.lt_iff_toNat_lt]
        split at hrun
        . next hlast =>
          simp only [Prod.mk.injEq, decide_eq_false_iff_not, ge_iff_le] at hlast
          rw [UInt32.le_iff_toNat_le] at hlast
          rw [Option.some.injEq] at hrun
          simp only [← hrun, ← hlast.1, hwritten, true_iff]
          intro hsecond
          cases answers with
          | nil => exact hsecond.2
          | cons second answers =>
            have hfull := hsecond.2.2.2.1
            rw [UInt32.le_iff_toNat_le] at hfull
            omega
        . next hmore =>
          simp only [Prod.mk.injEq, decide_eq_true_eq, ge_iff_le] at hmore
          rw [UInt32.le_iff_toNat_le] at hmore
          rw [← hmore.1] at hrun
          have hsub : (s.remaining - actual).toNat = s.remaining.toNat - actual.toNat := by
            rw [UInt32.toNat_sub_of_le]
            rw [UInt32.le_iff_toNat_le]
            omega
          have hchunk_pos := toNat_pos hchunk
          by_cases hlong : limit.toNat < s.remaining.toNat
          . have hleft_ne : next.remaining ≠ 0 := by
              intro heq
              rw [← hleft, heq, UInt32.toNat_zero] at hsub
              omega
            cases answers with
            | nil =>
              unfold run at hrun
              rw [if_neg hleft_ne] at hrun
              contradiction
            | cons second answers =>
              rw [← hwritten]
              rw [written_run_iff_of_userBuf hdir (by omega) (by rw [hlifecycle]; exact hstate)
                hleft_ne hlimit hrun]
              unfold Passes
              rw [hlifecycle]
              have hfull : limit ≤ first.actualLength := by
                rw [UInt32.le_iff_toNat_le]
                omega
              simp [hlong, habort, hpasses.2.1, hpasses.2.2, hfull, and_assoc]
          . have hleft_eq : next.remaining = 0 := by
              rw [hleft]
              rw [← UInt32.toNat_inj]
              rw [hsub]
              simp
              omega
            unfold run at hrun
            rw [if_pos hleft_eq] at hrun
            rw [Option.some.injEq] at hrun
            simp [← hrun, hwritten, hlong]
      . have hpass : (s.pass request limit first).1.written = s.written
            ∧ (s.pass request limit first).2 = false := pass_of_not_passes hstate hpasses
        generalize s.pass request limit first = next at hpass hrun
        split at hrun
        . next s₁ =>
          rw [Option.some.injEq] at hrun
          dsimp only at hpass
          simp only [← hrun, hpass.1, true_iff]
          intro hsecond
          cases answers with
          | nil => exact hsecond.2
          | cons second answers => exact hpasses ⟨habort, hsecond.2.1, hsecond.2.2.1⟩
        . exact absurd hpass.2 (by simp)

end BulkLoop

namespace BulkRun

variable {request : BulkRequest} {run run' : BulkRun}

/-- An attempt of the worker that sends a second chunk after one that returned data -/
def AttemptsSecond (run : BulkRun) (request : BulkRequest) (a : BulkAttempt) : Prop :=
  request.lowSpeedFlag = false
    ∧ SecondChunk (request.length - run.slot.bulkActual) (request.limit a.realtimeActive) a.answers

/-- No attempt of the worker sends a second chunk. -/
def SingleChunks (run : BulkRun) (request : BulkRequest) (as : List BulkAttempt) : Prop :=
  match as with
  | [] => True
  | a :: as =>
    run.done = true ∨ ¬run.AttemptsSecond request a
      ∧ ∀ run', run.attempt request a = some run' → run'.SingleChunks request as

/-- The request waits in the queue for its next attempt. -/
def Waits (run : BulkRun) : Prop :=
  run.slot.lifecycle.state = .queued ∧ run.slot.lifecycle.abortRequested = false

theorem Waits.begun (h : run.Waits) (a : BulkAttempt)
    : (run.begun a).slot.lifecycle.state = .inFlight
        ∧
      (run.begun a).slot.lifecycle.abortRequested = false := by
  have hsequence := nextSequence_ne_zero a.workSequence
  simp [BulkRun.begun, WorkSlot.begin, EngineRequest.dispatch, EngineRequest.begin, h.1, h.2,
    hsequence]

theorem finish_state {ι υ : Type} (slot : WorkSlot ι υ) (ior : WorkIor) (enqueueSeq : UInt32)
    (h : (slot.finish ior enqueueSeq).retried = true)
    : (slot.finish ior enqueueSeq).slot.lifecycle.state = .queued := by
  unfold WorkSlot.finish at h ⊢
  dsimp only at h ⊢
  split at h
  . contradiction
  . next habort =>
    rw [if_neg habort]
    split at h
    . next hretry =>
      rw [if_pos hretry]
      rw [Bool.and_eq_true] at hretry
      have hret := hretry.2
      unfold EngineRequest.retry at hret ⊢
      dsimp only
      split at hret
      . contradiction
      . next hqueued => rw [if_neg hqueued]
    . contradiction

theorem waits_of_attempt {a : BulkAttempt} (hattempt : run.attempt request a = some run')
    (hdone : run'.done = false)
    : run'.Waits := by
  rw [attempt_eq, Option.map_eq_some_iff] at hattempt
  obtain ⟨run₁, htransfer, rfl⟩ := hattempt
  constructor
  . apply finish_state
    simpa [finished] using hdone
  . apply finish_abortRequested

/-- An attempt only adds writes, and without a buffer only if there is a second chunk. -/
theorem written_attempt (h : run.Placed request) (hkeeps : request.keepsProgress = true)
    {a : BulkAttempt} (hattempt : run.attempt request a = some run')
    : (∃ extra, run'.written = run.written ++ extra)
        ∧ (request.data = 0 → run.Waits →
            (run'.written = run.written ↔ ¬run.AttemptsSecond request a)) := by
  rw [attempt_eq, Option.map_eq_some_iff] at hattempt
  obtain ⟨run₁, htransfer, rfl⟩ := hattempt
  have hbegun : (run.begun a).Inv request := h.inv.begin _ _
  have hfinished : (run₁.finished a).written = run₁.written := rfl
  rw [hfinished]
  unfold AttemptsSecond
  rw [transfer_eq hbegun hkeeps] at htransfer
  split at htransfer
  . next hslow =>
    rw [Option.some.injEq] at htransfer
    rw [← htransfer]
    refine ⟨⟨[], by simp [fail, begun]⟩, ?_⟩
    simp [fail, begun, hslow]
  . next hslow =>
    rw [Option.map_eq_some_iff] at htransfer
    obtain ⟨s, hrun, rfl⟩ := htransfer
    refine ⟨BulkLoop.written_run hrun, ?_⟩
    intro hdata hwaits
    have hlifecycle := hwaits.begun a
    have hiff := BulkLoop.written_run_iff_of_null hkeeps (if_neg (by simp [hdata])) hlifecycle.1
      hlifecycle.2 (request.limit_ne_zero a.realtimeActive) hrun
    have hslow : request.lowSpeedFlag = false := by simpa using hslow
    simp only [hslow, true_and]
    exact hiff

theorem written_attempts (h : run.Placed request) (hkeeps : request.keepsProgress = true)
    {as : List BulkAttempt} (hattempts : run.attempts request as = some run')
    : ∃ extra, run'.written = run.written ++ extra := by
  induction as generalizing run with
  | nil =>
    unfold BulkRun.attempts at hattempts
    rw [Option.some.injEq] at hattempts
    exact ⟨[], by simp [hattempts]⟩
  | cons a as ih =>
    unfold BulkRun.attempts at hattempts
    split at hattempts
    . rw [Option.some.injEq] at hattempts
      exact ⟨[], by simp [hattempts]⟩
    . split at hattempts
      . contradiction
      . next run₁ hattempt =>
        obtain ⟨first, hfirst⟩ := (written_attempt h hkeeps hattempt).1
        obtain ⟨rest, hrest⟩ := ih (h.attempt hkeeps hattempt) hattempts
        exact ⟨first ++ rest, by rw [hrest, hfirst, List.append_assoc]⟩

theorem written_attempts_iff (h : run.Placed request) (hkeeps : request.keepsProgress = true)
    (hdata : request.data = 0) (hwaits : run.done = false → run.Waits) (hnone : run.written = [])
    {as : List BulkAttempt} (hattempts : run.attempts request as = some run')
    : run'.written = [] ↔ run.SingleChunks request as := by
  induction as generalizing run with
  | nil =>
    unfold BulkRun.attempts at hattempts
    rw [Option.some.injEq] at hattempts
    simp [← hattempts, hnone, SingleChunks]
  | cons a as ih =>
    unfold BulkRun.attempts at hattempts
    unfold SingleChunks
    split at hattempts
    . next hdone =>
      rw [Option.some.injEq] at hattempts
      simp [← hattempts, hnone, hdone]
    . next hdone =>
      rw [Bool.not_eq_true] at hdone
      split at hattempts
      . contradiction
      . next run₁ hattempt =>
        have hplaced := h.attempt hkeeps hattempt
        have hsecond := (written_attempt h hkeeps hattempt).2 hdata (hwaits hdone)
        rw [hnone] at hsecond
        have hrest (hwritten : run₁.written = []) :=
          ih hplaced (waits_of_attempt hattempt) hwritten hattempts
        constructor
        . intro hwritten
          obtain ⟨extra, hextra⟩ := written_attempts hplaced hkeeps hattempts
          rw [hwritten] at hextra
          have hfirst := (List.append_eq_nil_iff.mp hextra.symm).1
          refine Or.inr ⟨hsecond.mp hfirst, ?_⟩
          intro run₂ hrun₂
          rw [hattempt, Option.some.injEq] at hrun₂
          rw [← hrun₂]
          exact (hrest hfirst).mp hwritten
        . intro hsingle
          cases hsingle with
          | inl hdone' => simp [hdone] at hdone'
          | inr hsingle => exact (hrest (hsecond.mpr hsingle.1)).mpr (hsingle.2 run₁ hattempt)

/-- The buffer holds what the firmware returned, in order, and nothing else is written. -/
structure Correct (run : BulkRun) (request : BulkRequest) : Prop where
  actual_eq : run.done = true → run.ior.error = .noError →
    run.ior.actual.toNat = run.returned.length
  returned_le : run.returned.length ≤ request.length.toNat
  contents : request.data ≠ 0 → run.written = copyTo request.data run.returned
  once : request.data ≠ 0 → (run.written.map Prod.fst).Nodup
  within : ∀ w ∈ run.written, request.data ≤ w.1 ∧ w.1 < request.data + request.length.toNat
  null : request.data = 0 → run.written = []

/-- The transfer is correct exactly if it has a buffer or is never split in an attempt. -/
theorem attempts_correct_iff {enqueueSeq : UInt32} {as : List BulkAttempt}
    (hkeeps : request.keepsProgress = true)
    (hattempts : (start request enqueueSeq).attempts request as = some run)
    : run.Correct request
        ↔
      request.data ≠ 0 ∨ (start request enqueueSeq).SingleChunks request as := by
  have hplaced := (placed_start request enqueueSeq).attempts hkeeps hattempts
  have hreturned : run.returned.length ≤ request.length.toNat := by
    rw [hplaced.inv.returned_eq]
    exact hplaced.inv.bulkActual_le
  by_cases hdata : request.data = 0
  . have hwaits : (start request enqueueSeq).Waits := ⟨rfl, rfl⟩
    have hiff := written_attempts_iff (placed_start request enqueueSeq) hkeeps hdata
      (fun _ => hwaits) rfl hattempts
    rw [← hiff]
    simp only [hdata, ne_eq, not_true_eq_false, false_or]
    constructor
    . intro h
      exact h.null hdata
    . intro hnone
      exact ⟨hplaced.actual_eq, hreturned, by simp [hdata], by simp [hdata], by simp [hnone],
        fun _ => hnone⟩
  . simp only [hdata, ne_eq, not_false_eq_true, true_or, iff_true]
    have hwritten := hplaced.inv.written_eq hdata
    refine ⟨hplaced.actual_eq, hreturned, hplaced.inv.written_eq, ?_, ?_, by simp [hdata]⟩
    . intro _
      rw [hwritten]
      apply nodup_copyTo
    . intro w hw
      rw [hwritten] at hw
      have := mem_copyTo hw
      omega

/-- A transfer that waits for data is resumed, and its request has a buffer. -/
theorem attempts_correct_resumed
    : ∃ run : BulkRun,
        (start ⟨4096, 3, .input, 2, false, 0, false⟩ 1).attempts ⟨4096, 3, .input, 2, false, 0, false⟩ [
          ⟨1, 1, true, [
            ⟨false, EngineStatus.ok, 2, fun _ => 7⟩, ⟨false, EngineStatus.nak, 0, fun _ => 0⟩], false⟩,
          ⟨2, 1, false, [⟨false, EngineStatus.ok, 1, fun _ => 8⟩], false⟩] = some run
          ∧ run.Correct ⟨4096, 3, .input, 2, false, 0, false⟩ := by
  refine Exists.imp (fun run hrun => ⟨hrun, ?_⟩) (Option.isSome_iff_exists.mp (by decide +kernel))
  rw [attempts_correct_iff rfl hrun]
  exact Or.inl (by decide)

theorem attempts_null_not_correct
    : ¬∀ (request : BulkRequest) (as : List BulkAttempt) (run : BulkRun),
        request.keepsProgress = true → (start request 1).attempts request as = some run →
          run.Correct request := by
  intro h
  -- Two chunks of one byte are read without a buffer, and the second one is written to address 1.
  let request : BulkRequest := ⟨0, 2, .input, 1, false, 0, false⟩
  let as : List BulkAttempt := [⟨1, 1, true, [
    ⟨false, EngineStatus.ok, 1, fun _ => 7⟩, ⟨false, EngineStatus.ok, 1, fun _ => 8⟩], false⟩]
  have hwritten
      : ((start request 1).attempts request as).any (fun run => run.written = [(1, 8)]) = true := by
    decide +kernel
  rw [Option.any_eq_true] at hwritten
  obtain ⟨run, hrun, hwritten⟩ := hwritten
  rw [decide_eq_true_eq, (h request as run rfl hrun).null rfl] at hwritten
  contradiction

end BulkRun

end ZZUsb
