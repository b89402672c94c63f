import ZZ9000.UsbPoseidon.Engine

/-!
This module shows that a request completes exactly once: whatever operations are applied to it, it
is claimed and released at most once, and neither a recorded abort nor a terminal state is undone.
-/

namespace ZZUsb

/-- What an operation returns and what it does to the request, stated once for all operations. -/
inductive EngineOp.Effect (request : EngineRequest) : EngineOp → Bool → EngineRequest → Prop where
  | refused (op : EngineOp) : Effect request op false request
  | queued (h : request.state = .free) :
    Effect request .queue true { request with state := .queued }
  | dispatched (h : request.state = .queued) :
    Effect request .dispatch true { request with state := .dispatching }
  | begun (h : request.state = .dispatching) (requestId controllerEpoch : UInt32) :
    Effect request (.begin requestId controllerEpoch) true
      { request with requestId, controllerEpoch, state := .inFlight }
  | retried (h : request.state = .inFlight) (habort : request.abortRequested = false)
      (transportStatus : UInt16) :
    Effect request (.retry transportStatus) true
      { request with
        requestId := 0, controllerEpoch := 0, transportStatus, terminalResult := .none,
        state := .queued }
  | abortRecorded (h : request.state ≠ .terminal) :
    Effect request .abort false { request with abortRequested := true }
  | abortedQueued (h : request.state = .queued) :
    Effect request .abort true
      { request with
        abortRequested := true, transportStatus := EngineStatus.cancelled,
        terminalResult := .aborted, state := .terminal }
  | timedOut (h : request.state = .inFlight) :
    Effect request .timeout true { request with state := .retiring }
  | completed (h : request.state = .inFlight ∨ request.state = .retiring)
      (result : TerminalResult) (transportStatus : UInt16) :
    Effect request (.complete request.requestId request.controllerEpoch transportStatus) true
      { request with
        transportStatus, terminalResult := if request.abortRequested then .aborted else result,
        state := .terminal }
  | retired (h : request.state ≠ .terminal) (result : TerminalResult) (transportStatus : UInt16) :
    Effect request (.retire result transportStatus) true
      { request with
        transportStatus, terminalResult := if request.abortRequested then .aborted else result,
        state := .terminal }
  | claimed (h : request.state = .terminal) (hclaim : request.replyClaimed = false) :
    Effect request .claimReply true { request with replyClaimed := true }
  | released (h : request.state = .terminal) (hrelease : request.bufferReleased = false) :
    Effect request .releaseBuffer true { request with bufferReleased := true }

namespace EngineRequest

theorem makeTerminal_of_active {request : EngineRequest} (hfree : request.state ≠ .free)
    (hterminal : request.state ≠ .terminal) (result : TerminalResult) (status : UInt16)
    (diag : List DiagCall)
    : request.makeTerminal result status diag
        =
      ⟨true,
       { request with
         transportStatus := status
         terminalResult := if request.abortRequested then .aborted else result
         state := .terminal },
       diag⟩ := by
  unfold makeTerminal
  rw [if_neg]
  simp [hfree, hterminal]

/-- An abort is only recorded in a request that is in flight. -/
theorem abort_of_inFlight {request : EngineRequest} (h : request.state = .inFlight)
    : request.abort.request = { request with abortRequested := true } := by
  unfold abort
  split
  . next hrefused =>
    have habort : request.abortRequested = true := by
      simpa [h] using hrefused
    unfold refuse
    rw [← habort]
  . simp [h]

open EngineOp (Effect)

theorem queue_effect (request : EngineRequest)
    : Effect request .queue request.queue.ret request.queue.request := by
  unfold queue
  split
  . apply Effect.refused
  . next h =>
    apply Effect.queued
    simpa using h

theorem dispatch_effect (request : EngineRequest)
    : Effect request .dispatch request.dispatch.ret request.dispatch.request := by
  unfold dispatch
  split
  . apply Effect.refused
  . next h =>
    apply Effect.dispatched
    simpa using h

theorem begin_effect (request : EngineRequest) (requestId controllerEpoch : UInt32)
    : Effect request (.begin requestId controllerEpoch)
        (request.begin requestId controllerEpoch).ret
        (request.begin requestId controllerEpoch).request := by
  unfold begin
  split
  . apply Effect.refused
  . next h =>
    rw [not_or, not_not] at h
    apply Effect.begun
    exact h.1

theorem retry_effect (request : EngineRequest) (transportStatus : UInt16)
    : Effect request (.retry transportStatus)
        (request.retry transportStatus).ret
        (request.retry transportStatus).request := by
  unfold retry
  split
  . apply Effect.refused
  . next h =>
    rw [not_or, not_not] at h
    apply Effect.retried
    . exact h.1
    . simpa using h.2

theorem abort_effect (request : EngineRequest)
    : Effect request .abort request.abort.ret request.abort.request := by
  unfold abort
  split
  . apply Effect.refused
  . next h =>
    simp only [not_or] at h
    dsimp only
    split
    . next hqueued =>
      rw [makeTerminal_of_active]
      . apply Effect.abortedQueued
        exact hqueued
      . exact h.1
      . exact h.2.1
    . apply Effect.abortRecorded
      exact h.2.1

theorem timeout_effect (request : EngineRequest)
    : Effect request .timeout request.timeout.ret request.timeout.request := by
  unfold timeout
  split
  . apply Effect.refused
  . next h =>
    apply Effect.timedOut
    simpa using h

theorem complete_effect (request : EngineRequest) (requestId controllerEpoch : UInt32)
    (transportStatus : UInt16)
    : Effect request (.complete requestId controllerEpoch transportStatus)
        (request.complete requestId controllerEpoch transportStatus).ret
        (request.complete requestId controllerEpoch transportStatus).request := by
  unfold complete
  split
  . apply Effect.refused
  . next h =>
    have hactive : request.state = .inFlight ∨ request.state = .retiring := by tauto
    have hid : requestId = request.requestId := by tauto
    have hepoch : controllerEpoch = request.controllerEpoch := by tauto
    rw [hid, hepoch]
    dsimp only
    rw [makeTerminal_of_active]
    . apply Effect.completed
      exact hactive
    . cases hactive with
      | inl h => simp [h]
      | inr h => simp [h]
    . cases hactive with
      | inl h => simp [h]
      | inr h => simp [h]

theorem retire_effect (request : EngineRequest) (result : TerminalResult)
    (transportStatus : UInt16)
    : Effect request (.retire result transportStatus)
        (request.retire result transportStatus).ret
        (request.retire result transportStatus).request := by
  unfold retire
  split
  . apply Effect.refused
  . next h =>
    have hfree : request.state ≠ .free := by
      intro hfree
      simp [hfree] at h
    have hterminal : request.state ≠ .terminal := by
      intro hterminal
      simp [hterminal] at h
    dsimp only
    rw [makeTerminal_of_active hfree hterminal]
    apply Effect.retired
    exact hterminal

theorem claimReply_effect (request : EngineRequest)
    : Effect request .claimReply request.claimReply.ret request.claimReply.request := by
  unfold claimReply
  split
  . apply Effect.refused
  . next h =>
    rw [not_or, not_not] at h
    apply Effect.claimed
    . exact h.1
    . simpa using h.2

theorem releaseBuffer_effect (request : EngineRequest)
    : Effect request .releaseBuffer request.releaseBuffer.ret request.releaseBuffer.request := by
  unfold releaseBuffer
  split
  . apply Effect.refused
  . next h =>
    rw [not_or, not_not] at h
    apply Effect.released
    . exact h.1
    . simpa using h.2

end EngineRequest

open EngineRequest in
theorem EngineOp.apply_effect (op : EngineOp) (request : EngineRequest)
    : op.Effect request (op.apply request).ret (op.apply request).request := by
  cases op with
  | queue => apply queue_effect
  | dispatch => apply dispatch_effect
  | begin requestId controllerEpoch => apply begin_effect
  | retry transportStatus => apply retry_effect
  | abort => apply abort_effect
  | timeout => apply timeout_effect
  | complete requestId controllerEpoch transportStatus => apply complete_effect
  | retire result transportStatus => apply retire_effect
  | claimReply => apply claimReply_effect
  | releaseBuffer => apply releaseBuffer_effect

namespace EngineOp.Effect

variable {request request' : EngineRequest} {op : EngineOp} {ret : Bool}

theorem replyClaimed_eq (h : op.Effect request ret request')
    : request'.replyClaimed = (request.replyClaimed || (op = .claimReply && ret)) := by
  cases h <;> simp

theorem bufferReleased_eq (h : op.Effect request ret request')
    : request'.bufferReleased = (request.bufferReleased || (op = .releaseBuffer && ret)) := by
  cases h <;> simp

theorem of_claim (h : Effect request .claimReply true request')
    : request.state = .terminal ∧ request.replyClaimed = false := by
  cases h with
  | claimed h hclaim => exact ⟨h, hclaim⟩

theorem of_release (h : Effect request .releaseBuffer true request')
    : request.state = .terminal ∧ request.bufferReleased = false := by
  cases h with
  | released h hrelease => exact ⟨h, hrelease⟩

theorem of_retry {transportStatus : UInt16} (h : Effect request (.retry transportStatus) true request')
    : request.abortRequested = false := by
  cases h with
  | retried h habort => exact habort

theorem of_complete {requestId controllerEpoch : UInt32} {transportStatus : UInt16}
    (h : Effect request (.complete requestId controllerEpoch transportStatus) ret request')
    : request' = request
        ∨
      (request.state = .inFlight ∨ request.state = .retiring) ∧ requestId = request.requestId
        ∧ controllerEpoch = request.controllerEpoch := by
  cases h with
  | refused => left; rfl
  | completed h => right; exact ⟨h, rfl, rfl⟩

theorem state_of_terminal (h : op.Effect request ret request') (hterminal : request.state = .terminal)
    : request'.state = .terminal := by
  cases h <;> simp_all

theorem abortRequested_of_abortRequested (h : op.Effect request ret request')
    (habort : request.abortRequested = true)
    : request'.abortRequested = true := by
  cases h <;> simp_all

/-- A request that was aborted before it became terminal has the result of an abort. -/
theorem aborted_of_aborted (h : op.Effect request ret request')
    (hbefore : request.abortRequested = true → request.state = .terminal →
      request.terminalResult = .aborted)
    : request'.abortRequested = true → request'.state = .terminal →
        request'.terminalResult = .aborted := by
  cases h <;> simp_all

end EngineOp.Effect

/-- The current attempt is the one whose id and epoch an active request holds. -/
def EngineRequest.Attempts (request : EngineRequest) (attempt : Option (UInt32 × UInt32)) : Prop :=
  request.state = .inFlight ∨ request.state = .retiring →
    attempt = some (request.requestId, request.controllerEpoch)

theorem EngineStep.attempt_of_effect {step : EngineStep} {current : Option (UInt32 × UInt32)}
    (h : step.op.Effect step.before step.outcome.ret step.outcome.request)
    (hcurrent : step.before.Attempts current)
    : step.outcome.request.Attempts (step.attempt current) := by
  unfold attempt
  unfold EngineRequest.Attempts at *
  generalize step.op = op at *
  generalize step.outcome.ret = ret at *
  generalize step.outcome.request = request at *
  cases h with
  | refused => cases op <;> exact hcurrent
  | timedOut h => simpa [h] using hcurrent
  | abortRecorded h => simpa using hcurrent
  | claimed h | released h => simp [h]
  | _ => simp

/-! A run of the engine is a chain of such steps. -/

open EngineOp (Effect)

theorem engineRun_effect {request : EngineRequest} {ops : List EngineOp} {step : EngineStep}
    (h : step ∈ engineRun request ops)
    : step.op.Effect step.before step.outcome.ret step.outcome.request := by
  induction ops generalizing request with
  | nil => simp [engineRun] at h
  | cons op ops ih =>
    simp only [engineRun, List.mem_cons] at h
    cases h with
    | inl h =>
      rw [h]
      apply EngineOp.apply_effect
    | inr h =>
      apply ih
      exact h

theorem engineRun_tail {request : EngineRequest} {ops : List EngineOp} {pre post : List EngineStep}
    {step : EngineStep} (h : engineRun request ops = pre ++ step :: post)
    : ∃ rest, post = engineRun step.outcome.request rest := by
  induction ops generalizing request pre with
  | nil => simp [engineRun] at h
  | cons op ops ih =>
    cases pre with
    | nil =>
      simp only [engineRun, List.nil_append, List.cons.injEq] at h
      exists ops
      rw [← h.1, h.2]
    | cons first pre =>
      simp only [engineRun, List.cons_append, List.cons.injEq] at h
      apply ih
      exact h.2

/-- An operation that sets a flag, and succeeds only while it is clear, succeeds at most once. -/
theorem engineRun_countP_le {flag : EngineRequest → Bool} {op : EngineOp}
    (hflag : ∀ {request op' ret request'}, Effect request op' ret request' →
      flag request' = (flag request || (op' = op && ret)))
    (hclear : ∀ {request request'}, Effect request op true request' → flag request = false)
    (request : EngineRequest) (ops : List EngineOp)
    : (engineRun request ops).countP (fun step => step.op = op && step.outcome.ret)
        ≤
      if flag request then 0 else 1 := by
  induction ops generalizing request with
  | nil => simp [engineRun]
  | cons next ops ih =>
    have heffect := EngineOp.apply_effect next request
    have hrest := ih (next.apply request).request
    rw [hflag heffect] at hrest
    unfold engineRun
    rw [List.countP_cons]
    cases hnext : (next = op && (next.apply request).ret : Bool) with
    | false => simpa [hnext] using hrest
    | true =>
      simp only [Bool.and_eq_true, decide_eq_true_eq] at hnext
      obtain ⟨rfl, hret⟩ := hnext
      rw [hret] at heffect hrest
      rw [hclear heffect]
      simpa [hret] using hrest

theorem engineRun_aborted {request : EngineRequest} {ops : List EngineOp} {step : EngineStep}
    (hrequest : request.abortRequested = true → request.state = .terminal →
      request.terminalResult = .aborted)
    (h : step ∈ engineRun request ops)
    : step.outcome.request.abortRequested = true → step.outcome.request.state = .terminal →
        step.outcome.request.terminalResult = .aborted := by
  induction ops generalizing request with
  | nil => simp [engineRun] at h
  | cons op ops ih =>
    have hnext := (EngineOp.apply_effect op request).aborted_of_aborted hrequest
    simp only [engineRun, List.mem_cons] at h
    cases h with
    | inl h =>
      rw [h]
      exact hnext
    | inr h =>
      apply ih hnext
      exact h

theorem engineRun_abortRequested {request : EngineRequest} {ops : List EngineOp}
    {step : EngineStep} (hrequest : request.abortRequested = true)
    (h : step ∈ engineRun request ops)
    : step.before.abortRequested = true ∧ step.outcome.request.abortRequested = true := by
  induction ops generalizing request with
  | nil => simp [engineRun] at h
  | cons op ops ih =>
    have hnext := (EngineOp.apply_effect op request).abortRequested_of_abortRequested hrequest
    simp only [engineRun, List.mem_cons] at h
    cases h with
    | inl h =>
      rw [h]
      exact ⟨hrequest, hnext⟩
    | inr h =>
      apply ih hnext
      exact h

theorem engineRun_attempts {request : EngineRequest} {ops : List EngineOp}
    {pre post : List EngineStep} {step : EngineStep} {current : Option (UInt32 × UInt32)}
    (hrequest : request.Attempts current) (h : engineRun request ops = pre ++ step :: post)
    : step.before.Attempts (pre.foldl EngineStep.attempt current) := by
  induction ops generalizing request pre current with
  | nil => simp [engineRun] at h
  | cons op ops ih =>
    cases pre with
    | nil =>
      simp only [engineRun, List.nil_append, List.cons.injEq] at h
      rw [← h.1]
      exact hrequest
    | cons first pre =>
      simp only [engineRun, List.cons_append, List.cons.injEq] at h
      rw [List.foldl_cons]
      apply ih
      . apply EngineStep.attempt_of_effect
        . rw [← h.1]
          apply EngineOp.apply_effect
        . rw [← h.1]
          exact hrequest
      . rw [← h.2, ← h.1]

/-- The request that a run of operations was applied to completes exactly once. -/
structure CompletesOnce (steps : List EngineStep) : Prop where
  claims_le : steps.countP EngineStep.claims ≤ 1
  releases_le : steps.countP EngineStep.releases ≤ 1
  terminal_of_claims : ∀ step ∈ steps, step.claims = true → step.before.state = .terminal
  terminal_of_releases : ∀ step ∈ steps, step.releases = true → step.before.state = .terminal
  terminal_of_terminal : ∀ step ∈ steps,
    step.before.state = .terminal → step.outcome.request.state = .terminal
  not_retry_of_abort : ∀ pre step post, steps = pre ++ step :: post →
    step.outcome.request.abortRequested = true →
      ∀ later ∈ post, ∀ status, later.op = .retry status → later.outcome.ret = false
  aborted_of_abort : ∀ pre step post, steps = pre ++ step :: post →
    step.outcome.request.abortRequested = true →
      ∀ later ∈ step :: post, later.outcome.request.state = .terminal →
        later.outcome.request.terminalResult = .aborted
  eq_of_late : ∀ pre step post requestId controllerEpoch status,
    steps = pre ++ step :: post → step.op = .complete requestId controllerEpoch status →
      currentAttempt pre ≠ some (requestId, controllerEpoch) → step.outcome.request = step.before

theorem engineRun_completesOnce (observer : Bool) (ops : List EngineOp)
    : CompletesOnce (engineRun { EngineRequest.init with observer } ops) where
  claims_le := by
    apply engineRun_countP_le EngineOp.Effect.replyClaimed_eq
    intro request request' h
    exact h.of_claim.2
  releases_le := by
    apply engineRun_countP_le EngineOp.Effect.bufferReleased_eq
    intro request request' h
    exact h.of_release.2
  terminal_of_claims := by
    intro step hstep hclaims
    have heffect := engineRun_effect hstep
    simp only [EngineStep.claims, Bool.and_eq_true, decide_eq_true_eq] at hclaims
    rw [hclaims.1, hclaims.2] at heffect
    exact heffect.of_claim.1
  terminal_of_releases := by
    intro step hstep hreleases
    have heffect := engineRun_effect hstep
    simp only [EngineStep.releases, Bool.and_eq_true, decide_eq_true_eq] at hreleases
    rw [hreleases.1, hreleases.2] at heffect
    exact heffect.of_release.1
  terminal_of_terminal := by
    intro step hstep
    exact (engineRun_effect hstep).state_of_terminal
  not_retry_of_abort := by
    intro pre step post hsteps habort later hlater status hop
    cases engineRun_tail hsteps with
    | intro rest hrest =>
      have hbefore := (engineRun_abortRequested habort (hrest ▸ hlater)).1
      have heffect := engineRun_effect (hrest ▸ hlater)
      rw [hop] at heffect
      cases hret : later.outcome.ret with
      | false => rfl
      | true =>
        rw [hret] at heffect
        rw [heffect.of_retry] at hbefore
        contradiction
  aborted_of_abort := by
    intro pre step post hsteps habort later hlater
    have hmem : later ∈ engineRun { EngineRequest.init with observer } ops := by
      rw [hsteps]
      exact List.mem_append_right pre hlater
    refine engineRun_aborted ?_ hmem ?_
    . simp [EngineRequest.init]
    . rw [List.mem_cons] at hlater
      cases hlater with
      | inl h =>
        rw [h]
        exact habort
      | inr h =>
        cases engineRun_tail hsteps with
        | intro rest hrest => exact (engineRun_abortRequested habort (hrest ▸ h)).2
  eq_of_late := by
    intro pre step post requestId controllerEpoch status hsteps hop hlate
    have hmem : step ∈ engineRun { EngineRequest.init with observer } ops := by
      rw [hsteps]
      simp
    have heffect := engineRun_effect hmem
    rw [hop] at heffect
    cases heffect.of_complete with
    | inl h => exact h
    | inr h =>
      have hinit : ({ EngineRequest.init with observer } : EngineRequest).Attempts none := by
        simp [EngineRequest.Attempts, EngineRequest.init]
      rw [h.2.1, h.2.2] at hlate
      exact absurd (engineRun_attempts hinit hsteps h.1) hlate

end ZZUsb
