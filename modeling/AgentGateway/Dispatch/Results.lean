import AgentGateway.Dispatch.Recovery

/-!
# Stored results

`complete_success` is the only way to SUCCESS: it ends the claim, rotates the Hermes session of the
thread and stores the raw result in one transaction. `confirm_success` asks for a stored result
first, and there is none as long as a record is uncertain. So a result exists exactly for the
records that have succeeded, in every state that workers, scans and operators can reach.
-/

namespace AgentGateway.Dispatch

open Lib Lib.Table Lib.Run Hermes

/-! ## One transaction -/

/-- The session of a thread after `complete_success`. -/
def Rotated (outcome : HermesDispatchOutcome) (threads threads' : List AIThread) : Prop :=
  match outcome.requestedHermesThreadId with
  | none => threads' = threads
  | some requested => ∃ next, outcome.nextHermesThreadId = some next ∧
    (∃ thread ∈ threads, thread.id = outcome.aiThreadId ∧
      thread.hermesThreadId = some requested) ∧
    threads' = updateWhere
      (fun thread : AIThread => thread.id = outcome.aiThreadId ∧
        thread.hermesThreadId = some requested)
      (fun thread => { thread with hermesThreadId := some next }) threads

section Completion

variable {tables tables' : DispatchTables} {recordId responseId : ℕ} {token : String}
  {outcome : HermesDispatchOutcome} {dbNow : Timestamp}

lemma rotateHermesThread_eq_ok {threads threads' : List AIThread}
    (h : rotateHermesThread recordId outcome threads = .ok threads') :
    Rotated outcome threads threads' := by
  unfold rotateHermesThread at h
  unfold Rotated
  cases hrequested : outcome.requestedHermesThreadId with
  | none =>
    rw [hrequested] at h
    exact (Except.ok.inj h).symm
  | some requested =>
    rw [hrequested] at h
    dsimp only at h ⊢
    split at h
    · cases h
    · rename_i next hnext
      simp only [bind_eq_ok, raiseIf_eq_ok] at h
      obtain ⟨-, -, h⟩ := h
      split at h
      · rename_i rotated hrotated
        cases h
        obtain ⟨hthreads, hrow⟩ := guardedUpdate_eq_some hrotated
        exact ⟨next, hnext, hrow, hthreads⟩
      · cases h

lemma completeSuccess_threads
    (h : completeSuccess recordId token outcome responseId dbNow tables = .ok tables') :
    rotateHermesThread recordId outcome tables.threads = .ok tables'.threads := by
  simp only [completeSuccess, bind_eq_ok, raiseIf_eq_ok] at h
  obtain ⟨_, -, threads, hthreads, -, -, h⟩ := h
  cases h
  exact hthreads

/-- **All of `complete_success` or nothing**: the record, the session and the response. -/
theorem step_completeSuccess_cases (tables : DispatchTables) (recordId : ℕ) (token : String)
    (outcome : HermesDispatchOutcome) (responseId : ℕ) (dbNow : Timestamp) :
    step tables (.completeSuccess recordId token outcome responseId dbNow) = tables ∨
    ∃ tables', step tables (.completeSuccess recordId token outcome responseId dbNow) = tables' ∧
      (∃ record ∈ tables.records, CompletionGuard recordId token outcome dbNow record ∧
        record.completed .success none dbNow ∈ tables'.records) ∧
      Rotated outcome tables.threads tables'.threads ∧
      tables'.responses = tables.responses ++ [newResponse responseId recordId outcome] := by
  cases hattempt : attempt tables (.completeSuccess recordId token outcome responseId dbNow) with
  | none => exact Or.inl (step_eq_of_attempt_eq_none hattempt)
  | some tables' =>
    have hcomplete := toOption_eq_some hattempt
    obtain ⟨hrecords, ⟨record, hmem, hguard⟩, hresponses, -⟩ := completeSuccess_eq_ok hcomplete
    refine Or.inr ⟨tables', step_of_attempt_eq_some hattempt, ⟨record, hmem, hguard, ?_⟩,
      rotateHermesThread_eq_ok (completeSuccess_threads hcomplete), hresponses⟩
    rw [hrecords]
    exact mem_updateWhere_of_pos hmem hguard

end Completion

/-! ## One step -/

/-- The invariant: a result is stored exactly for the records that have succeeded. -/
structure ResultsStored (tables : DispatchTables) : Prop where
  ids : UniqueKeys HermesDispatchRecord.id tables.records
  succeeded : ∀ response ∈ tables.responses,
    ∃ record ∈ tables.records, record.id = response.dispatchRecordId ∧ record.status = .success
  stored : ∀ record ∈ tables.records, record.status = .success →
    ∃ response ∈ tables.responses, response.dispatchRecordId = record.id

section Steps

variable {tables tables' : DispatchTables} {call : Call} {record record' : HermesDispatchRecord}

/-- Most calls leave the threads and the responses alone. -/
lemma step_frame (tables : DispatchTables) (call : Call) :
    ((step tables call).threads = tables.threads ∧
      (step tables call).responses = tables.responses) ∨
    (∃ recordId token outcome responseId dbNow,
      call = .completeSuccess recordId token outcome responseId dbNow) ∨
    ∃ threadId hermesThreadId, call = .claimHermesThread threadId hermesThreadId := by
  have hrecords : ∀ {updated}, attempt tables call = withRecords tables updated →
      (step tables call).threads = tables.threads ∧
        (step tables call).responses = tables.responses := by
    intro updated hattempt
    cases updated with
    | error error => rw [step, hattempt]; exact ⟨rfl, rfl⟩
    | ok records => rw [step, hattempt]; exact ⟨rfl, rfl⟩
  have hresolve : ∀ {action afterStatus evidence request}, attempt tables call =
      recovered (resolve action afterStatus evidence request tables) →
      (step tables call).threads = tables.threads ∧
        (step tables call).responses = tables.responses := by
    intro action afterStatus evidence request hattempt
    cases hresult : resolve action afterStatus evidence request tables with
    | error error =>
      rw [hresult] at hattempt
      rw [step, hattempt]
      exact ⟨rfl, rfl⟩
    | ok result =>
      obtain ⟨tables', result⟩ := result
      rw [hresult] at hattempt
      rw [step_of_attempt_eq_some hattempt]
      rcases resolve_eq_ok hresult with rfl | ⟨-, -, -, hthreads, hresponses⟩
      · exact ⟨rfl, rfl⟩
      · exact ⟨hthreads, hresponses⟩
  cases call with
  | completeSuccess recordId token outcome responseId dbNow =>
    exact Or.inr (Or.inl ⟨_, _, _, _, _, rfl⟩)
  | claimHermesThread threadId hermesThreadId => exact Or.inr (Or.inr ⟨_, _, rfl⟩)
  | finalizeExhausted now retryLimit dbNow => exact Or.inl ⟨rfl, rfl⟩
  | retryApproved | markDeadByOperator | confirmSuccess => exact Or.inl (hresolve rfl)
  | _ => exact Or.inl (hrecords rfl)

lemma responses_claimHermesThread (tables : DispatchTables) (threadId hermesThreadId : String) :
    (step tables (.claimHermesThread threadId hermesThreadId)).responses = tables.responses := by
  rw [step, attempt]
  cases claimHermesThread threadId hermesThreadId tables.threads <;> rfl

/-- Only `complete_success` stores a response. -/
lemma responses_step_cases (tables : DispatchTables) (call : Call) :
    (step tables call).responses = tables.responses ∨
      ∃ recordId token outcome responseId dbNow,
        call = .completeSuccess recordId token outcome responseId dbNow := by
  rcases step_frame tables call with hframe | hcomplete | ⟨threadId, hermesThreadId, rfl⟩
  · exact Or.inl hframe.2
  · exact Or.inr hcomplete
  · exact Or.inl (responses_claimHermesThread tables threadId hermesThreadId)

/-- `confirm_success` needs a stored response to change anything. -/
lemma step_confirmSuccess_cases (tables : DispatchTables) (request : RecoveryRequest)
    (evidence : NormalizedEvidence) :
    step tables (.confirmSuccess request evidence) = tables ∨
      ∃ response ∈ tables.responses, response.dispatchRecordId = request.recordId := by
  cases hresult : resolve .confirmSuccess .success (some evidence) request tables with
  | error error =>
    rw [step, attempt, confirmSuccess, hresult]
    exact Or.inl rfl
  | ok result =>
    unfold resolve at hresult
    split at hresult
    · rename_i existing haudit
      simp only [bind_eq_ok] at hresult
      obtain ⟨replayed, hreplayed, hresult⟩ := hresult
      rw [step, attempt, confirmSuccess, resolve, haudit]
      dsimp only
      rw [hreplayed]
      exact Or.inl rfl
    · split at hresult
      · cases hresult
      · simp only [bind_eq_ok, raiseIf_eq_ok] at hresult
        obtain ⟨-, -, evidenceId, hevidence, -⟩ := hresult
        exact Or.inr (evidenceIdFor_eq_ok hevidence)

/-- No step removes a stored response. -/
lemma responses_step_subset (tables : DispatchTables) (call : Call) :
    tables.responses ⊆ (step tables call).responses := by
  rcases responses_step_cases tables call with hsame | ⟨recordId, token, outcome, responseId, dbNow,
    rfl⟩
  · exact hsame ▸ List.Subset.refl _
  · rcases step_completeSuccess_cases tables recordId token outcome responseId dbNow with
      hnone | ⟨tables', hstep, -, -, hresponses⟩
    · rw [hnone]
      exact List.Subset.refl _
    · rw [hstep, hresponses]
      exact List.subset_append_left _ _

lemma failedStatus_ne_success (retryLimit : Option ℕ) (record : HermesDispatchRecord) :
    failedStatus retryLimit record ≠ .success := by
  unfold failedStatus
  split
  · nofun
  · split_ifs <;> nofun

/-- How a record comes to SUCCESS. -/
lemma Move.success_cases {records : List HermesDispatchRecord}
    (h : Move records call record record') (hmarks : ¬ call.MarksSuccess)
    (hsuccess : record'.status = .success) :
    record' = record ∨
    (∃ token outcome responseId dbNow,
      call = .completeSuccess record.id token outcome responseId dbNow) ∨
    record.status = .uncertain ∧ ∃ request evidence, call = .confirmSuccess request evidence ∧
      request.recordId = record.id := by
  cases h with
  | stay => exact Or.inl rfl
  | claimed | exhausted | expired => cases hsuccess
  | renewed hheld =>
    exact absurd (hsuccess.symm.trans hheld.2.1) nofun
  | completed hcall =>
    have hstatus : call.completedStatus record = .success := hsuccess
    cases call with
    | completeSuccess recordId token outcome responseId dbNow =>
      cases hcall
      exact Or.inr (Or.inl ⟨_, _, _, _, rfl⟩)
    | markSuccess => exact absurd trivial hmarks
    | markFailed recordId token errorCode retryLimit dbNow =>
      exact absurd hstatus (failedStatus_ne_success _ _)
    | markUncertain | markDead => cases hstatus
    | _ => cases hcall
  | @resolved _ afterStatus hcall huncertain =>
    have hstatus : afterStatus = .success := hsuccess
    subst hstatus
    cases call with
    | confirmSuccess request evidence =>
      simp only [Call.recovery?, Option.some.injEq, Prod.mk.injEq] at hcall
      exact Or.inr (Or.inr ⟨huncertain, request, evidence, rfl, hcall.1⟩)
    | _ => simp [Call.recovery?] at hcall

/-- A stored result belongs to a finished record. -/
lemma ResultsStored.no_response (h : ResultsStored tables) (hmem : record ∈ tables.records)
    (hopen : record.status ≠ .success) :
    ∀ response ∈ tables.responses, response.dispatchRecordId ≠ record.id := by
  intro response hresponse hid
  obtain ⟨finished, hfinished, hfinishedId, hsuccess⟩ := h.succeeded response hresponse
  obtain rfl := h.ids.eq_of_key_eq hfinished hmem (hfinishedId.trans hid)
  exact hopen hsuccess

/-- A record that has succeeded after a step had done so before, or the step is its
`complete_success`. -/
lemma ResultsStored.success_cases (h : ResultsStored tables) (hmarks : ¬ call.MarksSuccess)
    (hmem : record' ∈ (step tables call).records) (hsuccess : record'.status = .success) :
    record' ∈ tables.records ∨ ∃ token outcome responseId dbNow,
      call = .completeSuccess record'.id token outcome responseId dbNow := by
  rcases step_origin hmem with ⟨record, hbefore, hmove⟩ | ⟨_, _, _, _, -, -, rfl, -⟩
  · rw [hmove.identity.1]
    rcases hmove.success_cases hmarks hsuccess with rfl | hcomplete | ⟨huncertain, request,
      evidence, rfl, hid⟩
    · exact Or.inl hbefore
    · exact Or.inr hcomplete
    · rcases step_confirmSuccess_cases tables request evidence with hsame | ⟨response, hresponse,
        hresponseId⟩
      · exact Or.inl (hsame ▸ hmem)
      · refine absurd (hresponseId.trans hid) (h.no_response hbefore ?_ response hresponse)
        rw [huncertain]
        exact HermesDispatchStatus.noConfusion
  · cases hsuccess

/-- No call that a worker, a scan or an operator makes breaks the invariant. -/
lemma ResultsStored.step (h : ResultsStored tables) (hmarks : ¬ call.MarksSuccess) :
    ResultsStored (step tables call) := by
  have hfinished : ∀ response ∈ tables.responses, ∃ record ∈ (Dispatch.step tables call).records,
      record.id = response.dispatchRecordId ∧ record.status = .success := by
    intro response hresponse
    obtain ⟨record, hmem, hid, hsuccess⟩ := h.succeeded response hresponse
    exact ⟨record, step_keeps_finished hmem (Or.inl hsuccess) call, hid, hsuccess⟩
  -- a record that had succeeded before still has its response
  have hold : ∀ record ∈ tables.records, record.status = .success →
      ∃ response ∈ (Dispatch.step tables call).responses,
        response.dispatchRecordId = record.id := by
    intro record hmem hsuccess
    obtain ⟨response, hresponse, hid⟩ := h.stored record hmem hsuccess
    exact ⟨response, responses_step_subset tables call hresponse, hid⟩
  refine ⟨step_uniqueIds h.ids, fun response hresponse => ?_, fun record hmem hsuccess => ?_⟩
  · rcases responses_step_cases tables call with hsame | ⟨recordId, token, outcome, responseId,
      dbNow, rfl⟩
    · exact hfinished response (hsame ▸ hresponse)
    · rcases step_completeSuccess_cases tables recordId token outcome responseId dbNow with
        hnone | ⟨tables', hstep, ⟨record, hmem, hguard, hrecord⟩, -, hresponses⟩
      · exact hfinished response (by rwa [hnone] at hresponse)
      · rw [hstep, hresponses] at hresponse
        rcases mem_concat.mp hresponse with hbefore | rfl
        · exact hfinished response hbefore
        · rw [hstep]
          exact ⟨_, hrecord, hguard.1.1, rfl⟩
  · rcases h.success_cases hmarks hmem hsuccess with hbefore | ⟨token, outcome, responseId, dbNow,
      rfl⟩
    · exact hold record hbefore hsuccess
    · rcases step_completeSuccess_cases tables record.id token outcome responseId dbNow with
        hnone | ⟨tables', hstep, -, -, hresponses⟩
      · exact hold record (hnone ▸ hmem) hsuccess
      · rw [hstep, hresponses]
        exact ⟨_, List.mem_append_right _ List.mem_cons_self, rfl⟩

/-- Without a stored result the transaction of an operator leads to FAILED or DEAD. -/
lemma ResultsStored.commit {admin : Admin} {audit : HermesDispatchRecoveryAudit}
    (h : ResultsStored tables) (hafter : admin.action ≠ .confirmSuccess)
    (hcommit : admin.commit audit tables = .ok tables') : ResultsStored tables' := by
  obtain ⟨-, -, rfl⟩ := Admin.commit_spec hcommit
  refine ⟨h.ids.updateWhere fun _ => rfl, fun response hresponse => ?_, fun row hrow hsuccess => ?_⟩
  · obtain ⟨record, hmem, hid, hsuccess⟩ := h.succeeded response hresponse
    refine ⟨record, mem_updateWhere_of_not hmem ?_, hid, hsuccess⟩
    rintro ⟨-, huncertain⟩
    exact absurd (hsuccess.symm.trans huncertain) nofun
  · rcases updateWhere_cases hrow with ⟨hmem, -⟩ | ⟨record, -, -, rfl⟩
    · exact h.stored row hmem hsuccess
    · have hstatus : admin.action.afterStatus = .success := hsuccess
      cases haction : admin.action with
      | confirmSuccess => exact absurd haction hafter
      | retryApproved | markDead =>
        rw [haction] at hstatus
        cases hstatus

end Steps

/-! ## Whole runs -/

/-- A `confirm_success` in flight is about to commit only if a result is stored, and returns nothing
but replays. -/
structure Admin.Confirms (admin : Admin) (responses : List HermesDispatchResponse) : Prop where
  evidence : ∀ record evidenceId, admin.phase = .ready record evidenceId →
    ∃ response ∈ responses, response.dispatchRecordId = admin.request.recordId
  replayed : ∀ result, admin.phase = .returned (.ok result) → result.idempotent = true

/-- The invariant with the calls in flight. -/
structure AdminWorld.ResultsStored (w : AdminWorld) : Prop where
  tables : Dispatch.ResultsStored w.world.tables
  confirms : ∀ admin ∈ w.admins, admin.action = .confirmSuccess →
    admin.Confirms w.world.tables.responses

section Runs

variable {w : AdminWorld} {admin : Admin} {tables' : DispatchTables} {phase : AdminPhase}

lemma Admin.Confirms.mono {responses responses' : List HermesDispatchResponse}
    (h : admin.Confirms responses) (hsubset : responses ⊆ responses') :
    admin.Confirms responses' := by
  refine ⟨fun record evidenceId hphase => ?_, h.replayed⟩
  obtain ⟨response, hresponse, hid⟩ := h.evidence record evidenceId hphase
  exact ⟨response, hsubset hresponse, hid⟩

/-- A `confirm_success` never commits: its record would have to be uncertain and have a result. -/
lemma AdminWorld.ResultsStored.not_committed (h : w.ResultsStored)
    {record : HermesDispatchRecord} {evidenceId : Option ℕ}
    (hconfirms : admin.Confirms w.world.tables.responses)
    (hphase : admin.phase = .ready record evidenceId) {audit : HermesDispatchRecoveryAudit} :
    admin.commit audit w.world.tables ≠ .ok tables' := by
  intro hcommit
  obtain ⟨-, ⟨row, hrow, hid, huncertain⟩, -⟩ := Admin.commit_spec hcommit
  obtain ⟨response, hresponse, hresponseId⟩ := hconfirms.evidence record evidenceId hphase
  refine h.tables.no_response hrow ?_ response hresponse (hresponseId.trans hid.symm)
  rw [huncertain]
  exact HermesDispatchStatus.noConfusion

/-- A `confirm_success` leaves the tables alone, has seen a result before it commits, and returns the
replay of an audit. -/
lemma AdminWorld.ResultsStored.confirm (h : w.ResultsStored) (hadmin : admin ∈ w.admins)
    (hconfirm : admin.action = .confirmSuccess)
    (hmove : AdminMove w.world.tables admin tables' phase) :
    tables' = w.world.tables ∧
      ({ admin with phase := phase } : Admin).Confirms w.world.tables.responses := by
  have hconfirms := h.confirms admin hadmin hconfirm
  cases hmove with
  | idle => exact ⟨rfl, hconfirms⟩
  | verified hphase hevidence => exact ⟨rfl, fun _ _ _ => hevidence hconfirm, by rintro _ ⟨⟩⟩
  | replayed hmem hkey =>
    refine ⟨rfl, by rintro _ _ ⟨⟩, fun result hresult => ?_⟩
    have hreplay := AdminPhase.returned.inj hresult
    simp only [idempotentResult, bind_eq_ok] at hreplay
    obtain ⟨-, -, hreplay⟩ := hreplay
    cases hreplay
    rfl
  | committed hphase hcommit => exact absurd hcommit (h.not_committed hconfirms hphase)
  | _ => exact ⟨rfl, by rintro _ _ ⟨⟩, by rintro _ ⟨⟩⟩

/-- A statement of an operator keeps the invariant of the tables, and stores no response. -/
lemma AdminWorld.ResultsStored.advanced_tables (h : w.ResultsStored) (hadmin : admin ∈ w.admins)
    (hmove : AdminMove w.world.tables admin tables' phase) :
    Dispatch.ResultsStored tables' ∧ tables'.responses = w.world.tables.responses := by
  cases hmove with
  | committed hphase hcommit =>
    refine ⟨h.tables.commit (fun hconfirm => ?_) hcommit, ?_⟩
    · exact h.not_committed (h.confirms admin hadmin hconfirm) hphase hcommit
    · obtain ⟨-, -, rfl⟩ := Admin.commit_spec hcommit
      rfl
  | _ => exact ⟨h.tables, rfl⟩

theorem AdminWorld.ResultsStored.step (h : w.ResultsStored) (action : AdminAction) :
    (w.step action).ResultsStored := by
  have hstep := w.step_move action
  generalize w.step action = w' at hstep ⊢
  cases hstep with
  | unchanged => exact h
  | idled htables => exact ⟨htables ▸ h.tables, htables ▸ h.confirms⟩
  | worked hmarks hrecovery htables =>
    refine ⟨htables ▸ h.tables.step hmarks, fun admin hadmin hconfirm => ?_⟩
    exact (h.confirms admin hadmin hconfirm).mono (htables ▸ responses_step_subset _ _)
  | began =>
    refine ⟨h.tables, fun admin hadmin => ?_⟩
    rcases mem_concat.mp hadmin with hold | rfl
    · exact h.confirms admin hold
    · exact fun _ => ⟨by rintro _ _ ⟨⟩, by rintro _ ⟨⟩⟩
  | @advanced _ admin tables _ hget hmove =>
    have hadmin : admin ∈ w.admins := List.mem_of_getElem? hget
    obtain ⟨hnew, hresponses⟩ := h.advanced_tables hadmin hmove
    refine ⟨hnew, fun other hother hconfirm => ?_⟩
    change other.Confirms tables.responses
    rw [hresponses]
    rcases List.mem_or_eq_of_mem_set hother with hold | rfl
    · exact h.confirms other hold hconfirm
    · exact (h.confirm hadmin hconfirm hmove).2

lemma adminWorldAfter_resultsStored (threads : List AIThread) (actions : List AdminAction) :
    (adminWorldAfter threads actions).ResultsStored := by
  refine run_invariant (fun w action h => h.step action) ?_ actions
  exact ⟨⟨List.nodup_nil, by simp [initial], by simp [initial]⟩, by simp⟩

end Runs

/-- **A raw result exists exactly for SUCCESS.** At every point of every run of workers, scans and
operators:

* a response is stored for a record if and only if the record has succeeded, so for none that is
  uncertain,
* `complete_success` moves the record, rotates the session of the thread and stores the response, or
  does nothing,
* no statement of a `confirm_success` changes anything, and what one returns is the replay of an
  audit. -/
theorem raw_result_iff_success (threads : List AIThread) (actions : List AdminAction) :
    let w := adminWorldAfter threads actions
    let tables := w.world.tables
    (∀ recordId, (∃ response ∈ tables.responses, response.dispatchRecordId = recordId) ↔
      ∃ record ∈ tables.records, record.id = recordId ∧ record.status = .success) ∧
    (∀ record ∈ tables.records, record.status = .uncertain →
      ∀ response ∈ tables.responses, response.dispatchRecordId ≠ record.id) ∧
    (∀ recordId token outcome responseId dbNow,
      let tables' := step tables (.completeSuccess recordId token outcome responseId dbNow)
      tables' = tables ∨
        (∃ record ∈ tables.records, CompletionGuard recordId token outcome dbNow record ∧
          record.completed .success none dbNow ∈ tables'.records) ∧
        Rotated outcome tables.threads tables'.threads ∧
        tables'.responses = tables.responses ++ [newResponse responseId recordId outcome]) ∧
    (∀ index admin evidence answer, w.admins[index]? = some admin →
      admin.action = .confirmSuccess →
      (w.step (.advance index evidence answer)).world.tables = tables) ∧
    (∀ admin ∈ w.admins, admin.action = .confirmSuccess →
      ∀ result, admin.phase = .returned (.ok result) →
        result.idempotent = true ∧ Witnessed tables admin result) := by
  intro w tables
  have hstored := adminWorldAfter_resultsStored threads actions
  have haudited := adminWorldAfter_audited threads actions
  refine ⟨fun recordId => ⟨?_, ?_⟩, ?_, ?_, ?_, ?_⟩
  · rintro ⟨response, hresponse, rfl⟩
    exact hstored.tables.succeeded response hresponse
  · rintro ⟨record, hmem, rfl, hsuccess⟩
    exact hstored.tables.stored record hmem hsuccess
  · intro record hmem huncertain
    refine hstored.tables.no_response hmem ?_
    rw [huncertain]
    exact HermesDispatchStatus.noConfusion
  · intro recordId token outcome responseId dbNow
    rcases step_completeSuccess_cases tables recordId token outcome responseId dbNow with
      hnone | ⟨tables', hstep, hcommitted⟩
    · exact Or.inl hnone
    · exact Or.inr (hstep ▸ hcommitted)
  · intro index admin evidence answer hget hconfirm
    rw [AdminWorld.step, hget]
    exact (hstored.confirm (List.mem_of_getElem? hget) hconfirm (adminStep_move _ _ _ _)).1
  · intro admin hadmin hconfirm result hresult
    exact ⟨(hstored.confirms admin hadmin hconfirm).replayed result hresult,
      haudited.returned admin hadmin result hresult⟩

end AgentGateway.Dispatch
