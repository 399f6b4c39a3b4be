import AgentGateway.Dispatch.Service
import AgentGateway.Lib.Run

/-!
# The dispatch tables as a transition system

Any number of workers, claim scans and operators act on the same tables. Each of them commits one
statement or one transaction at a time, so a run of the system is a list of committed calls in
commit order; a call that raises leaves the tables as they were.

`Move` says once what a call can do to a record. Everything the protocol results need to know
about the store methods goes through `step_records`, which says that a step either moves every
record by a `Move` or adds one queued record.
-/

namespace AgentGateway.Dispatch

open Lib Lib.Table Lib.Run Admission Hermes

/-! ## Calls and steps -/

/-- A call on the dispatch tables, with the clock readings and generated ids it uses. -/
inductive Call
  | enqueue (admission : AdmissionOutcome) (id : ℕ) (createdAt : Timestamp)
  | claim (recordId : ℕ) (claimToken : String) (lease : ℕ) (retryLimit : Int) (now : Timestamp)
  | renewLease (recordId : ℕ) (claimToken : String) (lease : ℕ) (now : Timestamp)
  | markSuccess (recordId : ℕ) (claimToken : String) (dbNow : Timestamp)
  | markFailed (recordId : ℕ) (claimToken errorCode : String) (retryLimit : Option Int)
      (dbNow : Timestamp)
  | markUncertain (recordId : ℕ) (claimToken errorCode : String) (dbNow : Timestamp)
  | markDead (recordId : ℕ) (claimToken errorCode : String) (dbNow : Timestamp)
  | completeSuccess (recordId : ℕ) (claimToken : String) (outcome : HermesDispatchOutcome)
      (responseId : ℕ) (dbNow : Timestamp)
  | finalizeExhausted (now : Timestamp) (retryLimit : ℕ) (dbNow : Timestamp)
  | retryApproved (request : RecoveryRequest)
  | markDeadByOperator (request : RecoveryRequest)
  | confirmSuccess (request : RecoveryRequest) (evidence : NormalizedEvidence)
  | claimHermesThread (threadId hermesThreadId : String)

/-- The record update of a store method, put back into the tables. -/
def withRecords (tables : DispatchTables)
    (updated : Except HermesDispatchRecordError (List HermesDispatchRecord)) :
    Option DispatchTables :=
  match updated with
  | .ok records => some { tables with records := records }
  | .error _ => none

/-- The tables of a recovery action. -/
def recovered (resolved : Except DispatchRecoveryError (DispatchTables × DispatchRecoveryResult)) :
    Option DispatchTables :=
  match resolved with
  | .ok (tables, _) => some tables
  | .error _ => none

/-- The tables a call commits, or nothing when it raises. -/
def attempt (tables : DispatchTables) : Call → Option DispatchTables
  | .enqueue admission id createdAt =>
    withRecords tables ((fun staged => staged.1) <$>
      stageEnqueue admission id createdAt tables.records)
  | .claim recordId token lease retryLimit now =>
    withRecords tables (claim recordId token lease retryLimit now tables.records)
  | .renewLease recordId token lease now =>
    withRecords tables (renewLease recordId token lease now tables.records)
  | .markSuccess recordId token dbNow =>
    withRecords tables (markSuccess recordId token dbNow tables.records)
  | .markFailed recordId token errorCode retryLimit dbNow =>
    withRecords tables (markFailed recordId token errorCode retryLimit dbNow tables.records)
  | .markUncertain recordId token errorCode dbNow =>
    withRecords tables (markUncertain recordId token errorCode dbNow tables.records)
  | .markDead recordId token errorCode dbNow =>
    withRecords tables (markDead recordId token errorCode dbNow tables.records)
  | .completeSuccess recordId token outcome responseId dbNow =>
    (completeSuccess recordId token outcome responseId dbNow tables).toOption
  | .finalizeExhausted now retryLimit dbNow =>
    some { tables with records := finalizeExhausted now retryLimit dbNow tables.records }
  | .retryApproved request => recovered (retryApproved request tables)
  | .markDeadByOperator request => recovered (markDeadByOperator request tables)
  | .confirmSuccess request evidence => recovered (confirmSuccess request evidence tables)
  | .claimHermesThread threadId hermesThreadId =>
    (claimHermesThread threadId hermesThreadId tables.threads).map fun threads =>
      { tables with threads := threads }

/-- The tables after a call: a call that raises has been rolled back. -/
def step (tables : DispatchTables) (call : Call) : DispatchTables :=
  (attempt tables call).getD tables

variable {tables tables' : DispatchTables} {call : Call}

lemma step_of_attempt_eq_some (h : attempt tables call = some tables') :
    step tables call = tables' := by
  rw [step, h, Option.getD_some]

/-- The tables before any message is dispatched. -/
def initial (threads : List AIThread) : DispatchTables := ⟨[], threads, [], []⟩

/-- The tables after the calls of a run. -/
def tablesAfter (threads : List AIThread) (calls : List Call) : DispatchTables :=
  run step (initial threads) calls

/-! ## What a call can do to a record -/

/-- The record, the token and the database clock of a call that ends a claim. -/
def Call.completion? : Call → Option (ℕ × String × Timestamp)
  | .markSuccess recordId token dbNow => some (recordId, token, dbNow)
  | .markFailed recordId token _ _ dbNow => some (recordId, token, dbNow)
  | .markUncertain recordId token _ dbNow => some (recordId, token, dbNow)
  | .markDead recordId token _ dbNow => some (recordId, token, dbNow)
  | .completeSuccess recordId token _ _ dbNow => some (recordId, token, dbNow)
  | _ => none

/-- The status a completion gives to the record. -/
def Call.completedStatus : Call → HermesDispatchRecord → HermesDispatchStatus
  | .markFailed _ _ _ retryLimit _, record => failedStatus (retryLimit.map Int.toNat) record
  | .markUncertain .., _ => .uncertain
  | .markDead .., _ => .dead
  | _, _ => .success

/-- The record and the action of an operator's call. -/
def Call.recovery? : Call → Option (ℕ × HermesDispatchRecoveryAction × HermesDispatchStatus)
  | .retryApproved request => some (request.recordId, .retryApproved, .failed)
  | .markDeadByOperator request => some (request.recordId, .markDead, .dead)
  | .confirmSuccess request _ => some (request.recordId, .confirmSuccess, .success)
  | _ => none

/-- What one call does to one record. -/
inductive Move (records : List HermesDispatchRecord) (call : Call) :
    HermesDispatchRecord → HermesDispatchRecord → Prop
  | stay {record} : Move records call record record
  | claimed {record token lease retryLimit now}
      (hcall : call = .claim record.id token lease retryLimit now)
      (hguard : ClaimGuard record.id retryLimit.toNat records record) :
      Move records call record (record.claimed token now lease)
  | renewed {record token lease now}
      (hheld : HeldUntilAfter record.id token now record) :
      Move records call record { record with leaseExpiresAt := some (now + lease) }
  | completed {record token errorCode dbNow}
      (hcall : call.completion? = some (record.id, token, dbNow))
      (hheld : HeldUntilAfter record.id token dbNow record) :
      Move records call record (record.completed (call.completedStatus record) errorCode dbNow)
  | exhausted {record retryLimit} (hexhausted : Exhausted retryLimit record) :
      Move records call record { record with status := .dead }
  | expired {record now retryLimit dbNow}
      (hcall : call = .finalizeExhausted now retryLimit dbNow) (hexpired : Expired now record) :
      Move records call record (record.completed .uncertain (some expiredLeaseError) dbNow)
  | resolved {record action afterStatus}
      (hcall : call.recovery? = some (record.id, action, afterStatus))
      (huncertain : record.status = .uncertain) :
      Move records call record (record.resolved action afterStatus)

/-- What a call does to the list of records: it moves each of them, or it adds a queued one. -/
def RecordsStep (records : List HermesDispatchRecord) (call : Call)
    (records' : List HermesDispatchRecord) : Prop :=
  (∃ g : HermesDispatchRecord → HermesDispatchRecord,
    records' = records.map g ∧ ∀ record ∈ records, Move records call record (g record)) ∨
  ∃ admission target id createdAt, call = .enqueue admission id createdAt ∧
    dispatchTarget admission = .ok target ∧
    records' = records ++ [newRecord target id createdAt] ∧
    (∀ record ∈ records, record.id ≠ id) ∧ ∀ record ∈ records, record.messageId ≠ target.messageId

section Inversion

variable {records records' : List HermesDispatchRecord} {tables tables' : DispatchTables}
  {call : Call} {recordId lease : ℕ} {token : String} {dbNow now : Timestamp}
  {action : HermesDispatchRecoveryAction} {afterStatus : HermesDispatchStatus}
  {evidence : Option NormalizedEvidence} {request : RecoveryRequest}

lemma recordsStep_self : RecordsStep records call records :=
  Or.inl ⟨id, by simp, fun record _ => Move.stay⟩

lemma recordsStep_updateWhere {p : HermesDispatchRecord → Prop} [DecidablePred p]
    {f : HermesDispatchRecord → HermesDispatchRecord}
    (hmove : ∀ record ∈ records, p record → Move records call record (f record)) :
    RecordsStep records call (updateWhere p f records) := by
  refine Or.inl ⟨fun record => if p record then f record else record, rfl, ?_⟩
  intro record hmem
  dsimp only
  split_ifs with hp
  · exact hmove record hmem hp
  · exact Move.stay

lemma validatedRequiredString_eq_ok {value fieldName result : String} {maxLength : ℕ}
    (h : validatedRequiredString value fieldName maxLength = .ok result) : result = value := by
  simp only [validatedRequiredString, bind_eq_ok, raiseIf_eq_ok] at h
  obtain ⟨-, -, -, -, h⟩ := h
  exact (Except.ok.inj h).symm

lemma validatedRetryLimit_eq_ok {value : Int} {limit : ℕ}
    (h : validatedRetryLimit value = .ok limit) : limit = value.toNat := by
  simp only [validatedRetryLimit, bind_eq_ok, raiseIf_eq_ok] at h
  obtain ⟨-, -, h⟩ := h
  exact (Except.ok.inj h).symm

/-- A transition that goes through has rewritten the rows of its guard, and there was one. -/
lemma applyTransition_eq_ok {expected : HermesDispatchStatus}
    {guard : HermesDispatchRecord → Prop} [DecidablePred guard]
    {values : HermesDispatchRecord → HermesDispatchRecord}
    (h : applyTransition recordId expected guard values records = .ok records') :
    records' = updateWhere guard values records ∧ ∃ record ∈ records, guard record := by
  unfold applyTransition at h
  split at h
  · rename_i updated hupdate
    cases h
    exact guardedUpdate_eq_some hupdate
  · cases h

lemma claim_eq_ok {retryLimit : Int}
    (h : claim recordId token lease retryLimit now records = .ok records') :
    records' = updateWhere (ClaimGuard recordId retryLimit.toNat records)
      (fun record => record.claimed token now lease) records ∧
    ∃ record ∈ records, ClaimGuard recordId retryLimit.toNat records record := by
  simp only [claim, bind_eq_ok] at h
  obtain ⟨token', htoken, retries, hretries, h⟩ := h
  obtain rfl := validatedRequiredString_eq_ok htoken
  obtain rfl := validatedRetryLimit_eq_ok hretries
  exact applyTransition_eq_ok h

lemma renewLease_eq_ok (h : renewLease recordId token lease now records = .ok records') :
    records' = updateWhere (HeldUntilAfter recordId token now)
      (fun record => { record with leaseExpiresAt := some (now + lease) }) records ∧
    ∃ record ∈ records, HeldUntilAfter recordId token now record := by
  simp only [renewLease, bind_eq_ok] at h
  obtain ⟨token', htoken, h⟩ := h
  obtain rfl := validatedRequiredString_eq_ok htoken
  exact applyTransition_eq_ok h

/-- A completion with a result has ended the claim, kept the audits and stored one response. -/
lemma completeSuccess_eq_ok {outcome : HermesDispatchOutcome} {responseId : ℕ}
    (h : completeSuccess recordId token outcome responseId dbNow tables = .ok tables') :
    tables'.records = updateWhere (CompletionGuard recordId token outcome dbNow)
      (fun record => record.completed .success none dbNow) tables.records ∧
    (∃ record ∈ tables.records, CompletionGuard recordId token outcome dbNow record) ∧
    tables'.responses = tables.responses ++ [newResponse responseId recordId outcome] ∧
    tables'.audits = tables.audits := by
  simp only [completeSuccess, bind_eq_ok, raiseIf_eq_ok] at h
  obtain ⟨updated, hupdated, threads, -, -, -, h⟩ := h
  cases h
  obtain ⟨hrecords, hguard⟩ := applyTransition_eq_ok hupdated
  exact ⟨hrecords, hguard, rfl, rfl⟩

/-- A recovery action has been applied before, or it moves an uncertain record and adds its
audit. -/
lemma resolve_eq_ok {result : DispatchRecoveryResult}
    (h : resolve action afterStatus evidence request tables = .ok (tables', result)) :
    tables' = tables ∨
    (tables'.records = updateWhere
        (fun row : HermesDispatchRecord => row.id = request.recordId ∧ row.status = .uncertain)
        (fun row => row.resolved action afterStatus) tables.records ∧
      (∃ row ∈ tables.records, row.id = request.recordId ∧ row.status = .uncertain) ∧
      (∃ errorCode evidenceId, tables'.audits = tables.audits ++
        [newAudit action afterStatus request errorCode evidenceId]) ∧
      tables'.threads = tables.threads ∧ tables'.responses = tables.responses) := by
  unfold resolve at h
  split at h
  · -- the reference was used before
    simp only [bind_eq_ok] at h
    obtain ⟨result', -, h⟩ := h
    cases h
    exact Or.inl rfl
  · split at h
    · cases h
    · simp only [bind_eq_ok, raiseIf_eq_ok] at h
      obtain ⟨-, -, evidenceId, -, resolved, hresolved, h⟩ := h
      cases h
      simp only [commitResolution, bind_eq_ok, raiseIf_eq_ok] at hresolved
      obtain ⟨-, -, hresolved⟩ := hresolved
      split at hresolved
      · cases hresolved
      · rename_i records hupdate
        cases hresolved
        obtain ⟨rfl, hrow⟩ := guardedUpdate_eq_some hupdate
        exact Or.inr ⟨rfl, hrow, ⟨_, _, rfl⟩, rfl, rfl⟩

/-! ### The step lemma -/

lemma finalizeExhausted_eq_map (now : Timestamp) (retryLimit : ℕ) (dbNow : Timestamp) :
    finalizeExhausted now retryLimit dbNow records = records.map fun record =>
      if Exhausted retryLimit record then { record with status := .dead }
      else if Expired now record then
        record.completed .uncertain (some expiredLeaseError) dbNow
      else record := by
  simp only [finalizeExhausted, updateWhere, List.map_map]
  refine List.map_congr_left fun record _ => ?_
  simp only [Function.comp_apply]
  by_cases hexhausted : Exhausted retryLimit record
  · -- a record just declared dead is not running, so the second statement skips it
    have hnot : ¬ Expired now { record with status := .dead } := fun h => by
      cases h.1
    rw [if_pos hexhausted, if_pos hexhausted, if_neg hnot]
  · rw [if_neg hexhausted, if_neg hexhausted]

/-- A completion through the record store moves the held record, and there is one. -/
lemma recordsStep_of_complete {status : HermesDispatchRecord → HermesDispatchStatus}
    {errorCode : Option String}
    (h : complete recordId token status errorCode dbNow records = .ok records')
    (hcall : call.completion? = some (recordId, token, dbNow))
    (hstatus : ∀ record, status record = call.completedStatus record) :
    RecordsStep records call records' ∧
      ∃ record ∈ records, HeldUntilAfter recordId token dbNow record := by
  simp only [complete, bind_eq_ok] at h
  obtain ⟨token', htoken, h⟩ := h
  obtain rfl := validatedRequiredString_eq_ok htoken
  obtain ⟨rfl, hrow⟩ := applyTransition_eq_ok h
  refine ⟨recordsStep_updateWhere fun record _ hheld => ?_, hrow⟩
  obtain rfl := hheld.1
  rw [hstatus]
  exact Move.completed hcall hheld

lemma recordsStep_of_resolve
    (h : recovered (resolve action afterStatus evidence request tables) = some tables')
    (hcall : call.recovery? = some (request.recordId, action, afterStatus)) :
    RecordsStep tables.records call tables'.records := by
  unfold recovered at h
  split at h
  · rename_i resolved result hresolve
    cases h
    rcases resolve_eq_ok hresolve with rfl | ⟨hrecords, -⟩
    · exact recordsStep_self
    · rw [hrecords]
      refine recordsStep_updateWhere fun record _ hrow => ?_
      refine Move.resolved ?_ hrow.2
      rw [hrow.1]
      exact hcall
  · cases h

lemma recordsStep_of_enqueue {admission : AdmissionOutcome} {id : ℕ} {createdAt : Timestamp}
    {record : HermesDispatchRecord} {created : Bool}
    (h : stageEnqueue admission id createdAt records = .ok (records', record, created)) :
    RecordsStep records (.enqueue admission id createdAt) records' := by
  simp only [stageEnqueue, bind_eq_ok] at h
  obtain ⟨target, htarget, h⟩ := h
  split at h
  · simp only [bind_eq_ok] at h
    obtain ⟨existing, -, h⟩ := h
    cases h
    exact recordsStep_self
  · rename_i hnone
    simp only [bind_eq_ok, raiseIf_eq_ok] at h
    obtain ⟨-, hfresh, h⟩ := h
    cases h
    refine Or.inr ⟨admission, target, id, createdAt, rfl, htarget, rfl, ?_, ?_⟩
    · intro other hother hid
      exact hfresh ⟨other, hother, hid⟩
    · intro other hother hmessage
      have hfind := (Option.or_eq_none_iff.mp hnone).1
      rw [List.find?_eq_none] at hfind
      exact hfind other hother (decide_eq_true hmessage)

lemma toOption_eq_some {x : Except HermesDispatchRecordError DispatchTables}
    (h : x.toOption = some tables) : x = .ok tables := by
  cases x with
  | error error => cases h
  | ok result => rw [Option.some.inj h]

lemma withRecords_eq_some {updated : Except HermesDispatchRecordError (List HermesDispatchRecord)}
    (h : withRecords tables updated = some tables') :
    ∃ records, updated = .ok records ∧ tables' = { tables with records := records } := by
  unfold withRecords at h
  split at h
  · exact ⟨_, rfl, (Option.some.inj h).symm⟩
  · cases h

/-- The same of every call that ends a claim. -/
lemma attempt_completion (h : attempt tables call = some tables')
    (hcall : call.completion? = some (recordId, token, dbNow)) :
    RecordsStep tables.records call tables'.records ∧
      ∃ record ∈ tables.records, HeldUntilAfter recordId token dbNow record := by
  cases call with
  | markSuccess =>
    cases hcall
    obtain ⟨records, hmark, rfl⟩ := withRecords_eq_some h
    exact recordsStep_of_complete hmark rfl fun _ => rfl
  | markFailed recordId token errorCode retryLimit dbNow =>
    cases hcall
    obtain ⟨records, hmark, rfl⟩ := withRecords_eq_some h
    -- the status follows the validated retry limit
    cases retryLimit with
    | none =>
      simp only [markFailed, bind_eq_ok] at hmark
      obtain ⟨limit, hlimit, code, -, hmark⟩ := hmark
      cases hlimit
      exact recordsStep_of_complete hmark rfl fun _ => rfl
    | some value =>
      simp only [markFailed, bind_eq_ok, map_eq_ok] at hmark
      obtain ⟨limit, ⟨n, hn, rfl⟩, code, -, hmark⟩ := hmark
      obtain rfl := validatedRetryLimit_eq_ok hn
      exact recordsStep_of_complete hmark rfl fun _ => rfl
  | markUncertain | markDead =>
    cases hcall
    obtain ⟨records, hmark, rfl⟩ := withRecords_eq_some h
    obtain ⟨code, -, hmark⟩ := bind_eq_ok.mp hmark
    exact recordsStep_of_complete hmark rfl fun _ => rfl
  | completeSuccess =>
    cases hcall
    obtain ⟨hrecords, ⟨record, hmem, hguard⟩, -⟩ := completeSuccess_eq_ok (toOption_eq_some h)
    rw [hrecords]
    refine ⟨recordsStep_updateWhere fun record _ hguard => ?_, record, hmem, hguard.1⟩
    obtain rfl := hguard.1.1
    exact Move.completed rfl hguard.1
  | _ => cases hcall

/-- What a committed call has done to the records. -/
theorem attempt_records (h : attempt tables call = some tables') :
    RecordsStep tables.records call tables'.records := by
  cases call with
  | enqueue admission id createdAt =>
    obtain ⟨records, hstaged, rfl⟩ := withRecords_eq_some h
    obtain ⟨⟨staged, record, created⟩, hstage, rfl⟩ := map_eq_ok.mp hstaged
    exact recordsStep_of_enqueue hstage
  | claim recordId token lease retryLimit now =>
    obtain ⟨records, hclaim, rfl⟩ := withRecords_eq_some h
    obtain ⟨rfl, -⟩ := claim_eq_ok hclaim
    refine recordsStep_updateWhere fun record _ hguard => ?_
    obtain rfl := hguard.1
    exact Move.claimed rfl hguard
  | renewLease recordId token lease now =>
    obtain ⟨records, hrenew, rfl⟩ := withRecords_eq_some h
    obtain ⟨rfl, -⟩ := renewLease_eq_ok hrenew
    refine recordsStep_updateWhere fun record _ hheld => ?_
    obtain rfl := hheld.1
    exact Move.renewed hheld
  | markSuccess | markFailed | markUncertain | markDead | completeSuccess =>
    exact (attempt_completion h rfl).1
  | finalizeExhausted now retryLimit dbNow =>
    cases h
    refine Or.inl ⟨_, finalizeExhausted_eq_map now retryLimit dbNow, ?_⟩
    intro record _
    split_ifs with hexhausted hexpired
    · exact Move.exhausted hexhausted
    · exact Move.expired rfl hexpired
    · exact Move.stay
  | retryApproved | markDeadByOperator | confirmSuccess => exact recordsStep_of_resolve h rfl
  | claimHermesThread threadId hermesThreadId =>
    obtain ⟨threads, -, rfl⟩ := Option.map_eq_some_iff.mp h
    exact recordsStep_self

/-- What a step does to the records. -/
theorem step_records (tables : DispatchTables) (call : Call) :
    RecordsStep tables.records call (step tables call).records := by
  cases hattempt : attempt tables call with
  | none =>
    rw [step, hattempt]
    exact recordsStep_self
  | some tables' =>
    rw [step, hattempt]
    exact attempt_records hattempt

end Inversion

/-! ## Rows over one step -/

section Rows

variable {records : List HermesDispatchRecord} {tables : DispatchTables} {call : Call}
  {record record' : HermesDispatchRecord}

/-- No call changes what a record is for or where it stands in its thread. -/
lemma Move.identity (h : Move records call record record') :
    record'.id = record.id ∧ record'.messageId = record.messageId ∧
      record'.aiThreadId = record.aiThreadId ∧ record'.createdAt = record.createdAt := by
  cases h <;> exact ⟨rfl, rfl, rfl, rfl⟩

/-- No call changes the target of a record. -/
lemma Move.target (h : Move records call record record') :
    record'.messageId = record.messageId ∧
      record'.enterpriseIdentityId = record.enterpriseIdentityId ∧
      record'.workspaceId = record.workspaceId ∧ record'.aiThreadId = record.aiThreadId := by
  cases h <;> exact ⟨rfl, rfl, rfl, rfl⟩

/-- A call leaves a record alone that has succeeded or is dead, and only recovery moves one that is
uncertain. -/
lemma Move.eq_or_status (h : Move records call record record') :
    record' = record ∨ record.status = .queued ∨ record.status = .running ∨
      record.status = .failed ∨ record.status = .uncertain ∧ call.recovery? ≠ none := by
  cases h with
  | stay => exact Or.inl rfl
  | claimed hcall hguard =>
    rcases hguard.2.1 with hqueued | hfailed
    · simp [hqueued]
    · simp [hfailed.1]
  | renewed hheld | completed hcall hheld => simp [hheld.2.1]
  | exhausted hexhausted => simp [hexhausted.1]
  | expired hcall hexpired => simp [hexpired.1]
  | resolved hcall huncertain => simp [hcall, huncertain]

/-- Every record is still there after a step, moved by the call. -/
lemma step_persists (hmem : record ∈ tables.records) (call : Call) :
    ∃ record' ∈ (step tables call).records, Move tables.records call record record' := by
  rcases step_records tables call with ⟨g, hrecords, hmove⟩ | ⟨_, target, id, at', -, -, hrecords, -⟩
  · rw [hrecords]
    exact ⟨g record, List.mem_map_of_mem hmem, hmove record hmem⟩
  · rw [hrecords]
    exact ⟨record, List.mem_append_left _ hmem, Move.stay⟩

/-- Every record after a step was there before and has been moved, or is a new queued one. -/
lemma step_origin (hmem : record' ∈ (step tables call).records) :
    (∃ record ∈ tables.records, Move tables.records call record record') ∨
    ∃ admission target id createdAt, call = .enqueue admission id createdAt ∧
      dispatchTarget admission = .ok target ∧ record' = newRecord target id createdAt ∧
      ∀ record ∈ tables.records, record.id ≠ record'.id := by
  rcases step_records tables call with ⟨g, hrecords, hmove⟩ |
    ⟨admission, target, id, createdAt, hcall, htarget, hrecords, hfresh, -⟩
  · rw [hrecords] at hmem
    obtain ⟨record, hrecord, rfl⟩ := List.mem_map.mp hmem
    exact Or.inl ⟨record, hrecord, hmove record hrecord⟩
  · rw [hrecords] at hmem
    rcases mem_concat.mp hmem with hold | rfl
    · exact Or.inl ⟨record', hold, Move.stay⟩
    · exact Or.inr ⟨admission, target, id, createdAt, hcall, htarget, rfl, hfresh⟩

/-- Record ids stay unique. -/
lemma step_uniqueIds (h : UniqueKeys HermesDispatchRecord.id tables.records) :
    UniqueKeys HermesDispatchRecord.id (step tables call).records := by
  rcases step_records tables call with ⟨g, hrecords, hmove⟩ | ⟨_, target, id, at', -, -, hrecords,
    hfresh, -⟩
  · have hids : (tables.records.map g).map HermesDispatchRecord.id =
        tables.records.map HermesDispatchRecord.id := by
      rw [List.map_map]
      exact List.map_congr_left fun record hmem => (hmove record hmem).identity.1
    rw [hrecords, UniqueKeys, hids]
    exact h
  · rw [hrecords]
    exact h.append hfresh

/-- A committed claim has passed its guard. -/
lemma claim_guard {recordId : ℕ} {token : String} {lease : ℕ} {retryLimit : Int} {now : Timestamp}
    (h : attempt tables (.claim recordId token lease retryLimit now) = some tables') :
    ∃ record ∈ tables.records, ClaimGuard recordId retryLimit.toNat tables.records record ∧
      record.claimed token now lease ∈ tables'.records := by
  obtain ⟨records, hclaim, rfl⟩ := withRecords_eq_some h
  obtain ⟨rfl, record, hmem, hguard⟩ := claim_eq_ok hclaim
  exact ⟨record, hmem, hguard, mem_updateWhere_of_pos hmem hguard⟩

end Rows

/-! ## Audits -/

/-- A recovery action changes nothing or adds its audit. -/
lemma recovery_step {recordId : ℕ} {action : HermesDispatchRecoveryAction}
    {afterStatus : HermesDispatchStatus}
    (hcall : call.recovery? = some (recordId, action, afterStatus)) :
    step tables call = tables ∨ ∃ audit, audit.dispatchRecordId = recordId ∧
      audit.action = action ∧ (step tables call).audits = tables.audits ++ [audit] := by
  have hresolve : ∀ {request : RecoveryRequest} {evidence : Option NormalizedEvidence},
      request.recordId = recordId →
      attempt tables call = recovered (resolve action afterStatus evidence request tables) →
      step tables call = tables ∨ ∃ audit, audit.dispatchRecordId = recordId ∧
        audit.action = action ∧ (step tables call).audits = tables.audits ++ [audit] := by
    intro request evidence hid hattempt
    cases hresult : resolve action afterStatus evidence request tables with
    | error error =>
      rw [hresult] at hattempt
      exact Or.inl (by rw [step, hattempt]; rfl)
    | ok result =>
      obtain ⟨tables', result⟩ := result
      rw [hresult] at hattempt
      rw [step_of_attempt_eq_some hattempt]
      rcases resolve_eq_ok hresult with rfl | ⟨-, -, ⟨errorCode, evidenceId, haudits⟩, -, -⟩
      · exact Or.inl rfl
      · exact Or.inr ⟨_, hid, rfl, haudits⟩
  cases call with
  | retryApproved | markDeadByOperator | confirmSuccess =>
    cases hcall
    exact hresolve rfl rfl
  | _ => cases hcall

/-- Only recovery actions write audits. -/
lemma audits_eq_of_recovery_eq_none (hcall : call.recovery? = none) :
    (step tables call).audits = tables.audits := by
  have hrecords : ∀ {updated}, attempt tables call = withRecords tables updated →
      (step tables call).audits = tables.audits := by
    intro updated hattempt
    cases updated with
    | error error => rw [step, hattempt]; rfl
    | ok records => rw [step, hattempt]; rfl
  cases call with
  | completeSuccess recordId token outcome responseId dbNow =>
    cases hresult : completeSuccess recordId token outcome responseId dbNow tables with
    | error error => rw [step, attempt, hresult]; rfl
    | ok tables' =>
      rw [step, attempt, hresult]
      exact (completeSuccess_eq_ok hresult).2.2.2
  | claimHermesThread threadId hermesThreadId =>
    rw [step, attempt]
    cases claimHermesThread threadId hermesThreadId tables.threads <;> rfl
  | finalizeExhausted now retryLimit dbNow => rfl
  | retryApproved | markDeadByOperator | confirmSuccess => cases hcall
  | _ => exact hrecords rfl

/-! ## The claim scan -/

/-- The tries of `claim_next`: pick a candidate, then claim it, and start over when somebody else
was faster. `others` lists the calls that other parties commit before the pick and between the
pick and the claim of each try. -/
def claimLoop (token : String) (lease : ℕ) (retryLimit : Int) (now : Timestamp)
    (others : ℕ → List Call × List Call) : ℕ → DispatchTables → DispatchTables × Option ℕ
  | 0, tables => (tables, none)
  | tries + 1, tables =>
    let seen := run step tables (others tries).1
    match claimCandidate retryLimit.toNat seen.records with
    | none => (seen, none)
    | some recordId =>
      let current := run step seen (others tries).2
      match attempt current (.claim recordId token lease retryLimit now) with
      | none => claimLoop token lease retryLimit now others tries current
      | some claimed => (claimed, some recordId)

/-- `claim_next`, for arguments that pass its validation: the scan for exhausted and expired
records, then up to 32 tries. -/
def claimNext (token : String) (lease : ℕ) (retryLimit : Int) (now dbNow : Timestamp)
    (others : ℕ → List Call × List Call) (tables : DispatchTables) :
    DispatchTables × Option ℕ :=
  claimLoop token lease retryLimit now others 32
    (step tables (.finalizeExhausted now retryLimit.toNat dbNow))

section Scan

variable (token : String) (lease : ℕ) (retryLimit : Int) (now dbNow : Timestamp)
  (others : ℕ → List Call × List Call)

/-- A run of committed calls from these tables on, and a record that was taken at the end of it, if
any. -/
def ClaimRun (tables : DispatchTables) (result : DispatchTables × Option ℕ) : Prop :=
  ∃ calls, result.1 = run step tables calls ∧ ∀ recordId, result.2 = some recordId →
    ∃ before, attempt (run step tables before) (.claim recordId token lease retryLimit now) =
      some result.1

variable {token lease retryLimit now}

lemma ClaimRun.after {result : DispatchTables × Option ℕ} (earlier : List Call)
    (h : ClaimRun token lease retryLimit now (run step tables earlier) result) :
    ClaimRun token lease retryLimit now tables result := by
  obtain ⟨calls, htables, hclaim⟩ := h
  refine ⟨earlier ++ calls, by rw [htables, run_append], fun recordId hid => ?_⟩
  obtain ⟨before, hattempt⟩ := hclaim recordId hid
  exact ⟨earlier ++ before, by rw [run_append, hattempt]⟩

/-- The tries are a run of committed calls, and a record they return was taken by the `claim` at
the end of it. -/
lemma claimLoop_run (tries : ℕ) (tables : DispatchTables) :
    ClaimRun token lease retryLimit now tables
      (claimLoop token lease retryLimit now others tries tables) := by
  induction tries generalizing tables with
  | zero => exact ⟨[], rfl, nofun⟩
  | succ tries ih =>
    simp only [claimLoop]
    split
    · exact ⟨(others tries).1, rfl, nofun⟩
    · rename_i candidate _
      rw [← run_append]
      split
      · -- lost the race: the remaining tries continue from the current tables
        exact (ih _).after _
      · rename_i claimed hattempt
        refine ⟨(others tries).1 ++ (others tries).2 ++
          [.claim candidate token lease retryLimit now], ?_, fun recordId hid => ?_⟩
        · rw [run_concat, step_of_attempt_eq_some hattempt]
        · cases hid
          exact ⟨_, hattempt⟩

/-- `claim_next` is a run of committed calls: a record it returns was taken by a `claim`. -/
theorem claimNext_run (tables : DispatchTables) : ClaimRun token lease retryLimit now tables
    (claimNext token lease retryLimit now dbNow others tables) :=
  (claimLoop_run others 32 _).after [.finalizeExhausted now retryLimit.toNat dbNow]

end Scan

end AgentGateway.Dispatch
