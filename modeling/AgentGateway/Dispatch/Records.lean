import AgentGateway.Lib.Python
import AgentGateway.Lib.Table
import AgentGateway.Admission.Outcome

/-!
# The Hermes dispatch record store

`HermesDispatchRecordStore` over the list of dispatch records. A record is created by `enqueue`,
taken by `claim` under a fresh token and a lease, kept by `renewLease`, and given back by one of
the `mark…` methods or by the lease scan of `finalizeExhausted`. Each method is one guarded
`UPDATE`; a guard that does not match exactly one row raises and leaves the table alone.

Clock readings are arguments: `now` is the caller's clock, `dbNow` is `func.now()` of the
statement.
-/

namespace AgentGateway.Dispatch

open Lib Lib.Table Admission

/-! ## Rows -/

/-- `HermesDispatchStatus`. -/
inductive HermesDispatchStatus
  | queued
  | running
  | success
  | failed
  | uncertain
  | dead
  deriving DecidableEq, Repr

/-- The columns of a dispatch record that the store and its workers read or write. -/
structure HermesDispatchRecord where
  id : ℕ
  idempotencyKey : String
  messageId : Int
  enterpriseIdentityId : String
  workspaceId : String
  aiThreadId : String
  status : HermesDispatchStatus
  attemptCount : ℕ
  manualRetryApproved : Bool
  claimToken : Option String
  claimedAt : Option Timestamp
  leaseExpiresAt : Option Timestamp
  completedAt : Option Timestamp
  lastErrorCode : Option String
  createdAt : Timestamp
  deriving DecidableEq, Repr

/-- The errors of the dispatch record store. `value` is a `ValueError` of an argument check. -/
inductive HermesDispatchRecordError
  | admission (reason : String)
  | targetConflict (idempotencyKey : String) (existingRecordId : ℕ)
  | stateConflict (recordId : ℕ) (expectedStatus : HermesDispatchStatus)
  | value (message : String)
  | integrity
  deriving DecidableEq, Repr

/-- `MAX_CLAIM_TOKEN_LENGTH`. -/
def maxClaimTokenLength : ℕ := 255

/-- `MAX_ERROR_CODE_LENGTH`. -/
def maxErrorCodeLength : ℕ := 128

/-- `_EXPIRED_LEASE_ERROR`. -/
def expiredLeaseError : String := "dispatch_lease_expired_uncertain"

/-- `_BLOCKING_STATUSES`: a record in one of these holds back the later ones of its thread. -/
def blockingStatuses : List HermesDispatchStatus := [.queued, .running, .failed, .uncertain]

/-- `_validated_required_string`. -/
def validatedRequiredString (value fieldName : String) (maxLength : ℕ) :
    Except HermesDispatchRecordError String := do
  raiseIf (IsBlank value) (.value (fieldName ++ " must not be empty"))
  raiseIf (maxLength < value.length) (.value (fieldName ++ " is too long"))
  return value

/-- `_validated_retry_limit`. -/
def validatedRetryLimit (value : Int) : Except HermesDispatchRecordError ℕ := do
  raiseIf (value < 0) (.value "retry_limit must be a non-negative integer")
  return value.toNat

/-! ## Enqueue -/

/-- `_DispatchTarget`. -/
structure DispatchTarget where
  messageId : Int
  enterpriseIdentityId : String
  workspaceId : String
  aiThreadId : String
  deriving DecidableEq, Repr

/-- `_required_target_id`. -/
def requiredTargetId (value : Option String) (reason : String) :
    Except HermesDispatchRecordError String :=
  match value with
  | none => .error (.admission reason)
  | some id => if IsBlank id then .error (.admission reason) else .ok id

/-- `_dispatch_target`. -/
def dispatchTarget (admission : AdmissionOutcome) :
    Except HermesDispatchRecordError DispatchTarget := do
  raiseIf (admission.admitted = false ∨ admission.reason ≠ .allowed)
    (.admission "admission_not_allowed")
  raiseIf (admission.shouldCreateTask = false) (.admission "task_not_requested")
  raiseIf (admission.messageId ≤ 0) (.admission "invalid_message_id")
  let enterpriseIdentityId ←
    requiredTargetId admission.enterpriseIdentityId "enterprise_identity_missing"
  let workspaceId ← requiredTargetId admission.workspaceId "workspace_missing"
  let aiThreadId ← requiredTargetId admission.aiThreadId "ai_thread_missing"
  return ⟨admission.messageId, enterpriseIdentityId, workspaceId, aiThreadId⟩

/-- `build_hermes_dispatch_idempotency_key`, for the positive ids `_dispatch_target` lets
through. -/
def buildHermesDispatchIdempotencyKey (messageId : Int) : String :=
  "v1:hermes-chat:message:" ++ toString messageId

/-- `_compatible_record_or_raise`. -/
def compatibleRecordOrRaise (record : HermesDispatchRecord) (target : DispatchTarget) :
    Except HermesDispatchRecordError HermesDispatchRecord := do
  raiseIf (record.messageId ≠ target.messageId ∨
      record.enterpriseIdentityId ≠ target.enterpriseIdentityId ∨
      record.workspaceId ≠ target.workspaceId ∨ record.aiThreadId ≠ target.aiThreadId)
    (.targetConflict record.idempotencyKey record.id)
  return record

/-- `get_by_message_id`, or else `get_by_idempotency_key`. -/
def existingFor (target : DispatchTarget) (records : List HermesDispatchRecord) :
    Option HermesDispatchRecord :=
  (records.find? fun record => record.messageId = target.messageId).or
    (records.find? fun record =>
      record.idempotencyKey = buildHermesDispatchIdempotencyKey target.messageId)

/-- The row `stage_enqueue` inserts; the database picks its id and creation time. -/
def newRecord (target : DispatchTarget) (id : ℕ) (createdAt : Timestamp) :
    HermesDispatchRecord where
  id := id
  idempotencyKey := buildHermesDispatchIdempotencyKey target.messageId
  messageId := target.messageId
  enterpriseIdentityId := target.enterpriseIdentityId
  workspaceId := target.workspaceId
  aiThreadId := target.aiThreadId
  status := .queued
  attemptCount := 0
  manualRetryApproved := false
  claimToken := none
  claimedAt := none
  leaseExpiresAt := none
  completedAt := none
  lastErrorCode := none
  createdAt := createdAt

/-- `stage_enqueue`: the existing record of the message if it has the same target, otherwise a
new row. The flag says whether the row was created. A primary key the table already has is an
`IntegrityError`. -/
def stageEnqueue (admission : AdmissionOutcome) (id : ℕ) (createdAt : Timestamp)
    (records : List HermesDispatchRecord) :
    Except HermesDispatchRecordError
      (List HermesDispatchRecord × HermesDispatchRecord × Bool) := do
  let target ← dispatchTarget admission
  match existingFor target records with
  | some existing =>
    let record ← compatibleRecordOrRaise existing target
    return (records, record, false)
  | none =>
    raiseIf (∃ record ∈ records, record.id = id) .integrity
    let record := newRecord target id createdAt
    return (records ++ [record], record, true)

/-! ## Claims -/

/-- `_claimable_predicate`. -/
def Claimable (retryLimit : ℕ) (record : HermesDispatchRecord) : Prop :=
  record.status = .queued ∨
    record.status = .failed ∧
      (record.attemptCount < retryLimit + 1 ∨ record.manualRetryApproved = true)

/-- The queue order of one thread: creation time, then id. -/
def IsPrior (prior record : HermesDispatchRecord) : Prop :=
  prior.createdAt < record.createdAt ∨
    prior.createdAt = record.createdAt ∧ prior.id < record.id

/-- `_thread_head_predicate`: nothing earlier in the thread is still open. -/
def ThreadHead (records : List HermesDispatchRecord) (record : HermesDispatchRecord) : Prop :=
  ∀ prior ∈ records, ¬ (prior.aiThreadId = record.aiThreadId ∧ IsPrior prior record ∧
    prior.status ∈ blockingStatuses)

/-- `_thread_idle_predicate`: no other record of the thread is running. -/
def ThreadIdle (records : List HermesDispatchRecord) (record : HermesDispatchRecord) : Prop :=
  ∀ running ∈ records, ¬ (running.aiThreadId = record.aiThreadId ∧ running.id ≠ record.id ∧
    running.status = .running)

instance (retryLimit : ℕ) : DecidablePred (Claimable retryLimit) := fun _ =>
  inferInstanceAs (Decidable (_ ∨ _ ∧ (_ ∨ _)))

instance (prior record : HermesDispatchRecord) : Decidable (IsPrior prior record) :=
  inferInstanceAs (Decidable (_ ∨ _ ∧ _))

instance (records : List HermesDispatchRecord) : DecidablePred (ThreadHead records) :=
  fun _ => inferInstanceAs (Decidable (∀ prior ∈ records, ¬ _))

instance (records : List HermesDispatchRecord) : DecidablePred (ThreadIdle records) :=
  fun _ => inferInstanceAs (Decidable (∀ running ∈ records, ¬ _))

/-- `_apply_transition`: the guarded `UPDATE`, or a state conflict. -/
def applyTransition (recordId : ℕ) (expectedStatus : HermesDispatchStatus)
    (guard : HermesDispatchRecord → Prop) [DecidablePred guard]
    (values : HermesDispatchRecord → HermesDispatchRecord)
    (records : List HermesDispatchRecord) :
    Except HermesDispatchRecordError (List HermesDispatchRecord) :=
  match guardedUpdate guard values records with
  | some updated => .ok updated
  | none => .error (.stateConflict recordId expectedStatus)

/-- The guard of `claim`. -/
def ClaimGuard (recordId retryLimit : ℕ) (records : List HermesDispatchRecord)
    (record : HermesDispatchRecord) : Prop :=
  record.id = recordId ∧ Claimable retryLimit record ∧ ThreadHead records record ∧
    ThreadIdle records record

instance (recordId retryLimit : ℕ) (records : List HermesDispatchRecord) :
    DecidablePred (ClaimGuard recordId retryLimit records) := fun record =>
  inferInstanceAs (Decidable (_ ∧ Claimable retryLimit record ∧ ThreadHead records record ∧
    ThreadIdle records record))

/-- The row after `claim`. -/
def HermesDispatchRecord.claimed (record : HermesDispatchRecord) (token : String)
    (now : Timestamp) (lease : ℕ) : HermesDispatchRecord :=
  { record with
    status := .running
    attemptCount := record.attemptCount + 1
    manualRetryApproved := false
    claimToken := some token
    claimedAt := some now
    leaseExpiresAt := some (now + lease)
    completedAt := none
    lastErrorCode := none }

/-- `claim`. The lease is the `timedelta` of the validated `lease_seconds`, in microseconds. -/
def claim (recordId : ℕ) (claimToken : String) (lease : ℕ) (retryLimit : Int) (now : Timestamp)
    (records : List HermesDispatchRecord) :
    Except HermesDispatchRecordError (List HermesDispatchRecord) := do
  let token ← validatedRequiredString claimToken "claim_token" maxClaimTokenLength
  let retries ← validatedRetryLimit retryLimit
  applyTransition recordId .queued (ClaimGuard recordId retries records)
    (fun record => record.claimed token now lease) records

/-- The guard of `renew_lease` and of every completion: the record runs under this very token,
and its lease ends after the given clock reading. -/
def HeldUntilAfter (recordId : ℕ) (token : String) (clock : Timestamp)
    (record : HermesDispatchRecord) : Prop :=
  record.id = recordId ∧ record.status = .running ∧ record.claimToken = some token ∧
    ∃ expiry ∈ record.leaseExpiresAt, clock < expiry

instance (recordId : ℕ) (token : String) (clock : Timestamp) :
    DecidablePred (HeldUntilAfter recordId token clock) := fun record =>
  inferInstanceAs (Decidable (_ ∧ _ ∧ _ ∧ ∃ expiry ∈ record.leaseExpiresAt, clock < expiry))

/-- `renew_lease`. -/
def renewLease (recordId : ℕ) (claimToken : String) (lease : ℕ) (now : Timestamp)
    (records : List HermesDispatchRecord) :
    Except HermesDispatchRecordError (List HermesDispatchRecord) := do
  let token ← validatedRequiredString claimToken "claim_token" maxClaimTokenLength
  applyTransition recordId .running (HeldUntilAfter recordId token now)
    (fun record => { record with leaseExpiresAt := some (now + lease) }) records

/-! ## Completions -/

/-- The row after a completion. -/
def HermesDispatchRecord.completed (record : HermesDispatchRecord)
    (status : HermesDispatchStatus) (errorCode : Option String) (dbNow : Timestamp) :
    HermesDispatchRecord :=
  { record with
    status := status
    claimToken := none
    leaseExpiresAt := none
    completedAt := some dbNow
    lastErrorCode := errorCode }

/-- `_complete`. The new status may depend on the row, as the `CASE` of `mark_failed` does. -/
def complete (recordId : ℕ) (claimToken : String)
    (status : HermesDispatchRecord → HermesDispatchStatus) (errorCode : Option String)
    (dbNow : Timestamp) (records : List HermesDispatchRecord) :
    Except HermesDispatchRecordError (List HermesDispatchRecord) := do
  let token ← validatedRequiredString claimToken "claim_token" maxClaimTokenLength
  applyTransition recordId .running (HeldUntilAfter recordId token dbNow)
    (fun record => record.completed (status record) errorCode dbNow) records

/-- `mark_success`. -/
def markSuccess (recordId : ℕ) (claimToken : String) (dbNow : Timestamp)
    (records : List HermesDispatchRecord) :
    Except HermesDispatchRecordError (List HermesDispatchRecord) :=
  complete recordId claimToken (fun _ => .success) none dbNow records

/-- The status `mark_failed` sets: a record that has used up its retries is dead. -/
def failedStatus (retryLimit : Option ℕ) (record : HermesDispatchRecord) :
    HermesDispatchStatus :=
  match retryLimit with
  | none => .failed
  | some limit => if limit + 1 ≤ record.attemptCount then .dead else .failed

/-- `mark_failed`. -/
def markFailed (recordId : ℕ) (claimToken errorCode : String) (retryLimit : Option Int)
    (dbNow : Timestamp) (records : List HermesDispatchRecord) :
    Except HermesDispatchRecordError (List HermesDispatchRecord) := do
  let limit ← match retryLimit with
    | none => pure none
    | some value => some <$> validatedRetryLimit value
  let code ← validatedRequiredString errorCode "error_code" maxErrorCodeLength
  complete recordId claimToken (failedStatus limit) (some code) dbNow records

/-- `mark_uncertain`. -/
def markUncertain (recordId : ℕ) (claimToken errorCode : String) (dbNow : Timestamp)
    (records : List HermesDispatchRecord) :
    Except HermesDispatchRecordError (List HermesDispatchRecord) := do
  let code ← validatedRequiredString errorCode "error_code" maxErrorCodeLength
  complete recordId claimToken (fun _ => .uncertain) (some code) dbNow records

/-- `mark_dead`. -/
def markDead (recordId : ℕ) (claimToken errorCode : String) (dbNow : Timestamp)
    (records : List HermesDispatchRecord) :
    Except HermesDispatchRecordError (List HermesDispatchRecord) := do
  let code ← validatedRequiredString errorCode "error_code" maxErrorCodeLength
  complete recordId claimToken (fun _ => .dead) (some code) dbNow records

/-! ## The scan before a claim -/

/-- A failed record without retries left and without an approved manual retry. -/
def Exhausted (retryLimit : ℕ) (record : HermesDispatchRecord) : Prop :=
  record.status = .failed ∧ retryLimit + 1 ≤ record.attemptCount ∧
    record.manualRetryApproved = false

/-- A running record whose lease has run out. -/
def Expired (now : Timestamp) (record : HermesDispatchRecord) : Prop :=
  record.status = .running ∧ ∃ expiry ∈ record.leaseExpiresAt, expiry ≤ now

instance (retryLimit : ℕ) : DecidablePred (Exhausted retryLimit) := fun _ =>
  inferInstanceAs (Decidable (_ ∧ _ ∧ _))

instance (now : Timestamp) : DecidablePred (Expired now) := fun record =>
  inferInstanceAs (Decidable (_ ∧ ∃ expiry ∈ record.leaseExpiresAt, expiry ≤ now))

/-- `_finalize_exhausted`: its two statements run in one transaction. Losing a lease cannot
prove that Hermes did not execute, so an expired record becomes uncertain. -/
def finalizeExhausted (now : Timestamp) (retryLimit : ℕ) (dbNow : Timestamp)
    (records : List HermesDispatchRecord) : List HermesDispatchRecord :=
  updateWhere (Expired now)
    (fun record => record.completed .uncertain (some expiredLeaseError) dbNow)
    (updateWhere (Exhausted retryLimit) (fun record => { record with status := .dead }) records)

/-- The order in which `claim_next` tries candidates. -/
def CandidateOrder (a b : HermesDispatchRecord) : Prop :=
  a.attemptCount < b.attemptCount ∨ a.attemptCount = b.attemptCount ∧
    (a.createdAt < b.createdAt ∨ a.createdAt = b.createdAt ∧ a.id ≤ b.id)

instance : DecidableRel CandidateOrder := fun _ _ =>
  inferInstanceAs (Decidable (_ ∨ _ ∧ (_ ∨ _ ∧ _)))

/-- The `SELECT … LIMIT 1` of `claim_next`. -/
def claimCandidate (retryLimit : ℕ) (records : List HermesDispatchRecord) : Option ℕ :=
  (((records.filter fun record => Claimable retryLimit record ∧ ThreadHead records record ∧
    ThreadIdle records record).insertionSort CandidateOrder).head?).map fun record => record.id

end AgentGateway.Dispatch
