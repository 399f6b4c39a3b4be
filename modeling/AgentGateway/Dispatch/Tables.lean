import AgentGateway.Dispatch.Records
import AgentGateway.Hermes.Models

/-!
# Completing and recovering a dispatch

The operations that touch more than the record table: `complete_success` ends a claim, rotates the
Hermes session of the thread and stores the response in one transaction; the recovery actions of an
operator move an uncertain record on and write an audit row in the same transaction. Either all of
an operation's writes happen or none does.
-/

namespace AgentGateway.Dispatch

open Lib Lib.Table Hermes

/-! ## The tables -/

/-- `ThreadType`. -/
inductive ThreadType
  | privateThread
  | groupThread
  deriving DecidableEq, Repr

def ThreadType.value : ThreadType → String
  | .privateThread => "private"
  | .groupThread => "group"

/-- `ThreadType(value)`. -/
def ThreadType.ofValue? : String → Option ThreadType
  | "private" => some .privateThread
  | "group" => some .groupThread
  | _ => none

/-- `ThreadPolicy`. -/
inductive ThreadPolicy
  | privateSender
  | groupShared
  | groupSender
  deriving DecidableEq, Repr

def ThreadPolicy.value : ThreadPolicy → String
  | .privateSender => "private_sender"
  | .groupShared => "group_shared"
  | .groupSender => "group_sender"

/-- `ThreadPolicy(value)`. -/
def ThreadPolicy.ofValue? : String → Option ThreadPolicy
  | "private_sender" => some .privateSender
  | "group_shared" => some .groupShared
  | "group_sender" => some .groupSender
  | _ => none

/-- The status of a thread, a workspace or an agent profile. -/
inductive ResourceStatus
  | active
  | disabled
  | archived
  deriving DecidableEq, Repr

/-- `AIThread`. -/
structure AIThread where
  id : String
  workspaceId : String
  agentProfileId : Option String
  threadType : ThreadType
  threadPolicy : Option ThreadPolicy
  threadKey : String
  status : ResourceStatus
  hermesThreadId : Option String
  deriving DecidableEq, Repr

/-- `HermesDispatchResponse`; the payload is the dumped envelope. -/
structure HermesDispatchResponse where
  id : ℕ
  dispatchRecordId : ℕ
  hermesResponseId : Option String
  assistantContent : String
  responsePayload : Option ResponseEnvelope
  deriving DecidableEq, Repr

/-- `HermesDispatchRecoveryAction`. -/
inductive HermesDispatchRecoveryAction
  | retryApproved
  | markDead
  | confirmSuccess
  deriving DecidableEq, Repr

/-- `HermesDispatchRecoveryAudit`. -/
structure HermesDispatchRecoveryAudit where
  id : ℕ
  dispatchRecordId : ℕ
  action : HermesDispatchRecoveryAction
  operator : String
  reference : String
  reason : String
  beforeStatus : HermesDispatchStatus
  afterStatus : HermesDispatchStatus
  beforeErrorCode : Option String
  evidenceDispatchResponseId : Option ℕ
  deriving DecidableEq, Repr

/-- The tables a dispatch runs on. -/
structure DispatchTables where
  records : List HermesDispatchRecord
  threads : List AIThread
  responses : List HermesDispatchResponse
  audits : List HermesDispatchRecoveryAudit
  deriving DecidableEq, Repr

/-! ## Completion with a result -/

/-- The guard of `complete_success`: the claim is still held and the outcome is for this record. -/
def CompletionGuard (recordId : ℕ) (claimToken : String) (outcome : HermesDispatchOutcome)
    (dbNow : Timestamp) (record : HermesDispatchRecord) : Prop :=
  HeldUntilAfter recordId claimToken dbNow record ∧ record.messageId = outcome.messageId ∧
    record.workspaceId = outcome.workspaceId ∧ record.aiThreadId = outcome.aiThreadId

instance (recordId : ℕ) (claimToken : String) (outcome : HermesDispatchOutcome)
    (dbNow : Timestamp) : DecidablePred (CompletionGuard recordId claimToken outcome dbNow) :=
  fun record => inferInstanceAs
    (Decidable (HeldUntilAfter recordId claimToken dbNow record ∧ _ ∧ _ ∧ _))

/-- The rotation of the Hermes session inside `complete_success`. `hermes_thread_id` is unique,
so a target another thread already has is an `IntegrityError`. -/
def rotateHermesThread (recordId : ℕ) (outcome : HermesDispatchOutcome)
    (threads : List AIThread) : Except HermesDispatchRecordError (List AIThread) :=
  match outcome.requestedHermesThreadId with
  | none => .ok threads
  | some requested =>
    match outcome.nextHermesThreadId with
    | none => .error (.value "missing Hermes session rotation target")
    | some next => do
      raiseIf (∃ thread ∈ threads, thread.id ≠ outcome.aiThreadId ∧
          thread.hermesThreadId = some next) (.stateConflict recordId .running)
      match guardedUpdate
          (fun thread : AIThread => thread.id = outcome.aiThreadId ∧
            thread.hermesThreadId = some requested)
          (fun thread => { thread with hermesThreadId := some next }) threads with
      | some rotated => .ok rotated
      | none => .error (.stateConflict recordId .running)

/-- The row `complete_success` adds to the response table. -/
def newResponse (responseId recordId : ℕ) (outcome : HermesDispatchOutcome) :
    HermesDispatchResponse where
  id := responseId
  dispatchRecordId := recordId
  hermesResponseId := outcome.response.map fun envelope => envelope.responseId
  assistantContent := outcome.assistantContent
  responsePayload := outcome.response

/-- A row that clashes with the unique columns of the response table. -/
def ClashesWith (response other : HermesDispatchResponse) : Prop :=
  other.id = response.id ∨ other.dispatchRecordId = response.dispatchRecordId ∨
    other.hermesResponseId ≠ none ∧ other.hermesResponseId = response.hermesResponseId

instance (response other : HermesDispatchResponse) : Decidable (ClashesWith response other) :=
  inferInstanceAs (Decidable (_ ∨ _ ∨ _ ∧ _))

/-- `HermesDispatchResponseStore.complete_success`. -/
def completeSuccess (recordId : ℕ) (claimToken : String) (outcome : HermesDispatchOutcome)
    (responseId : ℕ) (dbNow : Timestamp) (tables : DispatchTables) :
    Except HermesDispatchRecordError DispatchTables := do
  let records ← applyTransition recordId .running
    (CompletionGuard recordId claimToken outcome dbNow)
    (fun record => record.completed .success none dbNow) tables.records
  let threads ← rotateHermesThread recordId outcome tables.threads
  let response := newResponse responseId recordId outcome
  raiseIf (∃ other ∈ tables.responses, ClashesWith response other)
    (.stateConflict recordId .running)
  return { tables with
    records := records
    threads := threads
    responses := tables.responses ++ [response] }

/-! ## Operator recovery -/

/-- The errors of `DispatchRecoveryStore`. -/
inductive DispatchRecoveryError
  | notFound
  | stateConflict
  | evidence (reason : String)
  | referenceConflict
  deriving DecidableEq, Repr

/-- `DispatchRecoveryResult`. -/
structure DispatchRecoveryResult where
  dispatchRecordId : ℕ
  action : HermesDispatchRecoveryAction
  status : HermesDispatchStatus
  auditId : ℕ
  idempotent : Bool
  deriving DecidableEq, Repr

/-- What the response store says about the message of a record: the normalized response it has,
and what `verify_generated` answers or raises for the stored outcome. -/
structure NormalizedEvidence where
  normalized : Option String
  verified : Except Unit (Option String)

/-- `_audit_for`. -/
def auditFor (recordId : ℕ) (action : HermesDispatchRecoveryAction) (reference : String)
    (audits : List HermesDispatchRecoveryAudit) : Option HermesDispatchRecoveryAudit :=
  audits.find? fun audit => audit.dispatchRecordId = recordId ∧ audit.action = action ∧
    audit.reference = reference

/-- `_idempotent_result`. -/
def idempotentResult (audit : HermesDispatchRecoveryAudit) (operator reason : String) :
    Except DispatchRecoveryError DispatchRecoveryResult := do
  raiseIf (audit.operator ≠ operator ∨ audit.reason ≠ reason) .referenceConflict
  return ⟨audit.dispatchRecordId, audit.action, audit.afterStatus, audit.id, true⟩

/-- `_verified_success_evidence`: the id of the stored response that proves the success. -/
def verifiedSuccessEvidence (recordId : ℕ) (evidence : NormalizedEvidence)
    (responses : List HermesDispatchResponse) : Except DispatchRecoveryError ℕ :=
  match responses.find? fun response => response.dispatchRecordId = recordId with
  | none => .error (.evidence "dispatch_response_missing")
  | some raw =>
    match evidence.verified with
    | .error () => .error (.evidence "hermes_response_mismatch")
    | .ok verified => do
      raiseIf (evidence.normalized ≠ none ∧ verified ≠ evidence.normalized)
        (.evidence "hermes_response_mismatch")
      return raw.id

/-- `length(trim(text)) = 0`, the `CHECK` constraints of the audit table. -/
def SqlBlank (text : String) : Prop := ∀ c ∈ text.toList, c = ' '

instance : DecidablePred SqlBlank := fun text =>
  decidable_of_iff (text.toList.all (fun c => c == ' ') = true) (by simp [SqlBlank])

/-- The row after a recovery action. -/
def HermesDispatchRecord.resolved (record : HermesDispatchRecord)
    (action : HermesDispatchRecoveryAction) (afterStatus : HermesDispatchStatus) :
    HermesDispatchRecord :=
  { record with
    status := afterStatus
    manualRetryApproved := decide (action = .retryApproved)
    lastErrorCode := if afterStatus = .success then none else record.lastErrorCode }

/-- What an operator supplies with a recovery action; the audit id is the database's. -/
structure RecoveryRequest where
  recordId : ℕ
  operator : String
  reference : String
  reason : String
  auditId : ℕ
  deriving DecidableEq, Repr

/-- The evidence step of `_resolve`; only a confirmed success needs evidence. -/
def evidenceIdFor (requiredEvidence : Option NormalizedEvidence) (recordId : ℕ)
    (responses : List HermesDispatchResponse) : Except DispatchRecoveryError (Option ℕ) :=
  match requiredEvidence with
  | none => .ok none
  | some evidence => some <$> verifiedSuccessEvidence recordId evidence responses

/-- The audit row of a recovery action. -/
def newAudit (action : HermesDispatchRecoveryAction) (afterStatus : HermesDispatchStatus)
    (request : RecoveryRequest) (beforeErrorCode : Option String) (evidenceId : Option ℕ) :
    HermesDispatchRecoveryAudit where
  id := request.auditId
  dispatchRecordId := request.recordId
  action := action
  operator := request.operator
  reference := request.reference
  reason := request.reason
  beforeStatus := .uncertain
  afterStatus := afterStatus
  beforeErrorCode := beforeErrorCode
  evidenceDispatchResponseId := evidenceId

/-- The transaction of `_resolve`: the guarded `UPDATE` and the audit row. A blank column or a
taken id is an `IntegrityError`, which is rolled back to a conflict. -/
def commitResolution (action : HermesDispatchRecoveryAction)
    (afterStatus : HermesDispatchStatus) (request : RecoveryRequest)
    (audit : HermesDispatchRecoveryAudit) (tables : DispatchTables) :
    Except DispatchRecoveryError DispatchTables := do
  raiseIf (SqlBlank request.operator ∨ SqlBlank request.reference ∨ SqlBlank request.reason ∨
    ∃ other ∈ tables.audits, other.id = audit.id) .stateConflict
  match guardedUpdate
      (fun row : HermesDispatchRecord => row.id = request.recordId ∧ row.status = .uncertain)
      (fun row => row.resolved action afterStatus) tables.records with
  | none => .error .stateConflict
  | some records => .ok { tables with records := records, audits := tables.audits ++ [audit] }

/-- `_resolve`: move an uncertain record to `afterStatus` and audit it, once per reference. -/
def resolve (action : HermesDispatchRecoveryAction) (afterStatus : HermesDispatchStatus)
    (requiredEvidence : Option NormalizedEvidence) (request : RecoveryRequest)
    (tables : DispatchTables) :
    Except DispatchRecoveryError (DispatchTables × DispatchRecoveryResult) :=
  match auditFor request.recordId action request.reference tables.audits with
  | some existing => do
    let result ← idempotentResult existing request.operator request.reason
    return (tables, result)
  | none =>
    match tables.records.find? fun record => record.id = request.recordId with
    | none => .error .notFound
    | some record => do
      raiseIf (record.status ≠ .uncertain) .stateConflict
      let evidenceId ← evidenceIdFor requiredEvidence request.recordId tables.responses
      let audit := newAudit action afterStatus request record.lastErrorCode evidenceId
      let resolved ← commitResolution action afterStatus request audit tables
      return (resolved, ⟨request.recordId, action, afterStatus, request.auditId, false⟩)

/-- `retry_approved`. -/
def retryApproved (request : RecoveryRequest) (tables : DispatchTables) :
    Except DispatchRecoveryError (DispatchTables × DispatchRecoveryResult) :=
  resolve .retryApproved .failed none request tables

/-- `DispatchRecoveryStore.mark_dead`. -/
def markDeadByOperator (request : RecoveryRequest) (tables : DispatchTables) :
    Except DispatchRecoveryError (DispatchTables × DispatchRecoveryResult) :=
  resolve .markDead .dead none request tables

/-- `confirm_success`. -/
def confirmSuccess (request : RecoveryRequest) (evidence : NormalizedEvidence)
    (tables : DispatchTables) :
    Except DispatchRecoveryError (DispatchTables × DispatchRecoveryResult) :=
  resolve .confirmSuccess .success (some evidence) request tables

end AgentGateway.Dispatch
