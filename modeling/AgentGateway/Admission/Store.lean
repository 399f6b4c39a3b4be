import AgentGateway.Dispatch.Records

/-!
# The admission outcome store

The rows of `message_admission_outcomes` and the statements `MessageAdmissionOutcomeStore` issues.
A row is created `PENDING` under a claim token, and every later write is a guarded `UPDATE` that
asks for `PENDING` and for the token. The statements are the steps of `process`, so each is a
function of its own.

The requested scope, skills and risk level are written and cleared together and stand in one
column; an authorization snapshot is the decision it is made from.
-/

namespace AgentGateway.Admission

open Lib Lib.Table Dispatch

/-! ## Rows -/

/-- `AdmissionOutcomeState`. -/
inductive AdmissionOutcomeState
  | pending
  | completed
  deriving DecidableEq, Repr

/-- `AdmissionDecision`. -/
inductive AdmissionDecision
  | allowed
  | denied
  | unresolved
  deriving DecidableEq, Repr

/-- `AdmissionEvidenceOrigin`. -/
inductive AdmissionEvidenceOrigin
  | runtime
  | legacyDispatch
  | legacyUnresolved
  deriving DecidableEq, Repr

/-- `RequestFacts`. -/
structure RequestFacts where
  requestedScope : List String
  requestedSkillIds : List String
  riskLevel : RiskLevel
  deriving DecidableEq, Repr

/-- `MessageAdmissionOutcome`: the single durable admission authority for one message. -/
structure MessageAdmissionOutcome where
  messageId : Int
  state : AdmissionOutcomeState
  decision : Option AdmissionDecision
  evidenceOrigin : AdmissionEvidenceOrigin
  admissionReason : Option AdmissionReason
  shouldCreateTask : Bool
  request : Option RequestFacts
  authorizationReasonCode : Option ReasonCode
  authorizationSnapshot : Option AuthorizationDecision
  policy : PolicyEvidence
  enterpriseIdentityId : Option String
  workspaceId : Option String
  aiThreadId : Option String
  route : RouteEvidence
  attemptCount : ℕ
  claimToken : Option String
  leaseExpiresAt : Option Timestamp
  lastErrorCode : Option String
  completedAt : Option Timestamp
  deriving DecidableEq, Repr

/-- The `CHECK` on the origin of the evidence. -/
def OriginChecks (row : MessageAdmissionOutcome) : Prop :=
  match row.evidenceOrigin with
  | .runtime => (row.state = .pending ∨ row.decision = some .allowed ∨
      row.decision = some .denied) ∧ row.request ≠ none
  | .legacyDispatch => row.state = .completed ∧ row.decision = some .allowed
  | .legacyUnresolved => row.state = .completed ∧ row.decision = some .unresolved

/-- The `CHECK`s on the decision, its targets and its reason. -/
def DecisionChecks (row : MessageAdmissionOutcome) : Prop :=
  match row.decision with
  | some .allowed => row.shouldCreateTask = true ∧ row.enterpriseIdentityId ≠ none ∧
      row.workspaceId ≠ none ∧ row.aiThreadId ≠ none ∧ row.admissionReason = some .allowed
  | some .denied => row.shouldCreateTask = false ∧ row.workspaceId = none ∧
      row.aiThreadId = none ∧ row.admissionReason ≠ some .allowed ∧
      row.admissionReason ≠ some .legacyUnresolved
  | some .unresolved => row.shouldCreateTask = false ∧ row.workspaceId = none ∧
      row.aiThreadId = none ∧ row.admissionReason = some .legacyUnresolved
  | none => True

/-- The `CHECK` on the columns of the two states. -/
def StateChecks (row : MessageAdmissionOutcome) : Prop :=
  match row.state with
  | .pending => row.decision = none ∧ row.admissionReason = none ∧ row.completedAt = none ∧
      row.shouldCreateTask = false ∧ row.evidenceOrigin = .runtime
  | .completed => row.decision ≠ none ∧ row.admissionReason ≠ none ∧ row.completedAt ≠ none ∧
      row.claimToken = none ∧ row.leaseExpiresAt = none

instance : DecidablePred OriginChecks := fun row => by
  unfold OriginChecks
  split <;> infer_instance

instance : DecidablePred DecisionChecks := fun row => by
  unfold DecisionChecks
  split <;> infer_instance

instance : DecidablePred StateChecks := fun row => by
  unfold StateChecks
  split <;> infer_instance

/-- The `CHECK` constraints of the table. -/
def Checks (row : MessageAdmissionOutcome) : Prop :=
  OriginChecks row ∧ DecisionChecks row ∧ StateChecks row ∧
    (row.claimToken = none ↔ row.leaseExpiresAt = none) ∧
    row.route.routingMode ∈ ["none", "v1", "v2", "legacy"]

instance : DecidablePred Checks := fun _ => inferInstanceAs (Decidable (_ ∧ _ ∧ _ ∧ _ ∧ _))

/-! ## Errors -/

/-- What the admission of a message raises. -/
inductive AdmissionError
  | invariant (message : String)
  | pending (messageId : Int)
  | stateConflict (messageId : Int)
  | integrity
  | dispatch (error : HermesDispatchRecordError)
  deriving DecidableEq, Repr

/-! ## Statements -/

/-- `get_by_message_id`. -/
def getByMessageId (messageId : Int) (outcomes : List MessageAdmissionOutcome) :
    Option MessageAdmissionOutcome :=
  outcomes.find? fun row => row.messageId = messageId

/-- The `INSERT` of an outcome. Nothing on an `IntegrityError`: the message has one already, or a
`CHECK` fails. -/
def insertOutcome (row : MessageAdmissionOutcome) (outcomes : List MessageAdmissionOutcome) :
    Option (List MessageAdmissionOutcome) :=
  if (∃ other ∈ outcomes, other.messageId = row.messageId) ∨ ¬ Checks row then none
  else some (outcomes ++ [row])

/-- The row `create_pending` inserts. -/
def pendingOutcome (messageId : Int) (request : RequestFacts) (claimToken : String)
    (leaseExpiresAt : Timestamp) : MessageAdmissionOutcome where
  messageId := messageId
  state := .pending
  decision := none
  evidenceOrigin := .runtime
  admissionReason := none
  shouldCreateTask := false
  request := some request
  authorizationReasonCode := none
  authorizationSnapshot := none
  policy := .empty
  enterpriseIdentityId := none
  workspaceId := none
  aiThreadId := none
  route := .empty "none"
  attemptCount := 1
  claimToken := some claimToken
  leaseExpiresAt := some leaseExpiresAt
  lastErrorCode := none
  completedAt := none

/-- The row `create_legacy_dispatch_outcome` inserts. -/
def legacyDispatchOutcome (record : HermesDispatchRecord) (dbNow : Timestamp) :
    MessageAdmissionOutcome where
  messageId := record.messageId
  state := .completed
  decision := some .allowed
  evidenceOrigin := .legacyDispatch
  admissionReason := some .allowed
  shouldCreateTask := true
  request := none
  authorizationReasonCode := none
  authorizationSnapshot := none
  policy := .empty
  enterpriseIdentityId := some record.enterpriseIdentityId
  workspaceId := some record.workspaceId
  aiThreadId := some record.aiThreadId
  route := .empty "legacy"
  attemptCount := 0
  claimToken := none
  leaseExpiresAt := none
  lastErrorCode := none
  completedAt := some dbNow

/-- The guard of `_claim_existing`. -/
def Unclaimed (messageId : Int) (now : Timestamp) (row : MessageAdmissionOutcome) : Prop :=
  row.messageId = messageId ∧ row.state = .pending ∧
    (row.claimToken = none ∨ ∃ expiresAt ∈ row.leaseExpiresAt, expiresAt ≤ now)

instance (messageId : Int) (now : Timestamp) : DecidablePred (Unclaimed messageId now) :=
  fun _ => inferInstanceAs (Decidable (_ ∧ _ ∧ (_ ∨ _)))

/-- The `UPDATE` of `_claim_existing`. -/
def claimOutcome (messageId : Int) (claimToken : String) (now leaseExpiresAt : Timestamp)
    (outcomes : List MessageAdmissionOutcome) : Option (List MessageAdmissionOutcome) :=
  guardedUpdate (Unclaimed messageId now)
    (fun row => { row with
      claimToken := some claimToken
      leaseExpiresAt := some leaseExpiresAt
      attemptCount := row.attemptCount + 1
      lastErrorCode := none })
    outcomes

/-- The guard of every later write: the row is pending under the token. -/
def ClaimedBy (messageId : Int) (claimToken : String) (row : MessageAdmissionOutcome) : Prop :=
  row.messageId = messageId ∧ row.state = .pending ∧ row.claimToken = some claimToken

instance (messageId : Int) (claimToken : String) : DecidablePred (ClaimedBy messageId claimToken) :=
  fun _ => inferInstanceAs (Decidable (_ ∧ _ ∧ _))

/-- The `UPDATE` of `release_claim`, which does not look at its row count. -/
def releaseClaim (messageId : Int) (claimToken errorCode : String)
    (outcomes : List MessageAdmissionOutcome) : List MessageAdmissionOutcome :=
  updateWhere (ClaimedBy messageId claimToken)
    (fun row => { row with
      claimToken := none
      leaseExpiresAt := none
      lastErrorCode := some errorCode })
    outcomes

def evaluationErrorCode : String := "admission_evaluation_failed"

/-- `_completed_decision`. -/
def completedDecision (admission : AdmissionOutcome) : Except AdmissionError AdmissionDecision :=
  if admission.admitted then do
    raiseIf (admission.reason ≠ .allowed ∨ admission.shouldCreateTask = false)
      (.invariant "allowed admission has inconsistent state")
    raiseIf (admission.enterpriseIdentityId.getD "" = "" ∨ admission.workspaceId.getD "" = "" ∨
        admission.aiThreadId.getD "" = "")
      (.invariant "allowed admission has no durable dispatch target")
    return .allowed
  else do
    raiseIf (admission.shouldCreateTask = true ∨ admission.reason = .allowed)
      (.invariant "denied admission has inconsistent state")
    return .denied

/-- The row after `stage_completion`. -/
def MessageAdmissionOutcome.completedWith (row : MessageAdmissionOutcome)
    (admission : AdmissionOutcome) (decision : AdmissionDecision) (dbNow : Timestamp) :
    MessageAdmissionOutcome :=
  { row with
    state := .completed
    decision := some decision
    admissionReason := some admission.reason
    shouldCreateTask := admission.shouldCreateTask
    authorizationReasonCode := admission.authorization.map AuthorizationDecision.reasonCode
    authorizationSnapshot := admission.authorization
    policy := admission.policy
    enterpriseIdentityId := admission.enterpriseIdentityId.or
      (admission.authorization.bind AuthorizationDecision.enterpriseIdentityId)
    workspaceId := admission.workspaceId
    aiThreadId := admission.aiThreadId
    route := admission.route
    claimToken := none
    leaseExpiresAt := none
    lastErrorCode := none
    completedAt := some dbNow }

/-- A guarded `UPDATE` under a claim, with the `CHECK`s on the new row. -/
def updateClaimed (messageId : Int) (claimToken : String)
    (values : MessageAdmissionOutcome → MessageAdmissionOutcome)
    (outcomes : List MessageAdmissionOutcome) :
    Except AdmissionError (List MessageAdmissionOutcome) :=
  if ∃ row ∈ outcomes, ClaimedBy messageId claimToken row ∧ ¬ Checks (values row) then
    .error .integrity
  else
    match guardedUpdate (ClaimedBy messageId claimToken) values outcomes with
    | none => .error (.stateConflict messageId)
    | some updated => .ok updated

/-- `stage_completion`. -/
def stageCompletion (claimToken : String) (admission : AdmissionOutcome) (dbNow : Timestamp)
    (outcomes : List MessageAdmissionOutcome) :
    Except AdmissionError (List MessageAdmissionOutcome) := do
  let decision ← completedDecision admission
  updateClaimed admission.messageId claimToken
    (fun row => row.completedWith admission decision dbNow) outcomes

/-- `complete_denied`, up to the read-back. -/
def completeDenied (claimToken : String) (admission : AdmissionOutcome) (dbNow : Timestamp)
    (outcomes : List MessageAdmissionOutcome) :
    Except AdmissionError (List MessageAdmissionOutcome) := do
  raiseIf (admission.admitted = true ∨ admission.shouldCreateTask = true)
    (.invariant "denied admission requested dispatch")
  stageCompletion claimToken admission dbNow outcomes

/-- The row after `complete_claim_from_legacy_dispatch`. -/
def MessageAdmissionOutcome.adopted (row : MessageAdmissionOutcome) (record : HermesDispatchRecord)
    (dbNow : Timestamp) : MessageAdmissionOutcome :=
  { row with
    state := .completed
    decision := some .allowed
    evidenceOrigin := .legacyDispatch
    admissionReason := some .allowed
    shouldCreateTask := true
    request := none
    authorizationReasonCode := none
    authorizationSnapshot := none
    policy := .empty
    enterpriseIdentityId := some record.enterpriseIdentityId
    workspaceId := some record.workspaceId
    aiThreadId := some record.aiThreadId
    route := .empty "legacy"
    claimToken := none
    leaseExpiresAt := none
    lastErrorCode := none
    completedAt := some dbNow }

/-- The `UPDATE` of `complete_claim_from_legacy_dispatch`. -/
def completeClaimFromLegacyDispatch (claimToken : String) (record : HermesDispatchRecord)
    (dbNow : Timestamp) (outcomes : List MessageAdmissionOutcome) :
    Except AdmissionError (List MessageAdmissionOutcome) :=
  updateClaimed record.messageId claimToken (fun row => row.adopted record dbNow) outcomes

/-! ## Reading a stored outcome -/

/-- `request_facts`. -/
def requestFacts (outcome : MessageAdmissionOutcome) : Except AdmissionError RequestFacts :=
  match outcome.evidenceOrigin, outcome.request with
  | .runtime, some request => .ok request
  | _, _ => .error (.invariant "pending admission has no authoritative request snapshot")

/-- The checks of `to_admission_outcome` on what it has read. -/
def checkedOutcome (decision : AdmissionDecision) (outcome : AdmissionOutcome) :
    Except AdmissionError AdmissionOutcome := do
  raiseIf (outcome.admitted ≠ outcome.shouldCreateTask)
    (.invariant "stored admission decision and task target disagree")
  raiseIf (outcome.admitted ≠ decide (outcome.reason = .allowed))
    (.invariant "stored admission decision and reason disagree")
  raiseIf (decision = .unresolved ∧ outcome.reason ≠ .legacyUnresolved)
    (.invariant "stored unresolved admission reason is invalid")
  raiseIf (∃ authorization ∈ outcome.authorization, authorization.allowed ≠ outcome.admitted)
    (.invariant "stored authorization and admission decision disagree")
  return outcome

/-- `to_admission_outcome`. -/
def toAdmissionOutcome (stored : MessageAdmissionOutcome) :
    Except AdmissionError AdmissionOutcome :=
  match stored.state, stored.decision, stored.admissionReason with
  | .completed, some decision, some reason =>
    checkedOutcome decision {
      messageId := stored.messageId
      admitted := decide (decision = .allowed)
      shouldCreateTask := stored.shouldCreateTask
      reason := reason
      enterpriseIdentityId := stored.enterpriseIdentityId
      workspaceId := stored.workspaceId
      aiThreadId := stored.aiThreadId
      authorization := stored.authorizationSnapshot
      policy := stored.policy
      route := stored.route }
  | .completed, some _, none => .error (.invariant "stored admission outcome is invalid")
  | _, _, _ => .error (.pending stored.messageId)

/-- `_compatible_legacy_dispatch_outcome`. -/
def compatibleLegacyDispatchOutcome (outcome : MessageAdmissionOutcome)
    (record : HermesDispatchRecord) : Except AdmissionError MessageAdmissionOutcome := do
  raiseIf (¬ (outcome.messageId = record.messageId ∧ outcome.state = .completed ∧
      outcome.decision = some .allowed ∧ outcome.admissionReason = some .allowed ∧
      outcome.shouldCreateTask = true ∧
      outcome.enterpriseIdentityId = some record.enterpriseIdentityId ∧
      outcome.workspaceId = some record.workspaceId ∧
      outcome.aiThreadId = some record.aiThreadId))
    (.invariant "persisted admission outcome conflicts with an existing dispatch record")
  return outcome

end AgentGateway.Admission
