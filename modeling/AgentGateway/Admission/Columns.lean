import AgentGateway.Access.Policies
import AgentGateway.Admission.Effects
import AgentGateway.Hermes.Payload

/-!
# The columns of an outcome

The row model of `message_admission_outcomes` keeps an authorization decision as it is and its
reasons as members of their enumerations. The table has texts and a JSON object in these columns,
which `stage_completion` writes and `to_admission_outcome` reads back with `str`, `bool` and
`frozenset`. Here both are written out, and reading the columns of a row is shown to give what the
row model gives, with frozen sets compared by their elements.

`str` on a JSON value that is not a string is a parameter, as nothing depends on it.
-/

namespace AgentGateway.Admission

open AgentGateway.Lib
open AgentGateway.Access (riskLevelOfValue)
open AgentGateway.Hermes (JsonValue)

/-! ## Enumerations -/

/-- `AdmissionReason.value`. -/
def AdmissionReason.value : AdmissionReason → String
  | .allowed => "allowed"
  | .selfMessage => "self_message"
  | .systemMessage => "system_message"
  | .senderUnresolved => "sender_unresolved"
  | .accessDenied => "access_denied"
  | .routeUnavailable => "route_unavailable"
  | .legacyUnresolved => "legacy_unresolved"

/-- `ReasonCode.value`. -/
def ReasonCode.value : ReasonCode → String
  | .allowed => "allowed"
  | .invalidConversationType => "invalid_conversation_type"
  | .invalidConversationFacts => "invalid_conversation_facts"
  | .identityUnresolved => "identity_unresolved"
  | .identityDisabled => "identity_disabled"
  | .userNotAllowed => "user_not_allowed"
  | .botNotMentioned => "bot_not_mentioned"
  | .riskNotAllowed => "risk_not_allowed"
  | .permissionScopeEmpty => "permission_scope_empty"
  | .skillNotAllowed => "skill_not_allowed"

/-- `RiskLevel.value`. -/
def RiskLevel.value : RiskLevel → String
  | .low => "low"
  | .normal => "normal"
  | .high => "high"
  | .critical => "critical"

/-- `Decision`, which repeats whether a request is allowed. -/
inductive Decision
  | allowed
  | denied
  deriving DecidableEq, Repr

def Decision.value : Decision → String
  | .allowed => "allowed"
  | .denied => "denied"

/-- What a stored outcome that cannot be read raises. -/
def invalidOutcome : AdmissionError := .invariant "stored admission outcome is invalid"

/-- The member of an enumeration with a value; a `ValueError` if there is none. -/
def memberOf {ε : Type} (members : List ε) (value : ε → String) (text : String) :
    Except AdmissionError ε :=
  match members.find? fun member => value member = text with
  | some member => .ok member
  | none => .error invalidOutcome

def admissionReasonOf : String → Except AdmissionError AdmissionReason :=
  memberOf [.allowed, .selfMessage, .systemMessage, .senderUnresolved, .accessDenied,
    .routeUnavailable, .legacyUnresolved] AdmissionReason.value

def reasonCodeOf : String → Except AdmissionError ReasonCode :=
  memberOf [.allowed, .invalidConversationType, .invalidConversationFacts, .identityUnresolved,
    .identityDisabled, .userNotAllowed, .botNotMentioned, .riskNotAllowed, .permissionScopeEmpty,
    .skillNotAllowed] ReasonCode.value

/-- `RiskLevel(value)`, whose error the reader of the snapshot catches. -/
def riskLevelOf (text : String) : Except AdmissionError RiskLevel :=
  (riskLevelOfValue text).mapError fun _ => invalidOutcome

def decisionOf : String → Except AdmissionError Decision := memberOf [.allowed, .denied] Decision.value

@[simp] lemma admissionReasonOf_value (reason : AdmissionReason) :
    admissionReasonOf reason.value = .ok reason := by
  cases reason <;> rfl

@[simp] lemma reasonCodeOf_value (code : ReasonCode) : reasonCodeOf code.value = .ok code := by
  cases code <;> rfl

@[simp] lemma riskLevelOf_value (level : RiskLevel) : riskLevelOf level.value = .ok level := by
  cases level <;> rfl

@[simp] lemma decisionOf_value (decision : Decision) : decisionOf decision.value = .ok decision := by
  cases decision <;> rfl

/-! ## The snapshot of an authorization -/

/-- The decision of an authorization. -/
def AuthorizationDecision.decision (authorization : AuthorizationDecision) : Decision :=
  if authorization.allowed = true then .allowed else .denied

/-- `sorted` of a frozen set. -/
def sortedSet (values : List String) : List String := values.dedup.mergeSort fun a b => a ≤ b

@[simp] lemma toFinset_sortedSet (values : List String) :
    (sortedSet values).toFinset = values.toFinset := by
  ext value
  simp [sortedSet]

/-- A list of texts in JSON. -/
def jsonTexts (values : List String) : JsonValue := .array (values.map .string)

/-- A text or null. -/
def jsonText (value : Option String) : JsonValue := value.elim .null .string

/-- A truth value or null. -/
def jsonBool (value : Option Bool) : JsonValue := value.elim .null .bool

/-- `AuthorizationDecision.to_dict`. -/
def AuthorizationDecision.toDict (authorization : AuthorizationDecision) : JsonValue :=
  .object [
    ("allowed", .bool authorization.allowed),
    ("decision", .string authorization.decision.value),
    ("reason_code", .string authorization.reasonCode.value),
    ("enterprise_identity_id", jsonText authorization.enterpriseIdentityId),
    ("user_allowed", .bool authorization.userAllowed),
    ("is_mentioned", jsonBool authorization.isMentioned),
    ("permission_scope", jsonTexts (sortedSet authorization.permissionScope)),
    ("allowed_skills", jsonTexts (sortedSet authorization.allowedSkills)),
    ("risk_level", .string authorization.riskLevel.value)]

/-- `bool`. -/
def truth : JsonValue → Bool
  | .null => false
  | .bool value => value
  | .number value => value ≠ 0
  | .string value => value ≠ ""
  | .array items => items.isEmpty = false
  | .object fields => fields.isEmpty = false

/-- `str`, with what it makes of values that are no strings. -/
def textOf (str : JsonValue → String) : JsonValue → String
  | .string value => value
  | value => str value

/-- `snapshot[name]`; a `KeyError` if it is not there. -/
def item (fields : List (String × JsonValue)) (name : String) : Except AdmissionError JsonValue :=
  match fields.find? fun entry => entry.1 = name with
  | some entry => .ok entry.2
  | none => .error invalidOutcome

/-- `snapshot.get(name)`, unless it is `None`. -/
def item? (fields : List (String × JsonValue)) (name : String) : Option JsonValue :=
  match fields.find? fun entry => entry.1 = name with
  | some (_, .null) => none
  | some entry => some entry.2
  | none => none

/-- `frozenset(str(value) for value in values)`; a `TypeError` if the values are none. -/
def texts (str : JsonValue → String) : JsonValue → Except AdmissionError (List String)
  | .array items => .ok (items.map (textOf str))
  | .string value => .ok (value.toList.map fun c => String.ofList [c])
  | .object fields => .ok (fields.map Prod.fst)
  | _ => .error invalidOutcome

/-- `_authorization_from_snapshot`, with the decision beside the authorization. -/
def authorizationFromSnapshot (str : JsonValue → String) :
    Option JsonValue → Except AdmissionError (Option (AuthorizationDecision × Decision))
  | none | some .null => .ok none
  | some (.object fields) => do
    let allowed ← item fields "allowed"
    let decision ← decisionOf (textOf str (← item fields "decision"))
    let reasonCode ← reasonCodeOf (textOf str (← item fields "reason_code"))
    let userAllowed ← item fields "user_allowed"
    let permissionScope ← texts str (← item fields "permission_scope")
    let allowedSkills ← texts str (← item fields "allowed_skills")
    let riskLevel ← riskLevelOf (textOf str (← item fields "risk_level"))
    return some ({
      allowed := truth allowed
      reasonCode := reasonCode
      enterpriseIdentityId := (item? fields "enterprise_identity_id").map (textOf str)
      userAllowed := truth userAllowed
      isMentioned := (item? fields "is_mentioned").map truth
      permissionScope := permissionScope
      allowedSkills := allowedSkills
      riskLevel := riskLevel }, decision)
  | some _ => .error invalidOutcome

/-- Two decisions are equal, their frozen sets by their elements. -/
structure AuthorizationDecision.Same (a b : AuthorizationDecision) : Prop where
  allowed : a.allowed = b.allowed
  reasonCode : a.reasonCode = b.reasonCode
  enterpriseIdentityId : a.enterpriseIdentityId = b.enterpriseIdentityId
  userAllowed : a.userAllowed = b.userAllowed
  isMentioned : a.isMentioned = b.isMentioned
  permissionScope : a.permissionScope.toFinset = b.permissionScope.toFinset
  allowedSkills : a.allowedSkills.toFinset = b.allowedSkills.toFinset
  riskLevel : a.riskLevel = b.riskLevel

lemma texts_jsonTexts (str : JsonValue → String) (values : List String) :
    texts str (jsonTexts values) = .ok values := by
  simp [texts, jsonTexts, textOf, Function.comp_def]

/-- A snapshot is read back as what it was made from. -/
lemma authorizationFromSnapshot_toDict (str : JsonValue → String)
    (authorization : AuthorizationDecision) :
    ∃ replayed, authorizationFromSnapshot str (some authorization.toDict) =
        .ok (some (replayed, authorization.decision)) ∧ replayed.Same authorization := by
  obtain ⟨allowed, reasonCode, id, userAllowed, isMentioned, scope, skills, riskLevel⟩ :=
    authorization
  refine ⟨⟨allowed, reasonCode, id, userAllowed, isMentioned, sortedSet scope, sortedSet skills,
    riskLevel⟩, ?_, ⟨rfl, rfl, rfl, rfl, rfl, toFinset_sortedSet scope, toFinset_sortedSet skills,
    rfl⟩⟩
  simp only [AuthorizationDecision.toDict, authorizationFromSnapshot, item, item?, List.find?,
    textOf, truth]
  cases id <;> cases isMentioned <;>
    simp [jsonText, jsonBool, textOf, truth, texts_jsonTexts, bind, Except.bind, pure, Except.pure]

/-! ## Columns -/

/-- The columns of a row that `to_admission_outcome` reads. -/
structure OutcomeColumns where
  messageId : Int
  state : AdmissionOutcomeState
  decision : Option AdmissionDecision
  admissionReason : Option String
  shouldCreateTask : Bool
  authorizationReasonCode : Option String
  authorizationSnapshot : Option JsonValue
  policy : PolicyEvidence
  enterpriseIdentityId : Option String
  workspaceId : Option String
  aiThreadId : Option String
  route : RouteEvidence

/-- The columns of a row. -/
def MessageAdmissionOutcome.columns (row : MessageAdmissionOutcome) : OutcomeColumns where
  messageId := row.messageId
  state := row.state
  decision := row.decision
  admissionReason := row.admissionReason.map AdmissionReason.value
  shouldCreateTask := row.shouldCreateTask
  authorizationReasonCode := row.authorizationReasonCode.map ReasonCode.value
  authorizationSnapshot := row.authorizationSnapshot.map AuthorizationDecision.toDict
  policy := row.policy
  enterpriseIdentityId := row.enterpriseIdentityId
  workspaceId := row.workspaceId
  aiThreadId := row.aiThreadId
  route := row.route

/-- What `to_admission_outcome` returns, with the decision of the authorization. -/
structure Replayed where
  outcome : AdmissionOutcome
  decision : Option Decision
  deriving DecidableEq, Repr

/-- The outcome that the columns say, once their texts are read. -/
def OutcomeColumns.outcome (stored : OutcomeColumns) (decision : AdmissionDecision)
    (reason : AdmissionReason) (authorization : Option AuthorizationDecision) :
    AdmissionOutcome where
  messageId := stored.messageId
  admitted := decide (decision = .allowed)
  shouldCreateTask := stored.shouldCreateTask
  reason := reason
  enterpriseIdentityId := stored.enterpriseIdentityId
  workspaceId := stored.workspaceId
  aiThreadId := stored.aiThreadId
  authorization := authorization
  policy := stored.policy
  route := stored.route

/-- `to_admission_outcome`, on the columns. -/
def OutcomeColumns.toAdmissionOutcome (str : JsonValue → String) (stored : OutcomeColumns) :
    Except AdmissionError Replayed :=
  match stored.state, stored.decision with
  | .completed, some decision => do
    let reason ← match stored.admissionReason with
      | some text => admissionReasonOf text
      | none => .error invalidOutcome
    let authorization ← authorizationFromSnapshot str stored.authorizationSnapshot
    let outcome ← checkedOutcome decision
      (stored.outcome decision reason (authorization.map Prod.fst))
    return ⟨outcome, authorization.map Prod.snd⟩
  | _, _ => .error (.pending stored.messageId)

/-- What was read is equal to an outcome, field by field. -/
structure Replayed.Same (replayed : Replayed) (outcome : AdmissionOutcome) : Prop where
  messageId : replayed.outcome.messageId = outcome.messageId
  admitted : replayed.outcome.admitted = outcome.admitted
  shouldCreateTask : replayed.outcome.shouldCreateTask = outcome.shouldCreateTask
  reason : replayed.outcome.reason = outcome.reason
  enterpriseIdentityId : replayed.outcome.enterpriseIdentityId = outcome.enterpriseIdentityId
  workspaceId : replayed.outcome.workspaceId = outcome.workspaceId
  aiThreadId : replayed.outcome.aiThreadId = outcome.aiThreadId
  authorization : Option.Rel AuthorizationDecision.Same replayed.outcome.authorization
    outcome.authorization
  decision : replayed.decision = outcome.authorization.map AuthorizationDecision.decision
  policy : replayed.outcome.policy = outcome.policy
  route : replayed.outcome.route = outcome.route

/-- The snapshot column of a row is read back. -/
lemma authorizationFromSnapshot_map (str : JsonValue → String)
    (authorization : Option AuthorizationDecision) :
    ∃ replayed, authorizationFromSnapshot str (authorization.map AuthorizationDecision.toDict) =
        .ok replayed ∧
      Option.Rel AuthorizationDecision.Same (replayed.map Prod.fst) authorization ∧
      replayed.map Prod.snd = authorization.map AuthorizationDecision.decision := by
  cases authorization with
  | none => exact ⟨none, rfl, Option.Rel.none, rfl⟩
  | some authorization =>
    obtain ⟨replayed, hread, hsame⟩ := authorizationFromSnapshot_toDict str authorization
    exact ⟨_, hread, Option.Rel.some hsame, rfl⟩

/-- What can be read from a row can be read from its columns. -/
lemma columns_toAdmissionOutcome (str : JsonValue → String) {row : MessageAdmissionOutcome}
    {outcome : AdmissionOutcome} (h : toAdmissionOutcome row = .ok outcome) :
    ∃ replayed, row.columns.toAdmissionOutcome str = .ok replayed ∧ replayed.Same outcome := by
  unfold toAdmissionOutcome at h
  split at h
  · rename_i decision reason hstate hdecision hreason
    simp only [checkedOutcome, bind_eq_ok, raiseIf_eq_ok] at h
    obtain ⟨-, htask, -, hadmitted, -, hunresolved, -, hallowed, h⟩ := h
    cases h
    obtain ⟨replayed, hread, hsame, hdecisions⟩ :=
      authorizationFromSnapshot_map str row.authorizationSnapshot
    have hagree : ¬ ∃ entry ∈ replayed.map Prod.fst, entry.allowed ≠ decide (decision = .allowed) := by
      rintro ⟨entry, hentry, hne⟩
      rw [Option.mem_def.mp hentry] at hsame
      cases hsnapshot : row.authorizationSnapshot with
      | none =>
        rw [hsnapshot] at hsame
        cases hsame
      | some authorization =>
        rw [hsnapshot] at hsame
        cases hsame with
        | some hentrySame =>
          rw [hentrySame.allowed] at hne
          exact hallowed ⟨authorization, hsnapshot, hne⟩
    refine ⟨⟨row.columns.outcome decision reason (replayed.map Prod.fst), replayed.map Prod.snd⟩, ?_,
      ⟨rfl, rfl, rfl, rfl, rfl, rfl, rfl, hsame, hdecisions, rfl, rfl⟩⟩
    simp only [OutcomeColumns.toAdmissionOutcome, MessageAdmissionOutcome.columns, hstate, hdecision,
      hreason, Option.map_some, checkedOutcome, bind_eq_ok, raiseIf_eq_ok]
    exact ⟨reason, admissionReasonOf_value reason, replayed, hread, _, ⟨(), htask, (), hadmitted, (),
      hunresolved, (), hagree, rfl⟩, rfl⟩
  · cases h
  · cases h

end AgentGateway.Admission
