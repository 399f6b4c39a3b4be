import AgentGateway.Workspace.Store

/-!
# Admitting a message

`AdmissionOrchestrator.admit` authorizes the sender of a message and then binds the conversation to
a workspace and a thread, by the route of the conversation where routing is enabled and by its
source binding otherwise.
-/

namespace AgentGateway.Admission

open Lib Lib.Program Access Workspace
open AgentGateway.Routing (RouteError ResolvedRoute resolveRoute)
open AgentGateway.Dispatch (ThreadType AIThread EmployeeWorkspace)

/-- `SenderType`. -/
inductive SenderType
  | human
  | system
  deriving DecidableEq, Repr

/-- `AdmissionCandidate`. -/
structure AdmissionCandidate where
  messageId : Int
  source : String
  sourceAccountId : String
  conversationId : String
  conversationType : ConversationType
  senderType : SenderType
  senderId : Option String
  isSelf : Bool
  isMentioned : Option Bool
  messageType : String
  requestedScope : List String
  requestedSkillIds : List String
  riskLevel : RiskLevel
  deriving DecidableEq, Repr

/-- The `RequestFacts` of a candidate. -/
def AdmissionCandidate.request (candidate : AdmissionCandidate) : RequestFacts :=
  ⟨candidate.requestedScope, candidate.requestedSkillIds, candidate.riskLevel⟩

/-- The thread type with the value of a conversation type. -/
def threadTypeOf : ConversationType → ThreadType
  | .privateChat => .privateThread
  | .group => .groupThread

/-! ## Evidence -/

/-- `_policy_snapshot`, with the two entries that an unavailable route adds. -/
structure PolicySnapshot where
  evaluatedIdentity : IdentityFacts
  evaluatedGateway : GatewayPolicyFacts
  gateway : Option GatewayAccessPolicy
  user : Option UserAccessPolicy
  routeUnavailable : Option (String × AuthorizationDecision)
  deriving DecidableEq, Repr

/-- What an admission is set up with: how keys are built and how a snapshot is written as JSON. -/
structure Setup where
  codec : KeyCodec
  snapshotJson : PolicySnapshot → String
  v2RoutingEnabled : Bool

/-- The policy references of an outcome. -/
def Setup.policyReferences (setup : Setup) (snapshot : PolicySnapshot) : PolicyEvidence where
  policySnapshot := some (setup.snapshotJson snapshot)
  gatewayPolicyId := snapshot.gateway.map GatewayAccessPolicy.id
  gatewayPolicyUpdatedAt := snapshot.gateway.map GatewayAccessPolicy.updatedAt
  userPolicyId := snapshot.user.map UserAccessPolicy.id
  userPolicyUpdatedAt := snapshot.user.map UserAccessPolicy.updatedAt

/-- The routing references of a resolved route. -/
def routingReferences (route : ResolvedRoute) : RouteEvidence where
  routingMode := "v2"
  routeConversationRecordId := some route.conversationRecordId
  agentProfileId := some route.agentProfileId
  agentProfileKey := some route.agentProfileKey
  agentProfileReference := some route.agentProfileReference
  agentProfileRevision := some route.agentProfileRevision
  groupTypeId := route.groupTypeId
  groupTypeKey := route.groupTypeKey
  threadPolicy := some route.threadPolicy.value

/-! ## Authorization -/

def systemMessageType : String := "system"

/-- The reason to deny a candidate before any policy is read. -/
def preprocessingReason (candidate : AdmissionCandidate) : Option AdmissionReason :=
  if candidate.isSelf = true then some .selfMessage
  else if candidate.senderType = .system ∨ candidate.messageType = systemMessageType then
    some .systemMessage
  else if strip (candidate.senderId.getD "") = "" then some .senderUnresolved
  else none

/-- An authorization decision with the facts it was made from. -/
structure Evaluation where
  authorization : AuthorizationDecision
  snapshot : PolicySnapshot
  deriving DecidableEq, Repr

/-- Collect the facts about a candidate, and evaluate them. -/
def evaluate (candidate : AdmissionCandidate) (tables : AccessTables) (now : Timestamp) :
    Except ModelError Evaluation := do
  let identity ← resolveSourceIdentityFacts candidate.source candidate.sourceAccountId
    (candidate.senderId.getD "") now tables
  let gateway ← resolveGatewayPolicyFacts tables
  let conversation := resolveConversationFacts candidate.conversationType candidate.isMentioned
  return {
    authorization := evaluateAccess identity conversation candidate.request gateway
    snapshot := {
      evaluatedIdentity := identity
      evaluatedGateway := gateway
      gateway := getGatewayPolicy tables
      user := identity.enterpriseIdentityId.bind fun id => getUserPolicy id tables
      routeUnavailable := none } }

/-! ## Outcomes -/

/-- `_preprocessing_denial`. -/
def preprocessingDenial (candidate : AdmissionCandidate) (reason : AdmissionReason) :
    AdmissionOutcome where
  messageId := candidate.messageId
  admitted := false
  shouldCreateTask := false
  reason := reason
  enterpriseIdentityId := none
  workspaceId := none
  aiThreadId := none
  authorization := none
  policy := .empty
  route := .empty "none"

section

variable (setup : Setup) (candidate : AdmissionCandidate) (evaluation : Evaluation)

/-- The outcome of a denied request. -/
def accessDenial : AdmissionOutcome where
  messageId := candidate.messageId
  admitted := false
  shouldCreateTask := false
  reason := .accessDenied
  enterpriseIdentityId := evaluation.authorization.enterpriseIdentityId
  workspaceId := none
  aiThreadId := none
  authorization := some evaluation.authorization
  policy := setup.policyReferences evaluation.snapshot
  route := .empty "none"

/-- The outcome of an allowed request that has no route. The authorization is kept in the snapshot
and not in its own column. -/
def routeUnavailable (enterpriseIdentityId : String) (error : RouteError) : AdmissionOutcome where
  messageId := candidate.messageId
  admitted := false
  shouldCreateTask := false
  reason := .routeUnavailable
  enterpriseIdentityId := some enterpriseIdentityId
  workspaceId := none
  aiThreadId := none
  authorization := none
  policy := setup.policyReferences { evaluation.snapshot with
    routeUnavailable := some (error.code, evaluation.authorization) }
  route := .empty "v2"

/-- The outcome of an admitted request. -/
def admission (enterpriseIdentityId : String) (workspace : EmployeeWorkspace) (thread : AIThread)
    (route : RouteEvidence) : AdmissionOutcome where
  messageId := candidate.messageId
  admitted := true
  shouldCreateTask := true
  reason := .allowed
  enterpriseIdentityId := some enterpriseIdentityId
  workspaceId := some workspace.id
  aiThreadId := some thread.id
  authorization := some evaluation.authorization
  policy := setup.policyReferences evaluation.snapshot
  route := route

/-! ## The orchestrator -/

/-- The errors of a resolution that mean there is no route now. A missing target or an unknown
status stays an error. -/
def Unavailable : RouteError → Prop
  | .privateProfileNotConfigured | .unknownGroupTypeNotConfigured => True
  | .agentProfileUnavailable status | .groupTypeUnavailable status =>
    status = "disabled" ∨ status = "archived"
  | _ => False

instance : DecidablePred Unavailable := fun error => by
  cases error <;> unfold Unavailable <;> infer_instance

/-- The branch of `admit` with routing. -/
def admitV2 (enterpriseIdentityId : String) : Admit AdmissionOutcome :=
  (ask .readRouting).bindOk fun tables =>
  match resolveRoute candidate.source candidate.sourceAccountId candidate.conversationId
      (threadTypeOf candidate.conversationType) enterpriseIdentityId tables with
  | .error error =>
    if Unavailable error then
      give (routeUnavailable setup candidate evaluation enterpriseIdentityId error)
    else raise (.route error)
  | .ok route =>
    (resolveThread setup.codec route enterpriseIdentityId).bindOk fun thread =>
    (bindV2RouteSnapshot thread route.agentProfileId route.threadPolicy).bindOk fun thread =>
    (ensureWorkspaceForAuthorizedIdentity enterpriseIdentityId).bindOk fun workspace =>
    give (admission setup candidate evaluation enterpriseIdentityId workspace thread
      (routingReferences route))

/-- The branch of `admit` without routing. -/
def admitV1 (enterpriseIdentityId : String) : Admit AdmissionOutcome :=
  (ensureWorkspaceForAuthorizedIdentity enterpriseIdentityId).bindOk fun workspace =>
  (ensureThreadForAuthorizedRequest setup.codec enterpriseIdentityId candidate.source
    candidate.sourceAccountId candidate.conversationId (threadTypeOf candidate.conversationType)
    (candidate.senderId.getD "")).bindOk fun thread =>
  give (admission setup candidate evaluation enterpriseIdentityId workspace thread (.empty "v1"))

/-- What `admit` does with a decision. -/
def settle : Admit AdmissionOutcome :=
  if evaluation.authorization.allowed = false then give (accessDenial setup candidate evaluation)
  else
    match evaluation.authorization.enterpriseIdentityId with
    | none => raise .invariant
    | some enterpriseIdentityId =>
      if setup.v2RoutingEnabled = true then
        admitV2 setup candidate evaluation enterpriseIdentityId
      else admitV1 setup candidate evaluation enterpriseIdentityId

end

/-- `AdmissionOrchestrator.admit`. -/
def admitCandidate (setup : Setup) (candidate : AdmissionCandidate) : Admit AdmissionOutcome :=
  match preprocessingReason candidate with
  | some reason => give (preprocessingDenial candidate reason)
  | none =>
    (ask .readAccess).bindOk fun read =>
    (check (fun _ => .model) (evaluate candidate read.1 read.2)).bindOk fun evaluation =>
    settle setup candidate evaluation

end AgentGateway.Admission
