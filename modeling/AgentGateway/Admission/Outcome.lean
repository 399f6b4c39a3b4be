import AgentGateway.Lib.Python

/-!
# Admission outcomes

The enumerations and the in-memory `AdmissionOutcome` of the admission package: what an
evaluation of one message hands to the dispatch and admission stores. The columns that only
travel from the evaluation into the stored row are grouped as evidence records.
-/

namespace AgentGateway.Admission

open AgentGateway.Lib

/-- `AdmissionReason`. -/
inductive AdmissionReason
  | allowed
  | selfMessage
  | systemMessage
  | senderUnresolved
  | accessDenied
  | routeUnavailable
  | legacyUnresolved
  deriving DecidableEq, Repr

/-- `RiskLevel`. -/
inductive RiskLevel
  | low
  | normal
  | high
  | critical
  deriving DecidableEq, Repr

/-- `ReasonCode`, the reasons of an authorization decision. -/
inductive ReasonCode
  | allowed
  | invalidConversationType
  | invalidConversationFacts
  | identityUnresolved
  | identityDisabled
  | userNotAllowed
  | botNotMentioned
  | riskNotAllowed
  | permissionScopeEmpty
  | skillNotAllowed
  deriving DecidableEq, Repr

/-- `AuthorizationDecision`; its `decision` column repeats `allowed`. The frozen sets are kept
in the sorted form of `to_dict`. -/
structure AuthorizationDecision where
  allowed : Bool
  reasonCode : ReasonCode
  enterpriseIdentityId : Option String
  userAllowed : Bool
  isMentioned : Option Bool
  permissionScope : List String
  allowedSkills : List String
  riskLevel : RiskLevel
  deriving DecidableEq, Repr

/-- The policy rows an evaluation has read. -/
structure PolicyEvidence where
  policySnapshot : Option String
  gatewayPolicyId : Option String
  gatewayPolicyUpdatedAt : Option Timestamp
  userPolicyId : Option String
  userPolicyUpdatedAt : Option Timestamp
  deriving DecidableEq, Repr

/-- The route an evaluation has chosen. -/
structure RouteEvidence where
  routingMode : String
  routeConversationRecordId : Option ℕ
  agentProfileId : Option String
  agentProfileKey : Option String
  agentProfileReference : Option String
  agentProfileRevision : Option ℕ
  groupTypeId : Option String
  groupTypeKey : Option String
  threadPolicy : Option String
  deriving DecidableEq, Repr

/-- No policy evidence: every column null. -/
def PolicyEvidence.empty : PolicyEvidence := ⟨none, none, none, none, none⟩

/-- The defaults of the route columns, under the given routing mode. -/
def RouteEvidence.empty (routingMode : String) : RouteEvidence :=
  ⟨routingMode, none, none, none, none, none, none, none, none⟩

/-- `AdmissionOutcome`. -/
structure AdmissionOutcome where
  messageId : Int
  admitted : Bool
  shouldCreateTask : Bool
  reason : AdmissionReason
  enterpriseIdentityId : Option String
  workspaceId : Option String
  aiThreadId : Option String
  authorization : Option AuthorizationDecision
  policy : PolicyEvidence
  route : RouteEvidence
  deriving DecidableEq, Repr

/-- The allowed outcome for a message and a target, with no evidence attached. -/
def AdmissionOutcome.allowedFor (messageId : Int) (enterpriseIdentityId workspaceId
    aiThreadId : String) : AdmissionOutcome where
  messageId := messageId
  admitted := true
  shouldCreateTask := true
  reason := .allowed
  enterpriseIdentityId := some enterpriseIdentityId
  workspaceId := some workspaceId
  aiThreadId := some aiThreadId
  authorization := none
  policy := .empty
  route := .empty "none"

end AgentGateway.Admission
