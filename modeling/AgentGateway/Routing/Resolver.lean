import AgentGateway.Dispatch.Service

/-!
# Routes

`RouteResolver` finds the agent profile and the thread policy of a conversation from stored
configuration: a private conversation has a profile of its own, a group has a type, and a group
nobody has typed has the type of unknown groups.
-/

namespace AgentGateway.Routing

open AgentGateway.Lib
open AgentGateway.Dispatch (ThreadType ThreadPolicy ResourceStatus)

/-! ## Rows -/

/-- `Conversation`, as far as routing reads it. -/
structure Conversation where
  id : ℕ
  source : String
  sourceAccountId : String
  conversationId : String
  conversationType : String
  deriving DecidableEq, Repr

/-- `AgentProfile`. -/
structure AgentProfile where
  id : String
  profileKey : String
  revision : ℕ
  provider : String
  externalProfileRef : String
  model : String
  status : ResourceStatus
  deriving DecidableEq, Repr

/-- `GroupType`. -/
structure GroupType where
  id : String
  typeKey : String
  displayName : String
  agentProfileId : String
  threadPolicy : ThreadPolicy
  status : ResourceStatus
  deriving DecidableEq, Repr

/-- `ConversationAgentProfileBinding`. -/
structure ConversationAgentProfileBinding where
  id : String
  conversationId : ℕ
  agentProfileId : String
  deriving DecidableEq, Repr

/-- `ConversationGroupTypeBinding`. -/
structure ConversationGroupTypeBinding where
  id : String
  conversationId : ℕ
  groupTypeId : String
  deriving DecidableEq, Repr

/-- The tables a route is resolved from. -/
structure RoutingTables where
  conversations : List Conversation
  agentProfiles : List AgentProfile
  groupTypes : List GroupType
  profileBindings : List ConversationAgentProfileBinding
  groupTypeBindings : List ConversationGroupTypeBinding
  deriving DecidableEq, Repr

/-! ## Errors -/

/-- The `value` of a status. -/
def statusValue : ResourceStatus → String
  | .active => "active"
  | .disabled => "disabled"
  | .archived => "archived"

/-- What the resolution of a route raises. -/
inductive RouteError
  | conversationNotFound
  | conversationTypeConflict
  | groupTypeUnavailable (status : String)
  | agentProfileUnavailable (status : String)
  | privateProfileNotConfigured
  | unknownGroupTypeNotConfigured
  | agentProfileNotFound
  | conversationNotPrivate
  deriving DecidableEq, Repr

/-- The `code` of an error. -/
def RouteError.code : RouteError → String
  | .conversationNotFound => "route_conversation_not_found"
  | .conversationTypeConflict => "route_conversation_type_conflict"
  | .groupTypeUnavailable _ => "route_group_type_unavailable"
  | .agentProfileUnavailable _ => "route_agent_profile_unavailable"
  | .privateProfileNotConfigured => "private_conversation_profile_not_configured"
  | .unknownGroupTypeNotConfigured => "unknown_group_type_not_configured"
  | .agentProfileNotFound => "agent_profile_not_found"
  | .conversationNotPrivate => "conversation_not_private"

/-! ## Resolution -/

/-- `get_agent_profile`. -/
def getAgentProfile (agentProfileId : String) (tables : RoutingTables) : Option AgentProfile :=
  tables.agentProfiles.find? fun profile => profile.id = agentProfileId

/-- `resolve_private_agent_profile`. -/
def resolvePrivateAgentProfile (conversation : Conversation) (tables : RoutingTables) :
    Except RouteError AgentProfile := do
  raiseIf (conversation.conversationType ≠ "private") .conversationNotPrivate
  let binding ← raiseIfNone
    (tables.profileBindings.find? fun binding => binding.conversationId = conversation.id)
    .privateProfileNotConfigured
  raiseIfNone (getAgentProfile binding.agentProfileId tables) .agentProfileNotFound

def unknownGroupTypeKey : String := "unknown_group"

/-- `get_bound_group_type`, a join of two tables. -/
def getBoundGroupType (conversationRecordId : ℕ) (tables : RoutingTables) : Option GroupType :=
  (tables.groupTypeBindings.find? fun binding =>
      binding.conversationId = conversationRecordId).bind fun binding =>
    tables.groupTypes.find? fun groupType => groupType.id = binding.groupTypeId

/-- `resolve_group_type`, for a conversation of type `group`. -/
def resolveGroupType (conversation : Conversation) (tables : RoutingTables) :
    Except RouteError GroupType :=
  match getBoundGroupType conversation.id tables with
  | some groupType => .ok groupType
  | none => raiseIfNone
      (tables.groupTypes.find? fun groupType => groupType.typeKey = unknownGroupTypeKey)
      .unknownGroupTypeNotConfigured

/-- `ResolvedRoute`. -/
structure ResolvedRoute where
  conversationRecordId : ℕ
  source : String
  sourceAccountId : String
  conversationId : String
  conversationType : ThreadType
  enterpriseIdentityId : String
  groupTypeId : Option String
  groupTypeKey : Option String
  agentProfileId : String
  agentProfileKey : String
  agentProfileReference : String
  agentProfileRevision : ℕ
  threadPolicy : ThreadPolicy
  deriving DecidableEq, Repr

/-- The profile, the thread policy and the group type of a conversation. -/
def resolveTarget (requestedType : ThreadType) (conversation : Conversation)
    (tables : RoutingTables) : Except RouteError (AgentProfile × ThreadPolicy × Option GroupType) :=
  match requestedType with
  | .privateThread => do
    let profile ← resolvePrivateAgentProfile conversation tables
    return (profile, .privateSender, none)
  | .groupThread => do
    let groupType ← resolveGroupType conversation tables
    raiseIf (groupType.status ≠ .active) (.groupTypeUnavailable (statusValue groupType.status))
    let profile ← raiseIfNone (getAgentProfile groupType.agentProfileId tables)
      (.agentProfileUnavailable "missing")
    return (profile, groupType.threadPolicy, some groupType)

/-- `RouteResolver.resolve`. -/
def resolveRoute (source sourceAccountId conversationId : String) (requestedType : ThreadType)
    (enterpriseIdentityId : String) (tables : RoutingTables) :
    Except RouteError ResolvedRoute := do
  let conversation ← raiseIfNone
    (tables.conversations.find? fun row => row.source = source ∧
      row.sourceAccountId = sourceAccountId ∧ row.conversationId = conversationId)
    .conversationNotFound
  raiseIf (conversation.conversationType ≠ requestedType.value) .conversationTypeConflict
  let (profile, threadPolicy, groupType) ← resolveTarget requestedType conversation tables
  raiseIf (profile.status ≠ .active) (.agentProfileUnavailable (statusValue profile.status))
  return {
    conversationRecordId := conversation.id
    source := conversation.source
    sourceAccountId := conversation.sourceAccountId
    conversationId := conversation.conversationId
    conversationType := requestedType
    enterpriseIdentityId := enterpriseIdentityId
    groupTypeId := groupType.map GroupType.id
    groupTypeKey := groupType.map GroupType.typeKey
    agentProfileId := profile.id
    agentProfileKey := profile.profileKey
    agentProfileReference := profile.externalProfileRef
    agentProfileRevision := profile.revision
    threadPolicy := threadPolicy }

end AgentGateway.Routing
