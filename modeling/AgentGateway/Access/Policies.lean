import AgentGateway.Access.Evaluator
import AgentGateway.Lib.Pydantic

/-!
# Identities and policies

The rows that say who a sender is and what they may do, and how `IdentityService` and
`AccessPolicyService` read them into the facts that access is evaluated on.
-/

namespace AgentGateway.Access

open AgentGateway.Lib
open AgentGateway.Admission (RiskLevel)

/-! ## Rows -/

/-- The stored `IdentityStatus`, which is never `UNRESOLVED`. -/
inductive StoredIdentityStatus
  | active
  | disabled
  | archived
  deriving DecidableEq, Repr

/-- `IdentityStatus(identity.status.value)`. -/
def StoredIdentityStatus.toFacts : StoredIdentityStatus → IdentityStatus
  | .active => .active
  | .disabled => .disabled
  | .archived => .archived

/-- `EnterpriseIdentity`. -/
structure EnterpriseIdentity where
  id : String
  employeeId : Option String
  displayName : Option String
  status : StoredIdentityStatus
  deriving DecidableEq, Repr

/-- `SourceIdentityMapping`. -/
structure SourceIdentityMapping where
  id : String
  platform : String
  accountId : String
  senderId : String
  enterpriseIdentityId : String
  enabled : Bool
  deriving DecidableEq, Repr

/-- `UserAccessPolicy`. -/
structure UserAccessPolicy where
  id : String
  enterpriseIdentityId : String
  enabled : Bool
  permissionScope : List String
  allowedSkills : List String
  validFrom : Option Timestamp
  validUntil : Option Timestamp
  updatedAt : Timestamp
  deriving DecidableEq, Repr

/-- `GatewayAccessPolicy`. The risk levels are stored as text. -/
structure GatewayAccessPolicy where
  id : String
  policyKey : String
  enabled : Bool
  permissionScope : List String
  allowedSkills : List String
  allowedRiskLevels : List String
  updatedAt : Timestamp
  deriving DecidableEq, Repr

/-- The tables of identities and policies. -/
structure AccessTables where
  identities : List EnterpriseIdentity
  mappings : List SourceIdentityMapping
  userPolicies : List UserAccessPolicy
  gatewayPolicies : List GatewayAccessPolicy
  deriving DecidableEq, Repr

/-! ## Lookups -/

/-- `get_identity`. -/
def getIdentity (enterpriseIdentityId : String) (tables : AccessTables) :
    Option EnterpriseIdentity :=
  tables.identities.find? fun identity => identity.id = enterpriseIdentityId

/-- `list_mappings`. -/
def listMappings (platform accountId senderId : String) (tables : AccessTables) :
    List SourceIdentityMapping :=
  tables.mappings.filter fun mapping =>
    mapping.platform = platform ∧ mapping.accountId = accountId ∧ mapping.senderId = senderId

/-- `get_user_policy`. -/
def getUserPolicy (enterpriseIdentityId : String) (tables : AccessTables) :
    Option UserAccessPolicy :=
  tables.userPolicies.find? fun policy => policy.enterpriseIdentityId = enterpriseIdentityId

def defaultGatewayPolicyKey : String := "default"

/-- `get_gateway_policy`, with its default argument. -/
def getGatewayPolicy (tables : AccessTables) : Option GatewayAccessPolicy :=
  tables.gatewayPolicies.find? fun policy => policy.policyKey = defaultGatewayPolicyKey

/-! ## Who the sender is -/

/-- `IdentityResolutionStatus`. -/
inductive IdentityResolutionStatus
  | resolved
  | unresolved
  | disabled
  | conflict
  deriving DecidableEq, Repr

/-- `IdentityResolution`. -/
structure IdentityResolution where
  status : IdentityResolutionStatus
  enterpriseIdentityId : Option String
  employeeId : Option String
  mappingId : Option String
  deriving DecidableEq, Repr

/-- `SourceIdentityKey`. -/
structure SourceIdentityKey where
  platform : String
  accountId : String
  senderId : String
  deriving DecidableEq, Repr

/-- `SourceIdentityKey(platform=…, account_id=…, sender_id=…)`. -/
def sourceIdentityKey (platform accountId senderId : String) :
    Except ModelError SourceIdentityKey := do
  let platform ← constrStr 64 platform
  let accountId ← constrStr 255 accountId
  let senderId ← constrStr 255 senderId
  return ⟨platform, accountId, senderId⟩

/-- `resolve_identity`, for a valid key. -/
def resolveMapped (key : SourceIdentityKey) (tables : AccessTables) : IdentityResolution :=
  match listMappings key.platform key.accountId key.senderId tables with
  | [] => ⟨.unresolved, none, none, none⟩
  | [mapping] =>
    match getIdentity mapping.enterpriseIdentityId tables with
    | none => ⟨.conflict, some mapping.enterpriseIdentityId, none, some mapping.id⟩
    | some identity =>
      if mapping.enabled = false ∨ identity.status ≠ .active then
        ⟨.disabled, some identity.id, identity.employeeId, some mapping.id⟩
      else ⟨.resolved, some identity.id, identity.employeeId, some mapping.id⟩
  | _ => ⟨.conflict, none, none, none⟩

/-- `resolve_identity`. -/
def resolveIdentity (platform accountId senderId : String) (tables : AccessTables) :
    Except ModelError IdentityResolution := do
  let key ← sourceIdentityKey platform accountId senderId
  return resolveMapped key tables

/-! ## Facts -/

/-- `_is_active_policy`. -/
def UserAccessPolicy.IsActive (policy : UserAccessPolicy) (now : Timestamp) : Prop :=
  policy.enabled = true ∧ (∀ validFrom ∈ policy.validFrom, validFrom ≤ now) ∧
    ∀ validUntil ∈ policy.validUntil, now ≤ validUntil

instance (policy : UserAccessPolicy) (now : Timestamp) : Decidable (policy.IsActive now) :=
  inferInstanceAs (Decidable (_ ∧ _ ∧ _))

/-- `_empty_identity_facts`. -/
def emptyIdentityFacts (enterpriseIdentityId : Option String) (identityResolved : Bool)
    (identityStatus : IdentityStatus) : IdentityFacts :=
  ⟨identityResolved, enterpriseIdentityId, identityStatus, false, [], []⟩

/-- `resolve_identity_facts`. -/
def resolveIdentityFacts (enterpriseIdentityId : Option String) (now : Timestamp)
    (tables : AccessTables) : IdentityFacts :=
  match enterpriseIdentityId with
  | none => emptyIdentityFacts none false .unresolved
  | some id =>
    match getIdentity id tables with
    | none => emptyIdentityFacts (some id) false .unresolved
    | some identity =>
      if identity.status ≠ .active then
        emptyIdentityFacts (some id) true identity.status.toFacts
      else
        match getUserPolicy id tables with
        | none => emptyIdentityFacts (some id) true .active
        | some policy =>
          if policy.IsActive now then
            ⟨true, some id, .active, true, policy.permissionScope, policy.allowedSkills⟩
          else emptyIdentityFacts (some id) true .active

/-- `resolve_identity_resolution_facts`. -/
def resolveIdentityResolutionFacts (resolution : IdentityResolution) (now : Timestamp)
    (tables : AccessTables) : IdentityFacts :=
  match resolution.status with
  | .resolved => resolveIdentityFacts resolution.enterpriseIdentityId now tables
  | .disabled =>
    let identity := resolution.enterpriseIdentityId.bind fun id => getIdentity id tables
    emptyIdentityFacts resolution.enterpriseIdentityId resolution.enterpriseIdentityId.isSome
      (if identity.map EnterpriseIdentity.status = some .archived then .archived else .disabled)
  | _ => emptyIdentityFacts resolution.enterpriseIdentityId false .unresolved

/-- `resolve_source_identity_facts`. -/
def resolveSourceIdentityFacts (source sourceAccountId senderId : String) (now : Timestamp)
    (tables : AccessTables) : Except ModelError IdentityFacts := do
  let resolution ← resolveIdentity source sourceAccountId senderId tables
  return resolveIdentityResolutionFacts resolution now tables

/-- `ConversationType`. -/
inductive ConversationType
  | privateChat
  | group
  deriving DecidableEq, Repr

def ConversationType.value : ConversationType → String
  | .privateChat => "private"
  | .group => "group"

/-- `resolve_conversation_facts`. -/
def resolveConversationFacts (conversationType : ConversationType) (isMentioned : Option Bool) :
    ConversationFacts :=
  match conversationType with
  | .privateChat => ⟨conversationType.value, none⟩
  | .group => ⟨conversationType.value, isMentioned⟩

/-- `RiskLevel(value)`. -/
def riskLevelOfValue : String → Except ModelError RiskLevel
  | "low" => .ok .low
  | "normal" => .ok .normal
  | "high" => .ok .high
  | "critical" => .ok .critical
  | _ => .error ⟨⟩

/-- `resolve_gateway_policy_facts`; an unknown risk level raises. -/
def resolveGatewayPolicyFacts (tables : AccessTables) : Except ModelError GatewayPolicyFacts :=
  match getGatewayPolicy tables with
  | none => .ok ⟨[], [], []⟩
  | some policy =>
    if policy.enabled = false then .ok ⟨[], [], []⟩
    else do
      let allowedRiskLevels ← policy.allowedRiskLevels.mapM riskLevelOfValue
      return ⟨policy.permissionScope, policy.allowedSkills, allowedRiskLevels⟩

/-! ## What allowed facts rest on -/

section

variable {tables : AccessTables} {now : Timestamp}

/-- A lookup finds the identity of its id. -/
lemma getIdentity_id {id : String} {identity : EnterpriseIdentity}
    (h : getIdentity id tables = some identity) : identity.id = id := by
  simpa using List.find?_some h

/-- Only an active identity with an active policy is allowed anything. -/
lemma resolveIdentityFacts_allowed {enterpriseIdentityId : Option String}
    (h : (resolveIdentityFacts enterpriseIdentityId now tables).userAllowed = true) :
    ∃ id policy, enterpriseIdentityId = some id ∧ getUserPolicy id tables = some policy ∧
      policy.IsActive now ∧ resolveIdentityFacts enterpriseIdentityId now tables =
        ⟨true, some id, .active, true, policy.permissionScope, policy.allowedSkills⟩ := by
  unfold resolveIdentityFacts at h ⊢
  cases enterpriseIdentityId with
  | none => cases h
  | some id =>
    dsimp only at h ⊢
    cases hidentity : getIdentity id tables with
    | none =>
      rw [hidentity] at h
      cases h
    | some identity =>
      simp only [hidentity] at h ⊢
      by_cases hstatus : identity.status ≠ .active
      · rw [if_pos hstatus] at h
        cases h
      · rw [if_neg hstatus] at h ⊢
        cases hpolicy : getUserPolicy id tables with
        | none =>
          rw [hpolicy] at h
          cases h
        | some policy =>
          simp only [hpolicy] at h ⊢
          by_cases hactive : policy.IsActive now
          · rw [if_pos hactive]
            exact ⟨id, policy, rfl, hpolicy, hactive, rfl⟩
          · rw [if_neg hactive] at h
            cases h

/-- A sender is resolved by the only mapping there is, if it is enabled and its identity active. -/
lemma resolveMapped_resolved {key : SourceIdentityKey}
    (h : (resolveMapped key tables).status = .resolved) :
    ∃ mapping identity, listMappings key.platform key.accountId key.senderId tables = [mapping] ∧
      mapping.enabled = true ∧ getIdentity mapping.enterpriseIdentityId tables = some identity ∧
      identity.status = .active ∧ (resolveMapped key tables).enterpriseIdentityId =
        some identity.id := by
  unfold resolveMapped at h ⊢
  split at h
  · cases h
  · rename_i mapping hmapping
    split at h
    · cases h
    · rename_i identity hidentity
      by_cases hdisabled : mapping.enabled = false ∨ identity.status ≠ .active
      · rw [if_pos hdisabled] at h
        cases h
      · push Not at hdisabled
        refine ⟨mapping, identity, hmapping, by simpa using hdisabled.1, hidentity, hdisabled.2, ?_⟩
        simp [hdisabled]
  · cases h

/-- The rows that an allowed sender has. -/
lemma resolveSourceIdentityFacts_allowed {source sourceAccountId senderId : String}
    {facts : IdentityFacts}
    (h : resolveSourceIdentityFacts source sourceAccountId senderId now tables = .ok facts)
    (hallowed : facts.userAllowed = true) :
    ∃ mapping identity policy,
      listMappings (trim source) (trim sourceAccountId) (trim senderId) tables = [mapping] ∧
      mapping.enabled = true ∧ getIdentity mapping.enterpriseIdentityId tables = some identity ∧
      identity.status = .active ∧ getUserPolicy identity.id tables = some policy ∧
      policy.IsActive now ∧
      facts = ⟨true, some identity.id, .active, true, policy.permissionScope,
        policy.allowedSkills⟩ := by
  obtain ⟨resolution, hresolution, hfacts⟩ := bind_eq_ok.mp h
  obtain ⟨key, hkey, hresolved⟩ := bind_eq_ok.mp hresolution
  obtain ⟨platform, hplatform, hkey⟩ := bind_eq_ok.mp hkey
  obtain ⟨account, haccount, hkey⟩ := bind_eq_ok.mp hkey
  obtain ⟨sender, hsender, hkey⟩ := bind_eq_ok.mp hkey
  cases hkey
  cases hresolved
  cases hfacts
  obtain ⟨-, -, rfl⟩ := constrStr_eq_ok.mp hplatform
  obtain ⟨-, -, rfl⟩ := constrStr_eq_ok.mp haccount
  obtain ⟨-, -, rfl⟩ := constrStr_eq_ok.mp hsender
  unfold resolveIdentityResolutionFacts at hallowed ⊢
  split at hallowed
  · rename_i hstatus
    obtain ⟨mapping, identity, hmapping, henabled, hidentity, hactive, hid⟩ :=
      resolveMapped_resolved hstatus
    obtain ⟨id, policy, hsome, hpolicy, hvalid, hfacts⟩ := resolveIdentityFacts_allowed hallowed
    obtain rfl : identity.id = id := Option.some.inj (hid.symm.trans hsome)
    exact ⟨mapping, identity, policy, hmapping, henabled, hidentity, hactive, hpolicy, hvalid,
      hfacts⟩
  · cases hallowed
  · cases hallowed

/-- The row that an allowed risk level is in. -/
lemma resolveGatewayPolicyFacts_allowed {facts : GatewayPolicyFacts} {level : RiskLevel}
    (h : resolveGatewayPolicyFacts tables = .ok facts) (hlevel : level ∈ facts.allowedRiskLevels) :
    ∃ policy, getGatewayPolicy tables = some policy ∧ policy.enabled = true ∧
      (∃ value ∈ policy.allowedRiskLevels, riskLevelOfValue value = .ok level) ∧
      policy.allowedRiskLevels.mapM riskLevelOfValue = .ok facts.allowedRiskLevels ∧
      facts.systemPermissionScope = policy.permissionScope ∧
      facts.systemAllowedSkills = policy.allowedSkills := by
  unfold resolveGatewayPolicyFacts at h
  split at h
  · cases h
    cases hlevel
  · rename_i policy hpolicy
    by_cases henabled : policy.enabled = false
    · rw [if_pos henabled] at h
      cases h
      cases hlevel
    · rw [if_neg henabled] at h
      obtain ⟨levels, hlevels, h⟩ := bind_eq_ok.mp h
      cases h
      refine ⟨policy, hpolicy, by simpa using henabled, ?_, hlevels, rfl, rfl⟩
      obtain ⟨value, hvalue, hok⟩ := exists_mem_of_forall₂ (mapM_eq_ok.mp hlevels) hlevel
      exact ⟨value, hvalue, hok⟩

end

end AgentGateway.Access
