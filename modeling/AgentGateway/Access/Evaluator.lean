import AgentGateway.Admission.Store

/-!
# Evaluating access

`evaluate_access` decides about a request from four records of facts. Frozen sets are lists here, in
the order they are stored in; only membership is ever asked.
-/

namespace AgentGateway.Access

open AgentGateway.Lib
open AgentGateway.Admission (RiskLevel ReasonCode AuthorizationDecision RequestFacts)

/-- `IdentityStatus`. -/
inductive IdentityStatus
  | active
  | disabled
  | archived
  | unresolved
  deriving DecidableEq, Repr

/-- `IdentityFacts`. -/
structure IdentityFacts where
  identityResolved : Bool
  enterpriseIdentityId : Option String
  identityStatus : IdentityStatus
  userAllowed : Bool
  userPermissionScope : List String
  userAllowedSkills : List String
  deriving DecidableEq, Repr

/-- `ConversationFacts`. The type may be any text. -/
structure ConversationFacts where
  conversationType : String
  isMentioned : Option Bool
  deriving DecidableEq, Repr

/-- `GatewayPolicyFacts`. -/
structure GatewayPolicyFacts where
  systemPermissionScope : List String
  systemAllowedSkills : List String
  allowedRiskLevels : List RiskLevel
  deriving DecidableEq, Repr

/-- `a & b` of two frozen sets. -/
def inter (a b : List String) : List String := a.filter (· ∈ b)

variable {a b : List String} {s : String}

@[simp] lemma mem_inter : s ∈ inter a b ↔ s ∈ a ∧ s ∈ b := by
  simp [inter]

/-- What is left of a set when the request names one, and it as it is otherwise. -/
def narrowed (granted requested : List String) : List String :=
  if requested ≠ [] then inter granted requested else granted

/-- `_denied`. -/
def denied (reasonCode : ReasonCode) (identity : IdentityFacts) (conversation : ConversationFacts)
    (request : RequestFacts) : AuthorizationDecision where
  allowed := false
  reasonCode := reasonCode
  enterpriseIdentityId := identity.enterpriseIdentityId
  userAllowed := identity.userAllowed
  isMentioned := conversation.isMentioned
  permissionScope := []
  allowedSkills := []
  riskLevel := request.riskLevel

/-- The reason to deny, in the order of the checks. -/
def denialReason (identity : IdentityFacts) (conversation : ConversationFacts)
    (request : RequestFacts) (policy : GatewayPolicyFacts) : Option ReasonCode :=
  if conversation.conversationType ≠ "private" ∧ conversation.conversationType ≠ "group" then
    some .invalidConversationType
  else if conversation.conversationType ≠ "group" ∧ conversation.isMentioned ≠ none then
    some .invalidConversationFacts
  else if identity.identityResolved = false ∨ identity.enterpriseIdentityId.getD "" = "" ∨
      identity.identityStatus = .unresolved then
    some .identityUnresolved
  else if identity.identityStatus = .disabled ∨ identity.identityStatus = .archived then
    some .identityDisabled
  else if identity.userAllowed = false then some .userNotAllowed
  else if conversation.conversationType = "group" ∧ conversation.isMentioned ≠ some true then
    some .botNotMentioned
  else if request.riskLevel ∉ policy.allowedRiskLevels then some .riskNotAllowed
  else if request.requestedScope ≠ [] ∧
      narrowed (inter identity.userPermissionScope policy.systemPermissionScope)
        request.requestedScope = [] then
    some .permissionScopeEmpty
  else if request.requestedSkillIds ≠ [] ∧
      narrowed (inter identity.userAllowedSkills policy.systemAllowedSkills)
        request.requestedSkillIds = [] then
    some .skillNotAllowed
  else none

/-- `evaluate_access`. -/
def evaluateAccess (identity : IdentityFacts) (conversation : ConversationFacts)
    (request : RequestFacts) (policy : GatewayPolicyFacts) : AuthorizationDecision :=
  match denialReason identity conversation request policy with
  | some reasonCode => denied reasonCode identity conversation request
  | none =>
    { allowed := true
      reasonCode := .allowed
      enterpriseIdentityId := identity.enterpriseIdentityId
      userAllowed := identity.userAllowed
      isMentioned := conversation.isMentioned
      permissionScope := narrowed (inter identity.userPermissionScope policy.systemPermissionScope)
        request.requestedScope
      allowedSkills := narrowed (inter identity.userAllowedSkills policy.systemAllowedSkills)
        request.requestedSkillIds
      riskLevel := request.riskLevel }

/-! ## What is allowed -/

/-- A set that the request narrows keeps something of what the request names. -/
def Satisfies (granted requested : List String) : Prop :=
  requested = [] ∨ ∃ s ∈ granted, s ∈ requested

variable {granted requested granted' : List String}

/-- What is requested is granted in part, or nothing was requested. -/
lemma not_denied_iff_satisfies :
    ¬ (requested ≠ [] ∧ narrowed granted requested = []) ↔ Satisfies granted requested := by
  by_cases h : requested = []
  · simp [Satisfies, h]
  · simp [Satisfies, narrowed, h, inter, List.filter_eq_nil_iff]

/-- A request narrows the grant. -/
lemma mem_narrowed :
    s ∈ narrowed granted requested ↔ s ∈ granted ∧ (requested ≠ [] → s ∈ requested) := by
  unfold narrowed
  by_cases h : requested = []
  · simp [h]
  · simp [h]

/-- Everything `evaluate_access` has checked when it allows a request. -/
structure Allows (identity : IdentityFacts) (conversation : ConversationFacts)
    (request : RequestFacts) (policy : GatewayPolicyFacts) : Prop where
  conversationType : conversation.conversationType = "private" ∧ conversation.isMentioned = none ∨
    conversation.conversationType = "group" ∧ conversation.isMentioned = some true
  resolved : identity.identityResolved = true
  identityId : identity.enterpriseIdentityId.getD "" ≠ ""
  active : identity.identityStatus = .active
  userAllowed : identity.userAllowed = true
  risk : request.riskLevel ∈ policy.allowedRiskLevels
  scope : Satisfies (inter identity.userPermissionScope policy.systemPermissionScope)
    request.requestedScope
  skills : Satisfies (inter identity.userAllowedSkills policy.systemAllowedSkills)
    request.requestedSkillIds

section

variable {identity : IdentityFacts} {conversation : ConversationFacts} {request : RequestFacts}
  {policy : GatewayPolicyFacts}

lemma ite_some_eq_none {α : Type} {condition : Prop} [Decidable condition] {a : α}
    {rest : Option α} :
    (if condition then some a else rest) = none ↔ ¬ condition ∧ rest = none := by
  by_cases h : condition <;> simp [h]

/-- No check denies if and only if all of them are passed. -/
lemma denialReason_eq_none :
    denialReason identity conversation request policy = none ↔
      Allows identity conversation request policy := by
  simp only [denialReason, ite_some_eq_none, not_denied_iff_satisfies, not_not]
  constructor
  · rintro ⟨htype, hfacts, hresolved, hstatus, huser, hmention, hrisk, hscope, hskills, -⟩
    push Not at htype hfacts hresolved hstatus hmention
    refine ⟨?_, by simpa using hresolved.1, hresolved.2.1, ?_, by simpa using huser, hrisk, hscope,
      hskills⟩
    · by_cases hgroup : conversation.conversationType = "group"
      · exact Or.inr ⟨hgroup, hmention hgroup⟩
      · refine Or.inl ⟨?_, hfacts hgroup⟩
        by_contra hprivate
        exact hgroup (htype hprivate)
    · cases hcase : identity.identityStatus with
      | active => rfl
      | disabled => exact absurd hcase hstatus.1
      | archived => exact absurd hcase hstatus.2
      | unresolved => exact absurd hcase hresolved.2.2
  · rintro ⟨htype, hresolved, hid, hactive, huser, hrisk, hscope, hskills⟩
    rw [hactive, hresolved, huser]
    rcases htype with ⟨htype, hmention⟩ | ⟨htype, hmention⟩
    · simp [htype, hmention, hid, hrisk, hscope, hskills]
    · simp [htype, hmention, hid, hrisk, hscope, hskills]

/-- The evaluator allows exactly what passes all its checks. -/
lemma evaluateAccess_allowed :
    (evaluateAccess identity conversation request policy).allowed = true ↔
      Allows identity conversation request policy := by
  rw [← denialReason_eq_none, evaluateAccess]
  cases denialReason identity conversation request policy with
  | none => simp
  | some reasonCode => simp [denied]

/-- What an allowed request is granted. -/
lemma evaluateAccess_granted (h : Allows identity conversation request policy) :
    (evaluateAccess identity conversation request policy).permissionScope =
        narrowed (inter identity.userPermissionScope policy.systemPermissionScope)
          request.requestedScope ∧
      (evaluateAccess identity conversation request policy).allowedSkills =
        narrowed (inter identity.userAllowedSkills policy.systemAllowedSkills)
          request.requestedSkillIds ∧
      (evaluateAccess identity conversation request policy).enterpriseIdentityId =
        identity.enterpriseIdentityId := by
  rw [evaluateAccess, denialReason_eq_none.mpr h]
  exact ⟨rfl, rfl, rfl⟩

end

/-! ## More permissive facts -/

/-- The same identity, with at least the permissions. -/
def IdentityFacts.Extends (wide narrow : IdentityFacts) : Prop :=
  wide.identityResolved = narrow.identityResolved ∧
    wide.enterpriseIdentityId = narrow.enterpriseIdentityId ∧
    wide.identityStatus = narrow.identityStatus ∧
    (narrow.userAllowed = true → wide.userAllowed = true) ∧
    narrow.userPermissionScope ⊆ wide.userPermissionScope ∧
    narrow.userAllowedSkills ⊆ wide.userAllowedSkills

/-- At least the permissions and the risk levels. -/
def GatewayPolicyFacts.Extends (wide narrow : GatewayPolicyFacts) : Prop :=
  narrow.systemPermissionScope ⊆ wide.systemPermissionScope ∧
    narrow.systemAllowedSkills ⊆ wide.systemAllowedSkills ∧
    narrow.allowedRiskLevels ⊆ wide.allowedRiskLevels

lemma inter_mono {a' b' : List String} (ha : a ⊆ a') (hb : b ⊆ b') : inter a b ⊆ inter a' b' := by
  intro s hs
  rw [mem_inter] at hs ⊢
  exact ⟨ha hs.1, hb hs.2⟩

lemma Satisfies.mono (h : Satisfies granted requested) (hsub : granted ⊆ granted') :
    Satisfies granted' requested := by
  rcases h with h | ⟨s, hs, hrequested⟩
  · exact Or.inl h
  · exact Or.inr ⟨s, hsub hs, hrequested⟩

lemma narrowed_mono (hsub : granted ⊆ granted') :
    narrowed granted requested ⊆ narrowed granted' requested := by
  intro s hs
  rw [mem_narrowed] at hs ⊢
  exact ⟨hsub hs.1, hs.2⟩

section

variable {narrow wide : IdentityFacts} {conversation : ConversationFacts} {request : RequestFacts}
  {policy policy' : GatewayPolicyFacts}

/-- Wider facts allow what narrower ones do. -/
lemma Allows.mono (h : Allows narrow conversation request policy) (hidentity : wide.Extends narrow)
    (hpolicy : policy'.Extends policy) : Allows wide conversation request policy' := by
  obtain ⟨hresolved, hid, hstatus, huser, hscope, hskills⟩ := hidentity
  obtain ⟨hscope', hskills', hrisk'⟩ := hpolicy
  refine ⟨h.conversationType, ?_, ?_, ?_, huser h.userAllowed, hrisk' h.risk, ?_, ?_⟩
  · rw [hresolved]
    exact h.resolved
  · rw [hid]
    exact h.identityId
  · rw [hstatus]
    exact h.active
  · exact h.scope.mono (inter_mono hscope hscope')
  · exact h.skills.mono (inter_mono hskills hskills')

/-- More permissive facts allow what was allowed, and grant what was granted. -/
lemma evaluateAccess_mono (hallowed : (evaluateAccess narrow conversation request policy).allowed = true)
    (hidentity : wide.Extends narrow) (hpolicy : policy'.Extends policy) :
    (evaluateAccess wide conversation request policy').allowed = true ∧
      (evaluateAccess narrow conversation request policy).permissionScope ⊆
        (evaluateAccess wide conversation request policy').permissionScope ∧
      (evaluateAccess narrow conversation request policy).allowedSkills ⊆
        (evaluateAccess wide conversation request policy').allowedSkills := by
  have h := evaluateAccess_allowed.mp hallowed
  have h' := h.mono hidentity hpolicy
  obtain ⟨-, -, -, -, hscope, hskills⟩ := hidentity
  obtain ⟨hscope', hskills', -⟩ := hpolicy
  obtain ⟨hnarrowScope, hnarrowSkills, -⟩ := evaluateAccess_granted h
  obtain ⟨hwideScope, hwideSkills, -⟩ := evaluateAccess_granted h'
  refine ⟨evaluateAccess_allowed.mpr h', ?_, ?_⟩
  · rw [hnarrowScope, hwideScope]
    exact narrowed_mono (inter_mono hscope hscope')
  · rw [hnarrowSkills, hwideSkills]
    exact narrowed_mono (inter_mono hskills hskills')

end

end AgentGateway.Access
