import AgentGateway.Admission.Orchestrator

/-!
# Nobody is admitted without authority

What has to be in the tables when a message is admitted, and that wider policies never take
anything away.
-/

namespace AgentGateway.Admission

open Lib Lib.Program Access Workspace
open AgentGateway.Routing (ResolvedRoute resolveRoute)
open AgentGateway.Dispatch (AIThread EmployeeWorkspace)

/-! ## Admitted runs -/

section

variable {setup : Setup} {candidate : AdmissionCandidate} {evaluation : Evaluation}
  {outcome : AdmissionOutcome} {events : List AdmitEvent} {id : String}

/-- An admitted message without routing. -/
lemma admitV1_ok (h : Returns (admitV1 setup candidate evaluation id) events (.ok outcome)) :
    ∃ first workspace second thread, events = first ++ second ∧
      Returns (ensureWorkspaceForAuthorizedIdentity id) first (.ok workspace) ∧
      Returns (ensureThreadForAuthorizedRequest setup.codec id candidate.source
        candidate.sourceAccountId candidate.conversationId (threadTypeOf candidate.conversationType)
        (candidate.senderId.getD "")) second (.ok thread) ∧
      outcome = admission setup candidate evaluation id workspace thread (.empty "v1") := by
  rw [admitV1, returns_bindOk_ok] at h
  obtain ⟨first, workspace, rest, rfl, hworkspace, h⟩ := h
  obtain ⟨second, thread, last, rfl, hthread, h⟩ := returns_bindOk_ok.mp h
  obtain ⟨rfl, rfl⟩ := returns_give.mp h
  exact ⟨first, workspace, second, thread, by simp, hworkspace, hthread, rfl⟩

/-- With routing, a message is admitted to the thread of its route or has none. -/
lemma admitV2_ok (h : Returns (admitV2 setup candidate evaluation id) events (.ok outcome)) :
    ∃ tables rest, events = ⟨.readRouting, tables⟩ :: rest ∧
      ((∃ error, resolveRoute candidate.source candidate.sourceAccountId candidate.conversationId
          (threadTypeOf candidate.conversationType) id tables = .error error ∧
          Unavailable error ∧ outcome = routeUnavailable setup candidate evaluation id error) ∨
        ∃ route thread bound workspace first second third,
          resolveRoute candidate.source candidate.sourceAccountId candidate.conversationId
            (threadTypeOf candidate.conversationType) id tables = .ok route ∧
          rest = first ++ (second ++ third) ∧
          Returns (resolveThread setup.codec route id) first (.ok thread) ∧
          Returns (bindV2RouteSnapshot thread route.agentProfileId route.threadPolicy) second
            (.ok bound) ∧
          Returns (ensureWorkspaceForAuthorizedIdentity id) third (.ok workspace) ∧
          outcome = admission setup candidate evaluation id workspace bound
            (routingReferences route)) := by
  rw [admitV2, returns_bindOk_ok] at h
  obtain ⟨first, tables, rest, rfl, hread, h⟩ := h
  rw [returns_ask] at hread
  subst hread
  refine ⟨tables, rest, rfl, ?_⟩
  split at h
  · rename_i error herror
    split at h
    · rename_i hunavailable
      exact Or.inl ⟨error, herror, hunavailable, (returns_give.mp h).2.symm⟩
    · exact absurd h returns_raise
  · rename_i route hroute
    obtain ⟨first, thread, rest, rfl, hthread, h⟩ := returns_bindOk_ok.mp h
    obtain ⟨second, bound, rest, rfl, hbound, h⟩ := returns_bindOk_ok.mp h
    obtain ⟨third, workspace, rest, rfl, hworkspace, h⟩ := returns_bindOk_ok.mp h
    obtain ⟨rfl, rfl⟩ := returns_give.mp h
    exact Or.inr ⟨route, thread, bound, workspace, first, second, third, hroute, by simp, hthread,
      hbound, hworkspace, rfl⟩

/-- The ways in which `admit` returns. -/
inductive Admitted (setup : Setup) (candidate : AdmissionCandidate) :
    List AdmitEvent → AdmissionOutcome → Prop
  | preprocessed {reason} (h : preprocessingReason candidate = some reason) :
      Admitted setup candidate [] (preprocessingDenial candidate reason)
  | denied {tables now evaluation} (hreason : preprocessingReason candidate = none)
      (hevaluate : evaluate candidate tables now = .ok evaluation)
      (hallowed : evaluation.authorization.allowed = false) :
      Admitted setup candidate [⟨.readAccess, (tables, now)⟩]
        (accessDenial setup candidate evaluation)
  | allowed {tables now evaluation id rest outcome} (hreason : preprocessingReason candidate = none)
      (hevaluate : evaluate candidate tables now = .ok evaluation)
      (hallowed : evaluation.authorization.allowed = true)
      (hid : evaluation.authorization.enterpriseIdentityId = some id)
      (h : Returns (if setup.v2RoutingEnabled = true then admitV2 setup candidate evaluation id
        else admitV1 setup candidate evaluation id) rest (.ok outcome)) :
      Admitted setup candidate (⟨.readAccess, (tables, now)⟩ :: rest) outcome

lemma admit_ok (h : Returns (admitCandidate setup candidate) events (.ok outcome)) :
    Admitted setup candidate events outcome := by
  unfold admitCandidate at h
  cases hreason : preprocessingReason candidate with
  | some reason =>
    rw [hreason] at h
    obtain ⟨rfl, rfl⟩ := returns_give.mp h
    exact .preprocessed hreason
  | none =>
    rw [hreason] at h
    obtain ⟨first, ⟨tables, now⟩, rest, rfl, hread, hrest⟩ := returns_bindOk_ok.mp h
    obtain ⟨second, evaluation, rest, rfl, hevaluate, hsettle⟩ := returns_bindOk_ok.mp hrest
    rw [returns_ask] at hread
    rw [returns_check] at hevaluate
    obtain ⟨rfl, hevaluate⟩ := hevaluate
    subst hread
    unfold settle at hsettle
    by_cases hallowed : evaluation.authorization.allowed = false
    · rw [if_pos hallowed] at hsettle
      obtain ⟨rfl, rfl⟩ := returns_give.mp hsettle
      exact .denied hreason hevaluate hallowed
    · rw [if_neg hallowed] at hsettle
      cases hid : evaluation.authorization.enterpriseIdentityId with
      | none =>
        rw [hid] at hsettle
        exact absurd hsettle returns_raise
      | some id =>
        rw [hid] at hsettle
        exact .allowed hreason hevaluate (by simpa using hallowed) hid hsettle

/-- The decision an admitted message carries allows it. -/
lemma admit_admitted (h : Returns (admitCandidate setup candidate) events (.ok outcome))
    (hadmitted : outcome.admitted = true) :
    preprocessingReason candidate = none ∧ ∃ tables now evaluation,
      ⟨.readAccess, (tables, now)⟩ ∈ events ∧
      evaluate candidate tables now = .ok evaluation ∧
      evaluation.authorization.allowed = true ∧
      outcome.authorization = some evaluation.authorization := by
  cases admit_ok h with
  | preprocessed hreason => cases hadmitted
  | denied hreason hevaluate hallowed => cases hadmitted
  | @allowed tables now evaluation id rest _ hreason hevaluate hallowed hid hrest =>
    refine ⟨hreason, tables, now, evaluation, List.mem_cons_self, hevaluate, hallowed, ?_⟩
    split at hrest
    · obtain ⟨routing, rest, rfl, hcase⟩ := admitV2_ok hrest
      rcases hcase with ⟨error, -, -, rfl⟩ | ⟨route, thread, bound, workspace, first, second, third,
        -, -, -, -, -, rfl⟩
      · cases hadmitted
      · rfl
    · obtain ⟨first, workspace, second, thread, -, -, -, rfl⟩ := admitV1_ok hrest
      rfl

end

/-! ## Authority -/

/-- The authority behind a decision to admit: who the sender is, what they and the gateway may do,
and that nothing beyond it is granted. -/
structure Authorized (candidate : AdmissionCandidate) (tables : AccessTables) (now : Timestamp)
    (authorization : AuthorizationDecision) (mapping : SourceIdentityMapping)
    (identity : EnterpriseIdentity) (user : UserAccessPolicy) (gateway : GatewayAccessPolicy) :
    Prop where
  notSelf : candidate.isSelf = false
  notSystem : candidate.senderType ≠ .system ∧ candidate.messageType ≠ systemMessageType
  mapped : listMappings (trim candidate.source) (trim candidate.sourceAccountId)
    (trim (candidate.senderId.getD "")) tables = [mapping]
  enabled : mapping.enabled = true
  identified : getIdentity mapping.enterpriseIdentityId tables = some identity
  active : identity.status = .active
  userPolicy : getUserPolicy identity.id tables = some user
  valid : user.IsActive now
  gatewayPolicy : getGatewayPolicy tables = some gateway
  gatewayEnabled : gateway.enabled = true
  risk : ∃ value ∈ gateway.allowedRiskLevels, riskLevelOfValue value = .ok candidate.riskLevel
  mentioned : candidate.conversationType = .group → candidate.isMentioned = some true
  scope : ∀ s ∈ authorization.permissionScope, s ∈ user.permissionScope ∧
    s ∈ gateway.permissionScope ∧ (candidate.requestedScope ≠ [] → s ∈ candidate.requestedScope)
  skills : ∀ s ∈ authorization.allowedSkills, s ∈ user.allowedSkills ∧
    s ∈ gateway.allowedSkills ∧
    (candidate.requestedSkillIds ≠ [] → s ∈ candidate.requestedSkillIds)

variable {candidate : AdmissionCandidate} {now : Timestamp} {evaluation : Evaluation}
  {tables : AccessTables}

lemma preprocessingReason_eq_none (h : preprocessingReason candidate = none) :
    candidate.isSelf = false ∧ candidate.senderType ≠ .system ∧
      candidate.messageType ≠ systemMessageType := by
  simp only [preprocessingReason, ite_some_eq_none, not_or] at h
  exact ⟨by simpa using h.1, h.2.1⟩

/-- The parts of an evaluation. -/
lemma evaluate_eq_ok :
    evaluate candidate tables now = .ok evaluation ↔ ∃ identity gateway,
      resolveSourceIdentityFacts candidate.source candidate.sourceAccountId
        (candidate.senderId.getD "") now tables = .ok identity ∧
      resolveGatewayPolicyFacts tables = .ok gateway ∧
      evaluation = {
        authorization := evaluateAccess identity
          (resolveConversationFacts candidate.conversationType candidate.isMentioned)
          candidate.request gateway
        snapshot := {
          evaluatedIdentity := identity
          evaluatedGateway := gateway
          gateway := getGatewayPolicy tables
          user := identity.enterpriseIdentityId.bind fun id => getUserPolicy id tables
          routeUnavailable := none } } := by
  simp only [evaluate, bind_eq_ok]
  constructor
  · rintro ⟨identity, hidentity, gateway, hgateway, h⟩
    exact ⟨identity, gateway, hidentity, hgateway, (Except.ok.inj h).symm⟩
  · rintro ⟨identity, gateway, hidentity, hgateway, rfl⟩
    exact ⟨identity, hidentity, gateway, hgateway, rfl⟩

/-- An evaluation that allows a candidate has found its authority in the tables. -/
lemma evaluate_authorized (hreason : preprocessingReason candidate = none)
    (h : evaluate candidate tables now = .ok evaluation)
    (hallowed : evaluation.authorization.allowed = true) :
    ∃ mapping identity user gateway, Authorized candidate tables now evaluation.authorization
      mapping identity user gateway := by
  obtain ⟨facts, policy, hfacts, hpolicy, rfl⟩ := evaluate_eq_ok.mp h
  have hallows := evaluateAccess_allowed.mp hallowed
  obtain ⟨hscope, hskills, -⟩ := evaluateAccess_granted hallows
  obtain ⟨hself, hsystem⟩ := preprocessingReason_eq_none hreason
  obtain ⟨mapping, identity, user, hmapped, henabled, hidentity, hactive, huser, hvalid, rfl⟩ :=
    resolveSourceIdentityFacts_allowed hfacts hallows.userAllowed
  obtain ⟨gateway, hgateway, hgatewayEnabled, hrisk, -, hsystemScope, hsystemSkills⟩ :=
    resolveGatewayPolicyFacts_allowed hpolicy hallows.risk
  refine ⟨mapping, identity, user, gateway, hself, hsystem, hmapped, henabled, hidentity, hactive,
    huser, hvalid, hgateway, hgatewayEnabled, hrisk, ?_, ?_, ?_⟩
  · intro hgroup
    rcases hallows.conversationType with ⟨htype, -⟩ | ⟨-, hmentioned⟩
    · rw [hgroup] at htype
      exact absurd htype (show "group" ≠ "private" by decide)
    · rw [hgroup] at hmentioned
      exact hmentioned
  · intro s hs
    simp only [hscope, mem_narrowed, mem_inter, hsystemScope] at hs
    exact ⟨hs.1.1, hs.1.2, hs.2⟩
  · intro s hs
    simp only [hskills, mem_narrowed, mem_inter, hsystemSkills] at hs
    exact ⟨hs.1.1, hs.1.2, hs.2⟩

/-! ## Wider policies -/

/-- At least the scope and the skills, for at least the time. -/
structure WidensUser (wide narrow : UserAccessPolicy) : Prop where
  identity : wide.enterpriseIdentityId = narrow.enterpriseIdentityId
  enabled : wide.enabled = narrow.enabled
  scope : narrow.permissionScope ⊆ wide.permissionScope
  skills : narrow.allowedSkills ⊆ wide.allowedSkills
  validFrom : ∀ t ∈ wide.validFrom, ∃ t' ∈ narrow.validFrom, t ≤ t'
  validUntil : ∀ t ∈ wide.validUntil, ∃ t' ∈ narrow.validUntil, t' ≤ t

/-- At least the scope, the skills and the risk levels. What is added is a risk level. -/
structure WidensGateway (wide narrow : GatewayAccessPolicy) : Prop where
  key : wide.policyKey = narrow.policyKey
  enabled : wide.enabled = narrow.enabled
  scope : narrow.permissionScope ⊆ wide.permissionScope
  skills : narrow.allowedSkills ⊆ wide.allowedSkills
  levels : narrow.allowedRiskLevels ⊆ wide.allowedRiskLevels
  added : ∀ value ∈ wide.allowedRiskLevels, value ∈ narrow.allowedRiskLevels ∨
    ∃ level, riskLevelOfValue value = .ok level

/-- The same identities and mappings, under wider policies. -/
structure Widens (wide narrow : AccessTables) : Prop where
  identities : wide.identities = narrow.identities
  mappings : wide.mappings = narrow.mappings
  users : List.Forall₂ WidensUser wide.userPolicies narrow.userPolicies
  gateways : List.Forall₂ WidensGateway wide.gatewayPolicies narrow.gatewayPolicies

lemma WidensUser.isActive {wide narrow : UserAccessPolicy} (h : WidensUser wide narrow)
    (hactive : narrow.IsActive now) : wide.IsActive now := by
  obtain ⟨henabled, hfrom, huntil⟩ := hactive
  refine ⟨h.enabled.trans henabled, ?_, ?_⟩
  · intro t ht
    obtain ⟨t', ht', hle⟩ := h.validFrom t ht
    exact hle.trans (hfrom t' ht')
  · intro t ht
    obtain ⟨t', ht', hle⟩ := h.validUntil t ht
    exact (huntil t' ht').trans hle

section

variable {wide narrow : AccessTables} {now : Timestamp}

lemma Widens.getIdentity (h : Widens wide narrow) (id : String) :
    getIdentity id wide = getIdentity id narrow := by
  rw [Access.getIdentity, Access.getIdentity, h.identities]

lemma Widens.resolveMapped (h : Widens wide narrow) (key : SourceIdentityKey) :
    resolveMapped key wide = resolveMapped key narrow := by
  simp only [Access.resolveMapped, listMappings, h.mappings, h.getIdentity]

lemma Widens.getUserPolicy (h : Widens wide narrow) (id : String) :
    Option.Rel WidensUser (getUserPolicy id wide) (getUserPolicy id narrow) := by
  refine find?_forall₂ h.users fun a b hab => ?_
  rw [hab.identity]

lemma Widens.getGatewayPolicy (h : Widens wide narrow) :
    Option.Rel WidensGateway (getGatewayPolicy wide) (getGatewayPolicy narrow) := by
  refine find?_forall₂ h.gateways fun a b hab => ?_
  rw [hab.key]

lemma extends_refl (facts : IdentityFacts) : facts.Extends facts :=
  ⟨rfl, rfl, rfl, fun h => h, List.Subset.refl _, List.Subset.refl _⟩

/-- Wider policies give the same sender at least the permissions. -/
lemma Widens.identityFacts (h : Widens wide narrow) (id : Option String) :
    (resolveIdentityFacts id now wide).Extends (resolveIdentityFacts id now narrow) := by
  cases id with
  | none => exact extends_refl _
  | some id =>
    have hpolicy := h.getUserPolicy id
    simp only [resolveIdentityFacts, h.getIdentity]
    generalize Access.getUserPolicy id wide = policy at hpolicy
    generalize Access.getUserPolicy id narrow = policy' at hpolicy
    cases Access.getIdentity id narrow with
    | none => exact extends_refl _
    | some identity =>
      dsimp only
      by_cases hstatus : identity.status ≠ .active
      · rw [if_pos hstatus, if_pos hstatus]
        exact extends_refl _
      · rw [if_neg hstatus, if_neg hstatus]
        cases hpolicy with
        | none => exact extends_refl _
        | @some policy policy' hwidens =>
          dsimp only
          by_cases hactive : policy'.IsActive now
          · rw [if_pos hactive, if_pos (hwidens.isActive hactive)]
            exact ⟨rfl, rfl, rfl, fun h => h, hwidens.scope, hwidens.skills⟩
          · rw [if_neg hactive]
            by_cases hwide : policy.IsActive now
            · rw [if_pos hwide]
              exact ⟨rfl, rfl, rfl, fun _ => rfl, List.nil_subset _, List.nil_subset _⟩
            · rw [if_neg hwide]
              exact extends_refl _

lemma Widens.sourceIdentityFacts (h : Widens wide narrow) {source account sender : String}
    {facts : IdentityFacts}
    (hfacts : resolveSourceIdentityFacts source account sender now narrow = .ok facts) :
    ∃ facts', resolveSourceIdentityFacts source account sender now wide = .ok facts' ∧
      facts'.Extends facts := by
  obtain ⟨resolution, hresolution, hfacts⟩ := bind_eq_ok.mp hfacts
  obtain ⟨key, hkey, hresolved⟩ := bind_eq_ok.mp hresolution
  cases hresolved
  cases hfacts
  refine ⟨resolveIdentityResolutionFacts (Access.resolveMapped key wide) now wide, ?_, ?_⟩
  · simp only [resolveSourceIdentityFacts, resolveIdentity, hkey]
    rfl
  · rw [h.resolveMapped]
    simp only [resolveIdentityResolutionFacts, h.getIdentity]
    split
    · exact h.identityFacts _
    · exact extends_refl _
    · exact extends_refl _

/-- Wider policies of the gateway are read, and give at least the permissions. -/
lemma Widens.gatewayFacts (h : Widens wide narrow) {facts : GatewayPolicyFacts}
    (hfacts : resolveGatewayPolicyFacts narrow = .ok facts) :
    ∃ facts', resolveGatewayPolicyFacts wide = .ok facts' ∧ facts'.Extends facts := by
  have hpolicy := h.getGatewayPolicy
  unfold resolveGatewayPolicyFacts at hfacts ⊢
  generalize Access.getGatewayPolicy wide = policy at hpolicy ⊢
  generalize Access.getGatewayPolicy narrow = policy' at hpolicy hfacts
  have hrefl : ∀ facts : GatewayPolicyFacts, facts.Extends facts :=
    fun _ => ⟨List.Subset.refl _, List.Subset.refl _, List.Subset.refl _⟩
  cases hpolicy with
  | none => exact ⟨facts, hfacts, hrefl facts⟩
  | @some policy policy' hwidens =>
    dsimp only at hfacts ⊢
    rw [hwidens.enabled]
    by_cases henabled : policy'.enabled = false
    · rw [if_pos henabled] at hfacts ⊢
      exact ⟨facts, hfacts, hrefl facts⟩
    · rw [if_neg henabled] at hfacts ⊢
      obtain ⟨levels, hlevels, hfacts⟩ := bind_eq_ok.mp hfacts
      cases hfacts
      have hlevels' := mapM_eq_ok.mp hlevels
      -- every text of the wider policy reads as a level
      have hread : ∀ value ∈ policy.allowedRiskLevels, ∃ level, riskLevelOfValue value = .ok level := by
        intro value hvalue
        rcases hwidens.added value hvalue with hold | hnew
        · obtain ⟨level, -, hlevel⟩ := exists_mem_of_forall₂ hlevels'.flip hold
          exact ⟨level, hlevel⟩
        · exact hnew
      obtain ⟨wideLevels, hwide⟩ := exists_forall₂_of_forall_mem hread
      refine ⟨_, bind_eq_ok.mpr ⟨wideLevels, mapM_eq_ok.mpr hwide, rfl⟩, hwidens.scope,
        hwidens.skills, ?_⟩
      intro level hlevel
      obtain ⟨value, hvalue, hok⟩ := exists_mem_of_forall₂ hlevels' hlevel
      obtain ⟨level', hlevel', hok'⟩ :=
        exists_mem_of_forall₂ hwide.flip (hwidens.levels hvalue)
      obtain rfl : level = level' := Except.ok.inj (hok.symm.trans hok')
      exact hlevel'

/-- Under wider policies a decision that allowed still allows, and grants what it granted. -/
lemma Widens.evaluate (h : Widens wide narrow)
    (hevaluate : evaluate candidate narrow now = .ok evaluation)
    (hallowed : evaluation.authorization.allowed = true) :
    ∃ evaluation', Admission.evaluate candidate wide now = .ok evaluation' ∧
      evaluation'.authorization.allowed = true ∧
      evaluation.authorization.permissionScope ⊆ evaluation'.authorization.permissionScope ∧
      evaluation.authorization.allowedSkills ⊆ evaluation'.authorization.allowedSkills := by
  obtain ⟨facts, policy, hfacts, hpolicy, rfl⟩ := evaluate_eq_ok.mp hevaluate
  obtain ⟨facts', hfacts', hextends⟩ := h.sourceIdentityFacts hfacts
  obtain ⟨policy', hpolicy', hextends'⟩ := h.gatewayFacts hpolicy
  exact ⟨_, evaluate_eq_ok.mpr ⟨facts', policy', hfacts', hpolicy', rfl⟩,
    evaluateAccess_mono hallowed hextends hextends'⟩

end

/-! ## The guarantee -/

/-- Whoever is admitted has the authority, found under the trimmed names of the message. Policies
that widen never turn an allowed decision into a denied one, and never remove what was granted. -/
theorem admit_sound_and_monotone (setup : Setup) (candidate : AdmissionCandidate) :
    (∀ events outcome, Returns (admitCandidate setup candidate) events (.ok outcome) →
      outcome.admitted = true → ∃ tables now authorization mapping identity user gateway,
        ⟨.readAccess, (tables, now)⟩ ∈ events ∧ outcome.authorization = some authorization ∧
        Authorized candidate tables now authorization mapping identity user gateway) ∧
    ∀ wide narrow now evaluation, Widens wide narrow →
      evaluate candidate narrow now = .ok evaluation → evaluation.authorization.allowed = true →
      ∃ evaluation', evaluate candidate wide now = .ok evaluation' ∧
        evaluation'.authorization.allowed = true ∧
        evaluation.authorization.permissionScope ⊆ evaluation'.authorization.permissionScope ∧
        evaluation.authorization.allowedSkills ⊆ evaluation'.authorization.allowedSkills := by
  constructor
  · intro events outcome hreturns hadmitted
    obtain ⟨hreason, tables, now, evaluation, hread, hevaluate, hallowed, hauthorization⟩ :=
      admit_admitted hreturns hadmitted
    obtain ⟨mapping, identity, user, gateway, hauthorized⟩ :=
      evaluate_authorized hreason hevaluate hallowed
    exact ⟨tables, now, evaluation.authorization, mapping, identity, user, gateway, hread,
      hauthorization, hauthorized⟩
  · intro wide narrow now evaluation hwidens hevaluate hallowed
    exact hwidens.evaluate hevaluate hallowed

/-! ### A padded sender -/

/-- One employee, known as `friend`, and a gateway that allows everybody to ask. -/
def friendTables : AccessTables where
  identities := [⟨"e1", none, none, .active⟩]
  mappings := [⟨"m1", "wechat", "me", "friend", "e1", true⟩]
  userPolicies := [⟨"p1", "e1", true, [], [], none, none, 0⟩]
  gatewayPolicies := [⟨"g1", "default", true, [], [], ["low"], 0⟩]

/-- A private message whose sender is written with a blank. -/
def paddedCandidate : AdmissionCandidate where
  messageId := 1
  source := "wechat"
  sourceAccountId := "me"
  conversationId := "friend"
  conversationType := .privateChat
  senderType := .human
  senderId := some " friend"
  isSelf := false
  isMentioned := none
  messageType := "text"
  requestedScope := []
  requestedSkillIds := []
  riskLevel := .low

/-- The conversation has its thread already. -/
def friendAnswer (_ : Unit) : (request : Request) → Reply request × Unit
  | .readAccess => ((friendTables, 0), ())
  | .readRouting => (⟨[], [], [], [], []⟩, ())
  | .getIdentity id => (getIdentity id friendTables, ())
  | .selectWorkspace id => (some ⟨"w1", id, .active⟩, ())
  | .insertWorkspace _ => (true, ())
  | .selectThread _ => (none, ())
  | .insertThread _ => (true, ())
  | .bindRoute _ _ _ => ((), ())
  | .getThread id => (some (newThread "w1" .privateThread "key" id), ())
  | .selectBinding platform account conversation =>
    (some ⟨"b1", "t1", platform, account, conversation, none⟩, ())
  | .insertBinding _ => (true, ())
  | .discardThread _ => ((), ())
  | .uuid => ("u1", ())

/-- The tables an evaluation has read. -/
def accessRead? : AdmitEvent → Option (AccessTables × Timestamp)
  | ⟨.readAccess, read⟩ => some read
  | _ => none

def plainSetup : Setup := ⟨constantCodec, fun _ => "", false⟩

/-- A message is admitted although no mapping exists for its sender as it is written. -/
theorem padded_sender_admitted :
    ∃ events outcome, Returns (admitCandidate plainSetup paddedCandidate) events (.ok outcome) ∧
      outcome.admitted = true ∧ ∀ tables now, ⟨.readAccess, (tables, now)⟩ ∈ events →
        listMappings paddedCandidate.source paddedCandidate.sourceAccountId
          (paddedCandidate.senderId.getD "") tables = [] := by
  let run := (admitCandidate plainSetup paddedCandidate).exec friendAnswer ()
  have hread : run.1.filterMap accessRead? = [(friendTables, 0)] := by decide +kernel
  have houtcome : run.2.2.toOption.map AdmissionOutcome.admitted = some true := by decide +kernel
  have hreturns : Returns (admitCandidate plainSetup paddedCandidate) run.1 run.2.2 :=
    exec_returns friendAnswer (admitCandidate plainSetup paddedCandidate) ()
  cases hresult : run.2.2 with
  | error error =>
    rw [hresult] at houtcome
    cases houtcome
  | ok outcome =>
    rw [hresult] at houtcome hreturns
    refine ⟨run.1, outcome, hreturns, Option.some.inj houtcome, fun tables now hmem => ?_⟩
    have hmem' : (tables, now) ∈ run.1.filterMap accessRead? :=
      List.mem_filterMap.mpr ⟨_, hmem, rfl⟩
    rw [hread, List.mem_singleton] at hmem'
    obtain ⟨rfl, -⟩ := Prod.mk.inj hmem'
    decide

end AgentGateway.Admission
