import AgentGateway.Admission.Soundness
import AgentGateway.Response.Handler
import AgentGateway.Workspace.Routed

/-!
# Admission, dispatch and response agree

Any number of admissions with routing take turns. Two admitted messages get the same thread exactly
if the fields of their keys agree, and the key that a dispatch or the handler of its result rebuilds
later from the message is the key of the thread.
-/

namespace AgentGateway.Admission

open Lib Lib.Program Lib.Program.Contract Access Workspace
open AgentGateway.Dispatch (AIThread EmployeeWorkspace ThreadType ThreadPolicy DispatchMessage
  DispatchFacts HermesDispatchRecord dispatchChecks)
open AgentGateway.Routing (ResolvedRoute RoutingTables resolveRoute)

/-! ## Routes -/

variable {source account conversation id : String} {route : ResolvedRoute}

/-- The parts of a route that come from the request. -/
lemma resolveRoute_eq_ok {type : ThreadType} {tables : RoutingTables}
    (h : resolveRoute source account conversation type id tables = .ok route) :
    route.source = source ∧ route.sourceAccountId = account ∧
      route.conversationId = conversation ∧ route.conversationType = type ∧
      ∃ profile ∈ tables.agentProfiles, route.agentProfileId = profile.id ∧
        route.agentProfileRevision = profile.revision := by
  simp only [resolveRoute, bind_eq_ok] at h
  obtain ⟨row, hrow, -, -, ⟨profile, policy, groupType⟩, htarget, -, -, h⟩ := h
  cases h
  have hfound := List.find?_some (raiseIfNone_eq_ok.mp hrow)
  simp only [decide_eq_true_eq] at hfound
  refine ⟨hfound.1, hfound.2.1, hfound.2.2, rfl, profile, ?_, rfl, rfl⟩
  cases type with
  | privateThread =>
    simp only [Routing.resolveTarget, bind_eq_ok] at htarget
    obtain ⟨profile', hprofile, htarget⟩ := htarget
    cases htarget
    simp only [Routing.resolvePrivateAgentProfile, bind_eq_ok] at hprofile
    obtain ⟨-, -, binding, -, hprofile⟩ := hprofile
    exact List.mem_of_find?_eq_some (raiseIfNone_eq_ok.mp hprofile)
  | groupThread =>
    simp only [Routing.resolveTarget, bind_eq_ok] at htarget
    obtain ⟨group, -, -, -, profile', hprofile, htarget⟩ := htarget
    cases htarget
    exact List.mem_of_find?_eq_some (raiseIfNone_eq_ok.mp hprofile)

variable {evaluation : Evaluation}

/-- The identity of an allowed decision is one of the table. -/
lemma evaluate_identity {candidate : AdmissionCandidate} {tables : AccessTables} {now : Timestamp}
    (h : evaluate candidate tables now = .ok evaluation)
    (hallowed : evaluation.authorization.allowed = true) :
    ∃ identity ∈ tables.identities,
      evaluation.authorization.enterpriseIdentityId = some identity.id := by
  obtain ⟨facts, policy, hfacts, hpolicy, rfl⟩ := evaluate_eq_ok.mp h
  have hallows := evaluateAccess_allowed.mp hallowed
  obtain ⟨-, -, hid⟩ := evaluateAccess_granted hallows
  obtain ⟨mapping, identity, user, -, -, hidentity, -, -, -, rfl⟩ :=
    resolveSourceIdentityFacts_allowed hfacts hallows.userAllowed
  exact ⟨identity, List.mem_of_find?_eq_some hidentity, hid⟩

/-! ## What an admission ends with -/

/-- The rows that the outcome of an admitted message names. -/
structure Target (candidate : AdmissionCandidate) (outcome : AdmissionOutcome)
    (tables : WorkspaceTables) (id workspaceId : String) (thread : AIThread) : Prop where
  message : outcome.messageId = candidate.messageId
  identity : outcome.enterpriseIdentityId = some id
  workspace : outcome.workspaceId = some workspaceId
  hasWorkspace : HasWorkspace (workspaceId, id) tables
  target : outcome.aiThreadId = some thread.id
  mem : thread ∈ tables.threads

/-- The dispatch record of an outcome. -/
structure RecordOf (outcome : AdmissionOutcome) (record : HermesDispatchRecord) : Prop where
  message : record.messageId = outcome.messageId
  identity : outcome.enterpriseIdentityId = some record.enterpriseIdentityId
  workspace : outcome.workspaceId = some record.workspaceId
  thread : outcome.aiThreadId = some record.aiThreadId

section

variable {candidate : AdmissionCandidate} {outcome : AdmissionOutcome} {tables : WorkspaceTables}
  {id workspaceId : String} {thread : AIThread} {record : HermesDispatchRecord}

/-- The record names the same rows. -/
lemma Target.record_eq (h : Target candidate outcome tables id workspaceId thread)
    (hrecord : RecordOf outcome record) :
    id = record.enterpriseIdentityId ∧ workspaceId = record.workspaceId ∧
      thread.id = record.aiThreadId :=
  ⟨Option.some.inj (h.identity.symm.trans hrecord.identity),
    Option.some.inj (h.workspace.symm.trans hrecord.workspace),
    Option.some.inj (h.target.symm.trans hrecord.thread)⟩

/-- The row of the target is the one the record names. -/
lemma Target.eq_of_find (h : Target candidate outcome tables id workspaceId thread)
    (hunique : Unique tables) (hrecord : RecordOf outcome record) {row : AIThread}
    (hrow : tables.threads.find? (fun row => row.id = record.aiThreadId) = some row) :
    row = thread := by
  have hrowId : row.id = record.aiThreadId := by simpa using List.find?_some hrow
  exact hunique.threadIds.eq_of_key_eq (List.mem_of_find?_eq_some hrow) h.mem
    (hrowId.trans (h.record_eq hrecord).2.2.symm)

end

section

variable {setup : Setup} {candidate : AdmissionCandidate} {inv : WorkspaceTables → Prop}
  {own : AdmitEvent → Prop} {raised : AdmitError → Prop} {s : WorkspaceTables}

/-- A message that is admitted is allowed as an identity that was read, and ends as the branch for
this identity does. -/
lemma safeOk_admitCandidate (hsteady : Steady inv) (hraised : raised .model)
    {post : String → AdmissionOutcome → WorkspaceTables → Prop}
    (hbranch : ∀ read evaluation u, ∀ identity ∈ read.1.identities, own ⟨.readAccess, read⟩ →
      evaluate candidate read.1 read.2 = .ok evaluation →
      evaluation.authorization.allowed = true →
      evaluation.authorization.enterpriseIdentityId = some identity.id →
      (admissions inv own).SafeOk raised
        (fun outcome u => outcome.admitted = true → post identity.id outcome u)
        (if setup.v2RoutingEnabled = true then admitV2 setup candidate evaluation identity.id
          else admitV1 setup candidate evaluation identity.id) u) :
    (admissions inv own).SafeOk raised
      (fun outcome u => outcome.admitted = true → ∃ id, post id outcome u)
      (admitCandidate setup candidate) s := by
  unfold admitCandidate
  split
  · exact safeOk_give fun _ _ _ hadmitted => by cases hadmitted
  · have hread : (admissions inv own).SafeOk raised
        (fun (read : AccessTables × Timestamp) _ => own ⟨.readAccess, read⟩)
        (ask .readAccess) s :=
      hsteady.ask .readAccess trivial fun u reply u' _ _ _ hown v _ => hown
    refine SafeOk.andThen hread fun read u _ _ hown => ?_
    refine SafeOk.andThen (safeOk_checked fun _ => hraised) fun evaluation v _ _ hevaluate => ?_
    unfold settle
    by_cases hallowed : evaluation.authorization.allowed = false
    · rw [if_pos hallowed]
      exact safeOk_give fun _ _ _ hadmitted => by cases hadmitted
    · rw [if_neg hallowed]
      rw [Bool.not_eq_false] at hallowed
      obtain ⟨identity, hidentity, hid⟩ := evaluate_identity hevaluate hallowed
      rw [hid]
      exact (hbranch read evaluation v identity hidentity hown hevaluate hallowed hid).mono
        fun outcome w _ _ hpost hadmitted => ⟨identity.id, hpost hadmitted⟩

end

/-! ### With routing -/

/-- The target of a message that is admitted with routing. -/
structure RoutedTarget {codec : KeyCodec} (setting : Setting codec)
    (candidate : AdmissionCandidate) (outcome : AdmissionOutcome) (tables : WorkspaceTables)
    (id workspaceId : String) (route : ResolvedRoute) (thread : AIThread) : Prop
    extends Target candidate outcome tables id workspaceId thread where
  known : id ∈ setting.identities
  references : outcome.route = routingReferences route
  source : route.source = candidate.source
  account : route.sourceAccountId = candidate.sourceAccountId
  conversation : route.conversationId = candidate.conversationId
  type : route.conversationType = threadTypeOf candidate.conversationType
  revision : route.agentProfileRevision = setting.revision route.agentProfileId
  unpadded : strip route.agentProfileId = route.agentProfileId
  hasKey : RouteHasKey route id
  routed : Routed setting tables thread (codec.routeFields route id)
  profile : thread.agentProfileId = some route.agentProfileId
  policy : thread.threadPolicy = some route.threadPolicy

section

variable {setup : Setup} {setting : Setting setup.codec} {candidate : AdmissionCandidate}
  {s : WorkspaceTables}

/-- An admission raises anything but a routing conflict, and ends with a target. -/
lemma routed_admitV2 (hid : id ∈ setting.identities) :
    (admissions (RoutedTables setting) setting.Allows).SafeOk (· ≠ .threadRoutingConflict)
      (fun outcome u => outcome.admitted = true → ∃ workspaceId route thread,
        RoutedTarget setting candidate outcome u id workspaceId route thread)
      (admitV2 setup candidate evaluation id) s := by
  have hsteady := routedTables_steady setting
  have hraised : ∀ error : AdmitError, error ≠ .threadRoutingConflict →
      error ≠ .threadRoutingConflict := fun _ h => h
  have hread : (admissions (RoutedTables setting) setting.Allows).SafeOk (· ≠ .threadRoutingConflict)
      (fun (tables : RoutingTables) _ => setting.Allows ⟨.readRouting, tables⟩)
      (ask .readRouting) s :=
    hsteady.ask .readRouting trivial fun u reply u' _ _ _ hallows v _ => hallows
  unfold admitV2
  refine SafeOk.andThen hread fun tables u _ _ hallows => ?_
  split
  · rename_i error herror
    split
    · exact safeOk_give fun _ _ _ hadmitted => by cases hadmitted
    · exact safeOk_raise (by simp)
  -- the route may change later on; its snapshot on the thread does not
  · rename_i route hroute
    obtain ⟨hsource, haccount, hconversation, htype, profile, hprofile, hprofileId, hrevision⟩ :=
      resolveRoute_eq_ok hroute
    obtain ⟨hprofiles, hknown⟩ := hallows
    have hfields : setup.codec.routeFields route id ∈ setting.known :=
      hknown _ _ _ _ _ route hid hroute
    obtain ⟨hunpadded, hrev⟩ := hprofiles profile hprofile
    rw [← hprofileId] at hunpadded hrev
    have hfieldsProfile :
        (setup.codec.routeFields route id).agentProfileId = route.agentProfileId := hunpadded
    refine SafeOk.andThen (routed_resolveThread hraised hid hfields) fun thread v _ _ hthread => ?_
    have hbind := routed_bindV2RouteSnapshot (s := v) hraised hfields hthread.2
    rw [hfieldsProfile] at hbind
    refine SafeOk.andThen hbind fun bound w _ _ hbound => ?_
    refine SafeOk.andThen (hsteady.ensureWorkspaceForAuthorizedIdentity hraised id)
      fun workspace x hx _ hworkspace => ?_
    -- statuses may have changed since: the thread is still the same one
    refine safeOk_give fun y hy hinv _ => ?_
    obtain ⟨hboundProfile, hboundPolicy, hkey, -, later, hmem, hlater⟩ := hbound
    obtain ⟨later', hmem', hlater'⟩ := (hasThread_of_mem hmem).of_kept (Kept.trans hx hy)
    have hkept : ThreadKept bound later' := hlater.trans hlater'
    obtain ⟨hprofile', hpolicy'⟩ := hkept.route (Or.inl (by simp [hboundProfile]))
    refine ⟨workspace.id, route, later', {
      message := rfl
      identity := rfl
      known := hid
      workspace := rfl
      hasWorkspace := hworkspace.of_kept hy
      target := congrArg some hkept.id.symm
      mem := hmem'
      references := rfl
      source := hsource
      account := haccount
      conversation := hconversation
      type := htype
      revision := hrevision.trans hrev
      unpadded := hunpadded
      hasKey := hthread.1
      routed := hinv.routed hmem' hfields (hkept.threadKey.trans hkey)
      profile := hprofile'.trans hboundProfile
      policy := hpolicy'.trans hboundPolicy }⟩

lemma routed_admitCandidate (hv2 : setup.v2RoutingEnabled = true) :
    (admissions (RoutedTables setting) setting.Allows).SafeOk (· ≠ .threadRoutingConflict)
      (fun outcome u => outcome.admitted = true → ∃ id workspaceId route thread,
        RoutedTarget setting candidate outcome u id workspaceId route thread)
      (admitCandidate setup candidate) s := by
  refine safeOk_admitCandidate (routedTables_steady setting) (by decide)
    fun read evaluation u identity hidentity hallows _ _ _ => ?_
  rw [if_pos hv2]
  exact routed_admitV2 (hallows identity hidentity)

end

/-! ## The key rebuilt from the message -/

/-- The row of the message a candidate was made from. -/
structure MessageOf (candidate : AdmissionCandidate) (message : DispatchMessage) : Prop where
  id : message.id = candidate.messageId
  source : message.source = candidate.source
  account : message.sourceAccountId = candidate.sourceAccountId
  conversation : message.conversationId = candidate.conversationId
  type : message.conversationType = candidate.conversationType.value

/-- `str.casefold` leaves the values of the conversation types as they are. -/
def KeepsTypes (codec : KeyCodec) : Prop :=
  codec.casefold "private" = "private" ∧ codec.casefold "group" = "group"

variable {codec : KeyCodec}

lemma enumMember_text {ε : Type} {ofValue? : String → Option ε} {enumName fieldName value : String}
    {member : ε} (hrequired : required (some value) fieldName = .ok value)
    (hcasefold : codec.casefold value = value) (hmember : ofValue? value = some member) :
    codec.enumMember ofValue? enumName fieldName (.text value) = .ok member := by
  simp only [KeyCodec.enumMember, bind_eq_ok]
  refine ⟨value, hrequired, ?_⟩
  rw [hcasefold, hmember]

lemma threadType_text (h : KeepsTypes codec) (type : ConversationType) :
    codec.threadType (.text type.value) = .ok (threadTypeOf type) := by
  cases type with
  | privateChat => exact enumMember_text (by decide) h.1 rfl
  | group => exact enumMember_text (by decide) h.2 rfl

section

variable {codec : KeyCodec} {setting : Setting codec} {candidate : AdmissionCandidate}
  {outcome : AdmissionOutcome} {tables : WorkspaceTables} {id workspaceId : String}
  {route : ResolvedRoute} {thread : AIThread} {message : DispatchMessage}

/-- The key rebuilt from the columns of the message is the key of the thread. -/
lemma RoutedTarget.expectedThreadKey
    (h : RoutedTarget setting candidate outcome tables id workspaceId route thread)
    (htypes : KeepsTypes codec) (hmessage : MessageOf candidate message)
    {profile : Dispatch.AgentProfile} (hprofile : thread.agentProfileId = some profile.id)
    (hrevision : profile.revision = setting.revision profile.id) :
    Response.expectedThreadKey codec message id profile route.threadPolicy =
      .ok thread.threadKey := by
  have hid : profile.id = route.agentProfileId :=
    Option.some.inj (hprofile.symm.trans h.profile)
  have hrev : profile.revision = route.agentProfileRevision := by
    rw [hrevision, hid, h.revision]
  refine buildV2ThreadKey_iff.mpr ⟨route.conversationType, route.threadPolicy, ?_, rfl,
    h.hasKey.policy, ?_, ?_⟩
  · rw [hmessage.type, h.type]
    exact threadType_text htypes candidate.conversationType
  · refine ⟨?_, ?_, ?_, ?_, ⟨.number profile.revision, rfl, ?_⟩, fun hshared => ⟨id, rfl, ?_⟩⟩
    · rw [hmessage.source, ← h.source]
      exact h.hasKey.platform
    · rw [hmessage.account, ← h.account]
      exact h.hasKey.account
    · rw [hmessage.conversation, ← h.conversation]
      exact h.hasKey.conversation
    · rw [hid]
      exact h.hasKey.profile
    · rw [hrev]
      exact h.hasKey.revision
    · exact h.hasKey.sender hshared
  · rw [h.routed.key]
    refine congrArg (fun fields => joinWith ':' (codec.v2Segments fields)) ?_
    simp only [KeyCodec.v2Normalized, KeyCodec.routeFields, hmessage.source, hmessage.account,
      hmessage.conversation, h.source, h.account, h.conversation, hid, hrev, Option.map_some,
      Option.getD_some, Revision.str]
    rfl

/-- The thread of a private conversation is in the workspace of the sender. -/
lemma RoutedTarget.workspaceId_eq
    (h : RoutedTarget setting candidate outcome tables id workspaceId route thread)
    (hunique : Unique tables) (hprivate : thread.threadType = .privateThread) :
    thread.workspaceId = workspaceId := by
  have hpolicy : route.threadPolicy ≠ .groupShared := by
    intro hshared
    have htype : route.conversationType = .privateThread := h.routed.type.symm.trans hprivate
    have hvalid := h.hasKey.policy
    rw [hshared, htype] at hvalid
    cases hvalid
  have hsender : id ∈ (codec.routeFields route id).senderIdentityId := by
    simp only [KeyCodec.routeFields, if_neg hpolicy, setting.unpadded id h.known]
    rfl
  exact hunique.workspace_id_eq (h.routed.workspace id hsender) h.hasWorkspace

end

/-! ## Later checks -/

/-- What a dispatch of the message reads when the tables are these. -/
structure DispatchReads {codec : KeyCodec} (setting : Setting codec) (tables : WorkspaceTables)
    (message : DispatchMessage) (record : HermesDispatchRecord) (facts : DispatchFacts) :
    Prop where
  thread : facts.thread = tables.threads.find? fun row => row.id = record.aiThreadId
  profile : ∀ thread ∈ facts.thread, ∀ profile ∈ facts.profile,
    thread.agentProfileId = some profile.id ∧ profile.revision = setting.revision profile.id
  key : ∀ thread ∈ facts.thread, ∀ profile ∈ facts.profile, ∀ policy ∈ thread.threadPolicy,
    Response.expectedThreadKey codec message record.enterpriseIdentityId profile policy =
      .ok facts.expectedThreadKey

/-- What the handler of the result reads when the tables are these. -/
structure HandlerReads {codec : KeyCodec} (setting : Setting codec) (tables : WorkspaceTables)
    (message : DispatchMessage) (record : HermesDispatchRecord)
    (response : Hermes.HermesDispatchOutcome) (facts : Response.HandlerFacts) : Prop where
  response : response.workspaceId = record.workspaceId
  message : facts.message = some message
  thread : facts.thread = tables.threads.find? fun row => row.id = record.aiThreadId
  profile : ∀ thread ∈ facts.thread, ∀ profile ∈ facts.profile,
    thread.agentProfileId = some profile.id ∧ profile.revision = setting.revision profile.id
  record : facts.record = some record

section

variable {codec : KeyCodec} {setting : Setting codec} {candidate : AdmissionCandidate}
  {outcome : AdmissionOutcome} {tables tables' : WorkspaceTables} {id workspaceId reason : String}
  {route : ResolvedRoute} {thread : AIThread} {message : DispatchMessage}
  {record : HermesDispatchRecord}

/-- A dispatch is never rejected because thread and message do not belong together. -/
lemma RoutedTarget.dispatch_not_misdirected
    (h : RoutedTarget setting candidate outcome tables id workspaceId route thread)
    {route' : ResolvedRoute} {thread' : AIThread}
    (h' : RoutedTarget setting candidate outcome tables' id workspaceId route' thread')
    (hunique : Unique tables) (hunique' : Unique tables') (htypes : KeepsTypes codec)
    (hmessage : MessageOf candidate message) (hrecord : RecordOf outcome record)
    {facts : DispatchFacts} (hreads : DispatchReads setting tables message record facts)
    (hrejected : (Dispatch.prepareDispatch facts record tables'.threads).2 =
      .error (.dispatchError reason)) : ¬ Response.Misdirected reason := by
  obtain ⟨rfl, rfl, -⟩ := h.record_eq hrecord
  have hread : ∀ row, facts.thread = some row → row = thread := by
    intro row hrow
    exact h.eq_of_find hunique hrecord (hreads.thread.symm.trans hrow)
  cases Response.rejection_prepareDispatch hrejected with
  | @workspace row hrow htype hne =>
    intro _
    rcases hrow with hrow | hrow
    · obtain rfl := hread row hrow
      exact hne (h.workspaceId_eq hunique htype)
    · obtain rfl := h'.eq_of_find hunique' hrecord hrow
      exact hne (h'.workspaceId_eq hunique' htype)
  | unbound => decide
  | @bound row other hrow hprofile =>
    obtain rfl := hread row hrow
    rw [h.profile] at hprofile
    cases hprofile
  | @key row profileId policy profile hrow hprofile hpolicy hprofileRow hne =>
    obtain rfl := hread row hrow
    obtain ⟨hprofileId, hrevision⟩ := hreads.profile row hrow profile hprofileRow
    have hexpected := h.expectedThreadKey htypes hmessage hprofileId hrevision
    have hkey := hreads.key row hrow profile hprofileRow route.threadPolicy h.policy
    exact absurd (Except.ok.inj (hkey.symm.trans hexpected)) hne
  | other hother =>
    intro hmisdirected
    rcases hmisdirected with rfl | rfl | rfl <;> exact absurd hother (by decide)

/-- The handler of the result never finds that it belongs elsewhere. -/
lemma RoutedTarget.response_not_misdirected
    (h : RoutedTarget setting candidate outcome tables id workspaceId route thread)
    (hunique : Unique tables) (htypes : KeepsTypes codec) (hmessage : MessageOf candidate message)
    (hrecord : RecordOf outcome record) {response : Hermes.HermesDispatchOutcome}
    {facts : Response.HandlerFacts}
    (hreads : HandlerReads setting tables message record response facts)
    (hrejected : Response.handleResponse codec facts response = .error (.delivery reason)) :
    ¬ Response.Misdirected reason := by
  obtain ⟨rfl, rfl, hid⟩ := h.record_eq hrecord
  have hfound : facts.thread = some thread := by
    rw [hreads.thread, ← hid]
    exact hunique.threadIds.find?_eq h.mem
  intro hmisdirected
  refine Response.handleResponse_not_misdirected hreads.message hfound hreads.record
    (Or.inl (by simp [h.profile])) ?_ ?_ ?_ hmisdirected hrejected
  · intro hprivate
    rw [h.workspaceId_eq hunique hprivate, hreads.response]
  · refine ⟨?_, hid.symm, hreads.response.symm⟩
    rw [hrecord.message, h.message, hmessage.id]
  · intro profile hprofile policy hpolicy
    obtain ⟨hprofileId, hrevision⟩ := hreads.profile thread hfound profile hprofile
    obtain rfl : policy = route.threadPolicy :=
      Option.some.inj ((Option.mem_def.mp hpolicy).symm.trans h.policy)
    exact h.expectedThreadKey htypes hmessage hprofileId hrevision

end

/-! ## Any number of admissions -/

/-- A statement of one of the admissions. Others may have changed statuses before it. -/
def PrivateStep (tables : WorkspaceTables) (event : AdmitEvent) (tables' : WorkspaceTables) : Prop :=
  ∃ mid, Disturbed tables mid ∧ Answers mid event tables'

variable {tables : WorkspaceTables}

/-- Admissions that take turns keep the invariant, and end as each of them does. -/
lemma admissions_run {κ α : Type} [DecidableEq κ] {inv : WorkspaceTables → Prop}
    (hsteady : Steady inv) (own : κ → AdmitEvent → Prop) {raised : AdmitError → Prop}
    {post : κ → α → WorkspaceTables → Prop} {programs : κ → Admit α}
    {trace : List (Moment κ WorkspaceTables Request Reply)} (hinit : inv tables)
    (h : Interleaving PrivateStep programs tables trace)
    (hown : ∀ moment ∈ trace, own moment.who moment.event)
    (hsafe : ∀ k, (admissions inv (own k)).SafeOk raised (post k) (programs k) tables) :
    inv (Program.stateAfter tables trace) ∧
      (∀ k error, Returns (programs k) (eventsOf k trace) (.error error) → raised error) ∧
      ∀ k a, Returns (programs k) (eventsOf k trace) (.ok a) →
        post k a (Program.stateAfter tables trace) := by
  have henv : ∀ s s', inv s → Disturbed s s' → inv s' ∧ Kept s s' :=
    fun _ _ hinv hdisturbed => ⟨hsteady.disturbed hinv hdisturbed, hdisturbed.kept⟩
  have hprograms := fun k => (hsafe k).safe
  refine ⟨(interleaving_restrict own h henv hown hinit hprograms).1, fun k error hreturns => ?_,
    fun k a hreturns => ?_⟩
  · exact interleaving_restrict_returns own h henv hown hinit hprograms hreturns
  · exact interleaving_restrict_returns own h henv hown hinit hprograms hreturns

/-! ### With routing -/

/-- A statement of one of the admissions. Others may have changed statuses before it. -/
def AdmissionStep {codec : KeyCodec} (setting : Setting codec) (tables : WorkspaceTables)
    (event : AdmitEvent) (tables' : WorkspaceTables) : Prop :=
  ∃ mid, Disturbed tables mid ∧ Answers mid event tables' ∧ setting.Allows event

/-- An admission of these has admitted its message. -/
def Admits {κ : Type} [DecidableEq κ] (setup : Setup) (candidates : κ → AdmissionCandidate)
    (trace : List (Moment κ WorkspaceTables Request Reply)) (k : κ) (outcome : AdmissionOutcome) :
    Prop :=
  Returns (admitCandidate setup (candidates k)) (eventsOf k trace) (.ok outcome) ∧ outcome.admitted = true

/-- Two messages agree on everything a thread is for. -/
structure SameRoute (codec : KeyCodec) (a : AdmissionCandidate) (outcome : AdmissionOutcome)
    (b : AdmissionCandidate) (outcome' : AdmissionOutcome) : Prop where
  platform : codec.casefold (strip a.source) = codec.casefold (strip b.source)
  account : strip a.sourceAccountId = strip b.sourceAccountId
  conversation : strip a.conversationId = strip b.conversationId
  type : a.conversationType = b.conversationType
  profile : outcome.route.agentProfileId = outcome'.route.agentProfileId
  revision : outcome.route.agentProfileRevision = outcome'.route.agentProfileRevision
  policy : outcome.route.threadPolicy = outcome'.route.threadPolicy
  identity : outcome.route.threadPolicy ≠ some "group_shared" →
    outcome.enterpriseIdentityId = outcome'.enterpriseIdentityId

/-- Admission, dispatch and response agree on the thread of a message. -/
structure Agrees {codec : KeyCodec} (setting : Setting codec) (tables tables' : WorkspaceTables)
    (message : DispatchMessage) (record : HermesDispatchRecord) : Prop where
  thread : ∃ thread ∈ tables.threads, thread.id = record.aiThreadId ∧
    (∃ profileId policy, thread.agentProfileId = some profileId ∧
      thread.threadPolicy = some policy ∧
      ∀ profile : Dispatch.AgentProfile, profile.id = profileId →
        profile.revision = setting.revision profile.id →
        Response.expectedThreadKey codec message record.enterpriseIdentityId profile policy =
          .ok thread.threadKey) ∧
    (thread.threadType = .privateThread → thread.workspaceId = record.workspaceId)
  dispatch : ∀ facts reason, DispatchReads setting tables message record facts →
    (Dispatch.prepareDispatch facts record tables'.threads).2 = .error (.dispatchError reason) →
    ¬ Response.Misdirected reason
  response : ∀ facts response reason, HandlerReads setting tables message record response facts →
    Response.handleResponse codec facts response = .error (.delivery reason) →
    ¬ Response.Misdirected reason

lemma threadTypeOf_inj {a b : ConversationType} : threadTypeOf a = threadTypeOf b ↔ a = b := by
  cases a <;> cases b <;> decide

section

variable {codec : KeyCodec} {setting : Setting codec} {a b : AdmissionCandidate}
  {outcome outcome' : AdmissionOutcome} {tables : WorkspaceTables}
  {id id' workspaceId workspaceId' : String} {route route' : ResolvedRoute}
  {thread thread' : AIThread}

/-- The fields of two keys agree exactly if the messages agree on what a thread is for. -/
lemma RoutedTarget.routeFields_eq
    (h : RoutedTarget setting a outcome tables id workspaceId route thread)
    (h' : RoutedTarget setting b outcome' tables id' workspaceId' route' thread') :
    codec.routeFields route id = codec.routeFields route' id' ↔
      SameRoute codec a outcome b outcome' := by
  have hid := setting.unpadded id h.known
  have hid' := setting.unpadded id' h'.known
  constructor
  · intro hfields
    simp only [KeyCodec.routeFields, V2ThreadKeyFields.mk.injEq, h.source, h'.source, h.account,
      h'.account, h.conversation, h'.conversation, h.type, h'.type, h.unpadded, h'.unpadded, hid,
      hid', threadTypeOf_inj] at hfields
    obtain ⟨haccount, hprofile, -, hconversation, htype, hplatform, hsender, hpolicy⟩ := hfields
    refine ⟨hplatform, haccount, hconversation, htype, ?_, ?_, ?_, ?_⟩
    · rw [h.references, h'.references]
      exact congrArg some hprofile
    · rw [h.references, h'.references]
      refine congrArg some ?_
      rw [h.revision, h'.revision, hprofile]
    · rw [h.references, h'.references]
      exact congrArg (fun policy : ThreadPolicy => some policy.value) hpolicy
    · intro hshared
      have hnot : route.threadPolicy ≠ .groupShared := by
        intro heq
        rw [h.references] at hshared
        exact hshared (congrArg (fun policy : ThreadPolicy => some policy.value) heq)
      rw [if_neg hnot, if_neg (hpolicy ▸ hnot)] at hsender
      rw [h.identity, h'.identity]
      exact hsender
  · intro hsame
    have hprofile : route.agentProfileId = route'.agentProfileId := by
      have hboth := hsame.profile
      rw [h.references, h'.references] at hboth
      exact Option.some.inj hboth
    have hpolicy : route.threadPolicy = route'.threadPolicy := by
      have hboth := hsame.policy
      rw [h.references, h'.references] at hboth
      exact threadPolicy_value_inj.mp (Option.some.inj hboth)
    have hsender : (if route.threadPolicy = .groupShared then none else some (strip id)) =
        if route'.threadPolicy = .groupShared then none else some (strip id') := by
      rw [← hpolicy]
      by_cases hshared : route.threadPolicy = .groupShared
      · rw [if_pos hshared, if_pos hshared]
      · rw [if_neg hshared, if_neg hshared]
        have hboth := hsame.identity (by
          rw [h.references]
          intro heq
          exact hshared (threadPolicy_value_inj.mp (Option.some.inj heq)))
        rw [h.identity, h'.identity] at hboth
        rw [Option.some.inj hboth]
    simp only [KeyCodec.routeFields, V2ThreadKeyFields.mk.injEq, h.source, h'.source, h.account,
      h'.account, h.conversation, h'.conversation, h.type, h'.type, threadTypeOf_inj]
    refine ⟨hsame.account, by rw [hprofile], ?_, hsame.conversation, hsame.type, hsame.platform,
      hsender, hpolicy⟩
    rw [h.revision, h'.revision, hprofile]

/-- Two messages get the same thread exactly if they agree on what a thread is for. -/
lemma RoutedTarget.same_thread
    (h : RoutedTarget setting a outcome tables id workspaceId route thread)
    (h' : RoutedTarget setting b outcome' tables id' workspaceId' route' thread')
    (hunique : Unique tables) :
    outcome.aiThreadId = outcome'.aiThreadId ↔ SameRoute codec a outcome b outcome' := by
  rw [← h.routeFields_eq h', h.target, h'.target, Option.some.injEq,
    ← joinV2Segments_inj (setting.noCollision _ h.routed.known _ h'.routed.known),
    ← h.routed.key, ← h'.routed.key]
  constructor
  · intro hids
    rw [hunique.threadIds.eq_of_key_eq h.mem h'.mem hids]
  · intro hkeys
    rw [hunique.threadKeys.eq_of_key_eq h.mem h'.mem hkeys]

end

variable {setup : Setup}

/-- The targets of all messages that have been admitted. -/
lemma admissions_targets {κ : Type} [DecidableEq κ] (hv2 : setup.v2RoutingEnabled = true)
    {setting : Setting setup.codec} {candidates : κ → AdmissionCandidate}
    (hinit : RoutedTables setting tables) {trace : List (Moment κ WorkspaceTables Request Reply)}
    (h : Interleaving (AdmissionStep setting) (fun k => admitCandidate setup (candidates k)) tables
      trace) :
    RoutedTables setting (Program.stateAfter tables trace) ∧
      (∀ k, ¬ Returns (admitCandidate setup (candidates k)) (eventsOf k trace)
        (.error .threadRoutingConflict)) ∧
      ∀ k outcome, Admits setup candidates trace k outcome → ∃ id workspaceId route thread,
        RoutedTarget setting (candidates k) outcome (Program.stateAfter tables trace) id workspaceId route
          thread := by
  obtain ⟨hinv, hraised, htargets⟩ := admissions_run (routedTables_steady setting)
    (fun _ => setting.Allows) hinit
    (h.weaken fun _ _ _ hstep => hstep.imp fun _ hmid => ⟨hmid.1, hmid.2.1⟩)
    (h.forall_event fun _ _ _ hstep => hstep.elim fun _ hmid => hmid.2.2)
    fun k => routed_admitCandidate hv2
  exact ⟨hinv, fun k hreturns => hraised k _ hreturns rfl,
    fun k outcome hadmits => htargets k outcome hadmits.1 hadmits.2⟩

/-- An admission that has ended stays as it is. -/
lemma Admits.of_append {κ : Type} [DecidableEq κ]
    {step : WorkspaceTables → AdmitEvent → WorkspaceTables → Prop}
    {candidates : κ → AdmissionCandidate}
    {past future : List (Moment κ WorkspaceTables Request Reply)} {k : κ}
    {outcome : AdmissionOutcome} (hadmits : Admits setup candidates past k outcome)
    (h : Interleaving step (fun k => admitCandidate setup (candidates k)) tables (past ++ future)) :
    Admits setup candidates (past ++ future) k outcome := by
  obtain ⟨rest, hruns⟩ := h.runs k
  rw [eventsOf_append] at hruns
  have hnil := hadmits.1.eq_nil hruns
  refine ⟨?_, hadmits.2⟩
  rw [eventsOf_append, hnil, List.append_nil]
  exact hadmits.1

/-- In every run of any number of admissions with routing: no two bind different routes to a thread;
two admitted messages have the same thread exactly if they agree on platform, account, conversation,
type, profile, revision and policy and, unless the policy shares the thread, on the identity; and at
every later time dispatch and response find the thread of the message. -/
theorem routed_admissions_agree {κ : Type} [DecidableEq κ] (setup : Setup)
    (hv2 : setup.v2RoutingEnabled = true) (setting : Setting setup.codec)
    (htypes : KeepsTypes setup.codec) (candidates : κ → AdmissionCandidate)
    (tables : WorkspaceTables) (hinit : RoutedTables setting tables)
    (trace : List (Moment κ WorkspaceTables Request Reply))
    (h : Interleaving (AdmissionStep setting) (fun k => admitCandidate setup (candidates k)) tables trace) :
    (∀ k, ¬ Returns (admitCandidate setup (candidates k)) (eventsOf k trace)
      (.error .threadRoutingConflict)) ∧
    (∀ j k outcome outcome', Admits setup candidates trace j outcome →
      Admits setup candidates trace k outcome' →
      (outcome.aiThreadId = outcome'.aiThreadId ↔
        SameRoute setup.codec (candidates j) outcome (candidates k) outcome')) ∧
    ∀ past future, trace = past ++ future → ∀ k outcome, Admits setup candidates past k outcome →
      ∀ message record, MessageOf (candidates k) message → RecordOf outcome record →
        Agrees setting (Program.stateAfter tables past) (Program.stateAfter tables trace) message record := by
  obtain ⟨hinv, hconflict, htargets⟩ := admissions_targets hv2 hinit h
  refine ⟨hconflict, fun j k outcome outcome' hj hk => ?_, ?_⟩
  · obtain ⟨id, workspaceId, route, thread, htarget⟩ := htargets j outcome hj
    obtain ⟨id', workspaceId', route', thread', htarget'⟩ := htargets k outcome' hk
    exact htarget.same_thread htarget' hinv.unique
  · intro past future hsplit k outcome hpast message record hmessage hrecord
    subst hsplit
    obtain ⟨id', workspaceId', route', thread', htarget'⟩ :=
      htargets k outcome (hpast.of_append h)
    obtain ⟨hinvPast, -, htargetsPast⟩ := admissions_targets hv2 hinit h.of_append
    obtain ⟨id, workspaceId, route, thread, htarget⟩ := htargetsPast k outcome hpast
    obtain ⟨rfl, rfl, hid⟩ := htarget.record_eq hrecord
    obtain ⟨rfl, rfl, -⟩ := htarget'.record_eq hrecord
    refine ⟨⟨thread, htarget.mem, hid, ⟨route.agentProfileId, route.threadPolicy, htarget.profile,
      htarget.policy, ?_⟩, ?_⟩, ?_, ?_⟩
    · intro profile hprofile hrevision
      exact htarget.expectedThreadKey htypes hmessage
        (htarget.profile.trans (congrArg some hprofile.symm)) hrevision
    · exact htarget.workspaceId_eq hinvPast.unique
    · intro facts reason hreads hrejected
      exact htarget.dispatch_not_misdirected htarget' hinvPast.unique hinv.unique htypes hmessage
        hrecord hreads hrejected
    · intro facts response reason hreads hrejected
      exact htarget.response_not_misdirected hinvPast.unique htypes hmessage hrecord hreads
        hrejected

/-! ### Two spellings of an account -/

/-- Two accounts that differ by a separator that `str.strip` removes. -/
def accountOf : Bool → String
  | false => "me"
  | true => "me\x1c"

/-- The same employee writes to both accounts. -/
def accountsAccess : AccessTables where
  identities := [⟨"e1", none, none, .active⟩]
  mappings := [⟨"m1", "wechat", accountOf false, "friend", "e1", true⟩,
    ⟨"m2", "wechat", accountOf true, "friend", "e1", true⟩]
  userPolicies := [⟨"p1", "e1", true, [], [], none, none, 0⟩]
  gatewayPolicies := [⟨"g1", "default", true, [], [], ["low"], 0⟩]

/-- Both conversations have the same profile. -/
def accountsRouting : RoutingTables where
  conversations := [⟨1, "wechat", accountOf false, "friend", "private"⟩,
    ⟨2, "wechat", accountOf true, "friend", "private"⟩]
  agentProfiles := [⟨"a1", "assistant", 1, "hermes", "ref", "model", .active⟩]
  groupTypes := []
  profileBindings := [⟨"b1", 1, "a1"⟩, ⟨"b2", 2, "a1"⟩]
  groupTypeBindings := []

def accountCandidate (k : Bool) : AdmissionCandidate where
  messageId := if k then 2 else 1
  source := "wechat"
  sourceAccountId := accountOf k
  conversationId := "friend"
  conversationType := .privateChat
  senderType := .human
  senderId := some "friend"
  isSelf := false
  isMentioned := none
  messageType := "text"
  requestedScope := []
  requestedSkillIds := []
  riskLevel := .low

def routedSetup : Setup := ⟨constantCodec, fun _ => "", true⟩

/-- The fields both keys have. -/
def accountFields : V2ThreadKeyFields where
  accountId := "me"
  agentProfileId := "a1"
  agentProfileRevision := "1"
  conversationId := "friend"
  conversationType := .privateThread
  platform := "wechat"
  senderIdentityId := some "e1"
  threadPolicy := .privateSender

lemma accountsRouting_fields {type : ThreadType}
    (h : resolveRoute source account conversation type "e1" accountsRouting = .ok route) :
    constantCodec.routeFields route "e1" = accountFields := by
  simp only [resolveRoute, bind_eq_ok] at h
  obtain ⟨row, hrow, _, htype, target, htarget, -, -, h⟩ := h
  have hmem := List.mem_of_find?_eq_some (raiseIfNone_eq_ok.mp hrow)
  cases type with
  | groupThread =>
    rw [accountsRouting, List.mem_cons, List.mem_singleton] at hmem
    rcases hmem with rfl | rfl <;> cases htype
  | privateThread =>
    rw [accountsRouting, List.mem_cons, List.mem_singleton] at hmem
    rcases hmem with rfl | rfl
    · cases htarget
      cases h
      decide
    · cases htarget
      cases h
      decide

/-- One identity, one profile and one key. -/
def accountsSetting : Setting routedSetup.codec where
  identities := {"e1"}
  revision _ := 1
  known := {accountFields}
  unpadded id hid := by
    rw [Set.mem_singleton_iff.mp hid]
    decide
  noCollision a ha b hb _ := by
    rw [Set.mem_singleton_iff.mp ha, Set.mem_singleton_iff.mp hb]

/-- The database of the two admissions. -/
def accountsAnswer : WorkspaceTables → (request : Request) → Reply request × WorkspaceTables :=
  respond (accountsAccess, 0) accountsRouting fun tables =>
    if tables.threads = [] then "first" else "second"

lemma accountsAnswer_step (tables : WorkspaceTables) (request : Request) :
    AdmissionStep accountsSetting tables ⟨request, (accountsAnswer tables request).1⟩
      (accountsAnswer tables request).2 := by
  refine ⟨tables, Disturbed.refl tables, respond_answers _ _ _ tables request, ?_⟩
  cases request with
  | readAccess =>
    intro identity hmem
    rw [List.mem_singleton.mp hmem]
    rfl
  | readRouting =>
    refine ⟨fun profile hmem => ?_, fun source account conversation type id route hid h => ?_⟩
    · rw [List.mem_singleton.mp hmem]
      exact ⟨by decide, rfl⟩
    · obtain rfl := Set.mem_singleton_iff.mp hid
      exact accountsRouting_fields h
  | _ => trivial

/-- One admission runs to its end, and then the other. -/
def accountsTrace : List (Moment Bool WorkspaceTables Request Reply) :=
  inTurn (fun _ => accountsAnswer) (fun k => admitCandidate routedSetup (accountCandidate k))
    ⟨[], [], []⟩ [true, false]

lemma accountsTrace_interleaving :
    Interleaving (AdmissionStep accountsSetting) (fun k => admitCandidate routedSetup (accountCandidate k))
      ⟨[], [], []⟩ accountsTrace :=
  interleaving_inTurn (by decide) fun _ => accountsAnswer_step

/-- What either admission ends with. -/
def accountOutcome (k : Bool) : AdmissionOutcome :=
  let route : ResolvedRoute :=
    { conversationRecordId := if k then 2 else 1
      source := "wechat"
      sourceAccountId := accountOf k
      conversationId := "friend"
      conversationType := .privateThread
      enterpriseIdentityId := "e1"
      groupTypeId := none
      groupTypeKey := none
      agentProfileId := "a1"
      agentProfileKey := "assistant"
      agentProfileReference := "ref"
      agentProfileRevision := 1
      threadPolicy := .privateSender }
  { messageId := if k then 2 else 1
    admitted := true
    shouldCreateTask := true
    reason := .allowed
    enterpriseIdentityId := some "e1"
    workspaceId := some "first"
    aiThreadId := some "first"
    authorization := some ⟨true, .allowed, some "e1", true, none, [], [], .low⟩
    policy := ⟨some "", some "g1", some 0, some "p1", some 0⟩
    route := routingReferences route }

lemma accountsTrace_admits (k : Bool) :
    Admits routedSetup accountCandidate accountsTrace k (accountOutcome k) := by
  refine ⟨?_, by cases k <;> rfl⟩
  cases k with
  | false =>
    have hresult : ((admitCandidate routedSetup (accountCandidate false)).exec accountsAnswer
        ⟨[], [], []⟩).2.2 = .ok (accountOutcome false) := by decide +kernel
    rw [accountsTrace, eventsOf_inTurn_of_ne (by decide), eventsOf_inTurn List.not_mem_nil, ← hresult]
    exact exec_returns accountsAnswer _ _
  | true =>
    have hresult : ((admitCandidate routedSetup (accountCandidate true)).exec accountsAnswer
        (Program.stateAfter ⟨[], [], []⟩ (inTurn (fun _ => accountsAnswer)
          (fun k => admitCandidate routedSetup (accountCandidate k)) ⟨[], [], []⟩ [false]))).2.2 =
        .ok (accountOutcome true) := by decide +kernel
    rw [accountsTrace, eventsOf_inTurn (by decide), ← hresult]
    exact exec_returns accountsAnswer _ _

/-- Messages to two accounts share a private thread: the accounts differ, but not after
`str.strip`. -/
theorem padded_accounts_share_thread :
    Interleaving (AdmissionStep accountsSetting) (fun k => admitCandidate routedSetup (accountCandidate k))
        ⟨[], [], []⟩ accountsTrace ∧
      Admits routedSetup accountCandidate accountsTrace false (accountOutcome false) ∧
      Admits routedSetup accountCandidate accountsTrace true (accountOutcome true) ∧
      (accountOutcome false).aiThreadId = (accountOutcome true).aiThreadId ∧
      (accountCandidate false).sourceAccountId ≠ (accountCandidate true).sourceAccountId :=
  ⟨accountsTrace_interleaving, accountsTrace_admits false, accountsTrace_admits true, rfl,
    by decide⟩

lemma routedTables_empty (setting : Setting codec) :
    RoutedTables setting ⟨[], [], []⟩ where
  unique := ⟨List.nodup_nil, List.nodup_nil, List.nodup_nil, List.nodup_nil, List.nodup_nil⟩
  threads _ hmem := absurd hmem List.not_mem_nil

/-- They share it because they agree on everything else. -/
theorem padded_accounts_same_route :
    (accountOutcome false).aiThreadId = (accountOutcome true).aiThreadId ↔
      SameRoute routedSetup.codec (accountCandidate false) (accountOutcome false)
        (accountCandidate true) (accountOutcome true) :=
  (routed_admissions_agree routedSetup rfl accountsSetting ⟨rfl, rfl⟩ accountCandidate
    ⟨[], [], []⟩ (routedTables_empty accountsSetting) accountsTrace
    accountsTrace_interleaving).2.1 false true _ _ (accountsTrace_admits false)
    (accountsTrace_admits true)

end AgentGateway.Admission
