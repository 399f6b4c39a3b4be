import AgentGateway.Admission.Targets
import AgentGateway.Workspace.Bound

/-!
# Targets of private messages without routing

Any number of admissions of private messages without routing take turns. The thread of an admitted
message is the one its conversation is bound to, with the key of the conversation, so that a dispatch
finds the binding. The workspace of the thread is another matter: the thread belongs to the identity
whose admission has created it, and the admitted workspace to the identity of the sender.
-/

namespace AgentGateway.Admission

open Lib Lib.Program Lib.Program.Contract Access Workspace
open AgentGateway.Dispatch (AIThread EmployeeWorkspace ThreadType DispatchMessage DispatchFacts
  HermesDispatchRecord)

/-! ## Owners of a key -/

/-- The key of the private conversation of a candidate. -/
def AdmissionCandidate.privateKey (candidate : AdmissionCandidate) : ThreadKeyInput :=
  privateKeyInput candidate.source candidate.sourceAccountId candidate.conversationId

/-- A private message as the message schema stores it, without white space around its columns. -/
structure PrivateMessage (candidate : AdmissionCandidate) : Prop where
  type : candidate.conversationType = .privateChat
  source : trim candidate.source = candidate.source
  account : trim candidate.sourceAccountId = candidate.sourceAccountId
  conversation : trim candidate.conversationId = candidate.conversationId

/-- The identifiers of the identities that are read have no surrounding white space. -/
def Unpadded : AdmitEvent → Prop
  | ⟨.readAccess, read⟩ => ∀ identity ∈ read.1.identities, strip identity.id = identity.id
  | _ => True

/-- By this read of the policies, the candidate is allowed as this identity, and this is the key of
its conversation. -/
def AuthorizedFor (codec : KeyCodec) (candidate : AdmissionCandidate) (key id : String) :
    AdmitEvent → Prop
  | ⟨.readAccess, read⟩ => codec.buildThreadKey candidate.privateKey = .ok key ∧
    ∃ evaluation, evaluate candidate read.1 read.2 = .ok evaluation ∧
      evaluation.authorization.allowed = true ∧
      evaluation.authorization.enterpriseIdentityId = some id
  | _ => False

/-- The thread of the key is in a workspace of this identity. -/
def OwnsThread (tables : WorkspaceTables) (key id : String) : Prop :=
  ∃ thread ∈ tables.threads, thread.threadKey = key ∧ HasWorkspace (thread.workspaceId, id) tables

/-- The statement has created the thread of the key. -/
def CreatesThread (key : String) : AdmitEvent → Prop
  | ⟨.insertThread row, committed⟩ => committed = true ∧ row.threadKey = key
  | _ => False

section

variable {κ : Type} (codec : KeyCodec) (candidates : κ → AdmissionCandidate)
  (trace : List (Moment κ WorkspaceTables Request Reply))

/-- The admission was authorized as this identity when it read the policies, which it does once and
before it looks for the thread. -/
def AuthorizedAs (k : κ) (key id : String) : Prop :=
  ∃ moment ∈ trace, moment.who = k ∧ AuthorizedFor codec (candidates k) key id moment.event

/-- The identity had the thread of the key before the run, or the admission that has created it was
authorized as this identity. -/
def Owner (tables : WorkspaceTables) (key id : String) : Prop :=
  OwnsThread tables key id ∨ ∃ moment ∈ trace, CreatesThread key moment.event ∧
    AuthorizedAs codec candidates trace moment.who key id

end

/-! ## What an admission ends with -/

/-- The target of an admitted private message. -/
structure BoundTarget (codec : KeyCodec) (owns : String → String → Prop)
    (candidate : AdmissionCandidate) (outcome : AdmissionOutcome) (tables : WorkspaceTables)
    (id workspaceId : String) (thread : AIThread) : Prop
    extends Target candidate outcome tables id workspaceId thread where
  type : thread.threadType = .privateThread
  unrouted : thread.agentProfileId = none ∧ thread.threadPolicy = none
  key : codec.buildThreadKey candidate.privateKey = .ok thread.threadKey
  binding : ∃ binding ∈ tables.bindings, binding.aiThreadId = thread.id ∧
    binding.Binds (trim candidate.source) (trim candidate.sourceAccountId)
      (trim candidate.conversationId)
  owner : ∃ id', owns thread.threadKey id' ∧ HasWorkspace (thread.workspaceId, id') tables

/-- What an admission may read and do: it is authorized as these identities only, and those own the
thread that it creates. -/
structure OwnEvents (codec : KeyCodec) (owns granted : String → String → Prop)
    (candidate : AdmissionCandidate) (event : AdmitEvent) : Prop where
  unpadded : Unpadded event
  authorized : ∀ key id, AuthorizedFor codec candidate key id event → granted key id
  created : ∀ key id, CreatesThread key event → granted key id → owns key id

section

variable {setup : Setup} {owns granted : String → String → Prop} {own : AdmitEvent → Prop}
  {candidate : AdmissionCandidate} {s : WorkspaceTables}

lemma bound_admitV1 {evaluation : Evaluation} {id : String}
    (hprivate : candidate.conversationType = .privateChat) (hid : strip id = id)
    (howns : ∀ key, setup.codec.buildThreadKey candidate.privateKey = .ok key →
      OwnsCreated owns own key id) :
    (admissions (BoundTables setup.codec owns) own).SafeOk (fun _ => True)
      (fun outcome u => ∃ workspaceId thread,
        BoundTarget setup.codec owns candidate outcome u id workspaceId thread)
      (admitV1 setup candidate evaluation id) s := by
  have hsteady := boundTables_steady setup.codec owns
  unfold admitV1
  refine SafeOk.andThen (hsteady.ensureWorkspaceForAuthorizedIdentity (fun _ _ => trivial) id)
    fun workspace u _ _ hworkspace => ?_
  have hthread : (admissions (BoundTables setup.codec owns) own).SafeOk (fun _ => True)
      (fun thread u => BoundThread setup.codec ⟨id, trim candidate.source,
        trim candidate.sourceAccountId, trim candidate.conversationId, .privateThread,
        trim (candidate.senderId.getD "")⟩ thread u)
      (ensureThreadForAuthorizedRequest setup.codec id candidate.source candidate.sourceAccountId
        candidate.conversationId (threadTypeOf candidate.conversationType)
        (candidate.senderId.getD "")) u := by
    rw [hprivate]
    unfold ensureThreadForAuthorizedRequest
    refine SafeOk.andThen (safeOk_checked fun _ => trivial) fun request v _ _ hrequest => ?_
    rw [authorizedThreadRequest_eq_ok hrequest, trim_eq_self hid]
    exact bound_ensureThreadForRequest rfl fun key hkey => howns key (buildThreadKey_trim ▸ hkey)
  refine SafeOk.andThen hthread fun thread v hv _ hbound => ?_
  refine safeOk_give fun w hw hinv => ?_
  obtain ⟨hkey, htype, ⟨later, hmem, hlater⟩, binding, ⟨hbinding, hbinds⟩, htarget⟩ :=
    hbound.of_kept hw
  refine ⟨workspace.id, later, {
    message := rfl
    identity := rfl
    workspace := rfl
    hasWorkspace := (hworkspace.of_kept hv).of_kept hw
    target := congrArg some hlater.id.symm
    mem := hmem
    type := hlater.threadType.trans htype
    unrouted := hinv.unrouted later hmem
    key := ?_
    binding := ⟨binding, hbinding, htarget.trans hlater.id.symm, hbinds⟩
    owner := hinv.owned later hmem }⟩
  rw [hlater.threadKey, ← hkey]
  exact buildThreadKey_trim.symm

lemma bound_admitCandidate (hv1 : setup.v2RoutingEnabled = false)
    (hprivate : candidate.conversationType = .privateChat) :
    (admissions (BoundTables setup.codec owns)
      (OwnEvents setup.codec owns granted candidate)).SafeOk (fun _ => True)
      (fun outcome u => outcome.admitted = true → ∃ id workspaceId thread,
        BoundTarget setup.codec owns candidate outcome u id workspaceId thread)
      (admitCandidate setup candidate) s := by
  refine safeOk_admitCandidate (boundTables_steady setup.codec owns) trivial
    fun read evaluation u identity hidentity hread hevaluate hallowed hid => ?_
  rw [if_neg (by simp [hv1])]
  refine (bound_admitV1 hprivate (hread.unpadded identity hidentity) fun key hkey row hrow hsame =>
    hrow.created key identity.id ⟨rfl, hsame⟩ ?_).mono fun outcome w _ _ htarget _ => htarget
  exact hread.authorized key identity.id ⟨hkey, evaluation, hevaluate, hallowed, hid⟩

end

/-! ## Dispatches -/

/-- What a dispatch of the message reads when the tables are these. -/
structure BoundReads (tables : WorkspaceTables) (message : DispatchMessage)
    (record : HermesDispatchRecord) (facts : DispatchFacts) : Prop where
  thread : facts.thread = tables.threads.find? fun row => row.id = record.aiThreadId
  binding : facts.sourceBindingThreadId = (tables.bindings.find? fun row =>
    row.Binds message.source message.sourceAccountId message.conversationId).map
      ThreadSourceBinding.aiThreadId

section

variable {codec : KeyCodec} {owns : String → String → Prop} {candidate : AdmissionCandidate}
  {outcome : AdmissionOutcome} {tables tables' : WorkspaceTables} {id workspaceId : String}
  {thread thread' : AIThread} {message : DispatchMessage} {record : HermesDispatchRecord}

section Bound

variable (h : BoundTarget codec owns candidate outcome tables id workspaceId thread)

include h

/-- If nobody else owns the key, the thread is in the admitted workspace. -/
lemma BoundTarget.workspaceId_eq (hunique : Unique tables)
    (hsole : ∀ id', owns thread.threadKey id' → id' = id) : thread.workspaceId = workspaceId := by
  obtain ⟨id', howns, hworkspace⟩ := h.owner
  obtain rfl := hsole id' howns
  exact hunique.workspace_id_eq hworkspace h.hasWorkspace

/-- The conversation of the message is bound once, to the thread. -/
lemma BoundTarget.unique_binding (hunique : Unique tables) (hcandidate : PrivateMessage candidate)
    (hmessage : MessageOf candidate message) :
    ∃ binding ∈ tables.bindings, binding.aiThreadId = thread.id ∧ ∀ other ∈ tables.bindings,
      other.Binds message.source message.sourceAccountId message.conversationId ↔
        other = binding := by
  obtain ⟨binding, hmem, htarget, hbinds⟩ := h.binding
  rw [hcandidate.source, hcandidate.account, hcandidate.conversation, ← hmessage.source,
    ← hmessage.account, ← hmessage.conversation] at hbinds
  refine ⟨binding, hmem, htarget, fun other hother => ⟨fun hsame => ?_, ?_⟩⟩
  · refine hunique.bindingFacts.eq_of_key_eq hother hmem ?_
    show (other.platform, other.accountId, other.physicalConversationId) =
      (binding.platform, binding.accountId, binding.physicalConversationId)
    rw [hsame.1, hsame.2.1, hsame.2.2, hbinds.1, hbinds.2.1, hbinds.2.2]
  · rintro rfl
    exact hbinds

/-- The binding that is found by the columns of the message is to the thread. -/
lemma BoundTarget.find?_binding (hunique : Unique tables) (hcandidate : PrivateMessage candidate)
    (hmessage : MessageOf candidate message) :
    ∃ binding, binding.aiThreadId = thread.id ∧ tables.bindings.find? (fun row =>
      row.Binds message.source message.sourceAccountId message.conversationId) = some binding := by
  obtain ⟨binding, hmem, htarget, hsame⟩ := h.unique_binding hunique hcandidate hmessage
  refine ⟨binding, htarget, ?_⟩
  cases hfind : tables.bindings.find? (fun row =>
      row.Binds message.source message.sourceAccountId message.conversationId) with
  | none =>
    exact absurd (decide_eq_true ((hsame binding hmem).mpr rfl))
      (List.find?_eq_none.mp hfind binding hmem)
  | some other =>
    have hother : other.Binds message.source message.sourceAccountId message.conversationId := by
      simpa using List.find?_some hfind
    rw [(hsame other (List.mem_of_find?_eq_some hfind)).mp hother]

/-- The grounds on which a dispatch can still be rejected. -/
lemma BoundTarget.rejection
    (h' : BoundTarget codec owns candidate outcome tables' id workspaceId thread')
    (hunique : Unique tables) (hunique' : Unique tables') (hcandidate : PrivateMessage candidate)
    (hmessage : MessageOf candidate message) (hrecord : RecordOf outcome record)
    {facts : DispatchFacts} (hreads : BoundReads tables message record facts) {reason : String}
    (hrejected : (Dispatch.prepareDispatch facts record tables'.threads).2 =
      .error (.dispatchError reason)) :
    reason = "ai_thread_workspace_mismatch" ∧
        (thread.workspaceId ≠ workspaceId ∨ thread'.workspaceId ≠ workspaceId) ∨
      reason ∈ Response.otherReasons := by
  obtain ⟨rfl, rfl, -⟩ := h.record_eq hrecord
  have hread : ∀ row, facts.thread = some row → row = thread := by
    intro row hrow
    exact h.eq_of_find hunique hrecord (hreads.thread.symm.trans hrow)
  have hbinding : facts.sourceBindingThreadId = some thread.id := by
    obtain ⟨binding, htarget, hfind⟩ := h.find?_binding hunique hcandidate hmessage
    rw [hreads.binding, hfind]
    exact congrArg some htarget
  cases Response.rejection_prepareDispatch hrejected with
  | @workspace row hrow htype hne =>
    refine Or.inl ⟨rfl, ?_⟩
    rcases hrow with hrow | hrow
    · obtain rfl := hread row hrow
      exact Or.inl hne
    · obtain rfl := h'.eq_of_find hunique' hrecord hrow
      exact Or.inr hne
  | unbound _ _ _ hnone =>
    rw [hbinding] at hnone
    cases hnone
  | @bound row other hrow _ _ hother hne =>
    obtain rfl := hread row hrow
    rw [hbinding] at hother
    exact absurd (Option.some.inj hother).symm hne
  | @key row profileId policy profile hrow hprofile =>
    obtain rfl := hread row hrow
    rw [h.unrouted.1] at hprofile
    cases hprofile
  | other hother => exact Or.inr hother

end Bound

end

/-! ## Any number of admissions -/

/-- A private message can be dispatched to the thread it was admitted to: the thread has the key of
the conversation, and the only binding of the conversation is to it. It is in the admitted workspace
if nobody else owns the key. -/
structure Dispatchable (codec : KeyCodec) (owns : String → String → Prop)
    (tables tables' : WorkspaceTables) (message : DispatchMessage) (record : HermesDispatchRecord) :
    Prop where
  thread : ∃ thread ∈ tables.threads, thread.id = record.aiThreadId ∧
    codec.buildThreadKey (privateKeyInput message.source message.sourceAccountId
      message.conversationId) = .ok thread.threadKey ∧
    (∃ binding ∈ tables.bindings, binding.aiThreadId = thread.id ∧
      ∀ other ∈ tables.bindings,
        other.Binds message.source message.sourceAccountId message.conversationId ↔
          other = binding) ∧
    ((∀ id, owns thread.threadKey id → id = record.enterpriseIdentityId) →
      thread.workspaceId = record.workspaceId)
  dispatch : ∀ facts reason, BoundReads tables message record facts →
    (Dispatch.prepareDispatch facts record tables'.threads).2 = .error (.dispatchError reason) →
    reason ≠ "source_binding_not_found" ∧ reason ≠ "message_thread_mismatch" ∧
      ((∀ key, codec.buildThreadKey (privateKeyInput message.source message.sourceAccountId
          message.conversationId) = .ok key →
          ∀ id, owns key id → id = record.enterpriseIdentityId) →
        reason ≠ "ai_thread_workspace_mismatch")

/-- The targets of all messages that have been admitted. -/
lemma private_targets {κ : Type} [DecidableEq κ] {setup : Setup}
    (hv1 : setup.v2RoutingEnabled = false) {owns : String → String → Prop}
    {granted : κ → String → String → Prop} {candidates : κ → AdmissionCandidate}
    (hcandidates : ∀ k, PrivateMessage (candidates k)) {tables : WorkspaceTables}
    (hinit : BoundTables setup.codec owns tables)
    {trace : List (Moment κ WorkspaceTables Request Reply)}
    (h : Interleaving PrivateStep (fun k => admitCandidate setup (candidates k)) tables trace)
    (hown : ∀ moment ∈ trace, OwnEvents setup.codec owns (granted moment.who)
      (candidates moment.who) moment.event) :
    BoundTables setup.codec owns (Program.stateAfter tables trace) ∧
      ∀ k outcome, Admits setup candidates trace k outcome → ∃ id workspaceId thread,
        BoundTarget setup.codec owns (candidates k) outcome (Program.stateAfter tables trace) id workspaceId
          thread := by
  obtain ⟨hinv, -, htargets⟩ := admissions_run (boundTables_steady setup.codec owns)
    (fun k => OwnEvents setup.codec owns (granted k) (candidates k)) hinit h hown
    fun k => bound_admitCandidate hv1 (hcandidates k).type
  exact ⟨hinv, fun k outcome hadmits => htargets k outcome hadmits.1 hadmits.2⟩

/-- In every run of any number of admissions of private messages without routing, every admitted
message has the thread of its key, which the only binding of its conversation names, and no dispatch
is rejected because of the binding. If the thread was created as the identity of the message, it is in
the admitted workspace, and no dispatch is rejected because of the workspace either. -/
theorem private_admissions_dispatchable {κ : Type} [DecidableEq κ] (setup : Setup)
    (hv1 : setup.v2RoutingEnabled = false) (candidates : κ → AdmissionCandidate)
    (hcandidates : ∀ k, PrivateMessage (candidates k)) (tables : WorkspaceTables)
    (hinit : BoundTables setup.codec (OwnsThread tables) tables)
    (trace : List (Moment κ WorkspaceTables Request Reply))
    (h : Interleaving PrivateStep (fun k => admitCandidate setup (candidates k)) tables trace)
    (hids : ∀ moment ∈ trace, Unpadded moment.event) :
    ∀ past future, trace = past ++ future → ∀ k outcome, Admits setup candidates past k outcome →
      ∀ message record, MessageOf (candidates k) message → RecordOf outcome record →
        Dispatchable setup.codec (Owner setup.codec candidates trace tables)
          (Program.stateAfter tables past) (Program.stateAfter tables trace) message record := by
  intro past future hsplit k outcome hpast message record hmessage hrecord
  have hinit' : BoundTables setup.codec (Owner setup.codec candidates trace tables) tables :=
    hinit.mono fun key id howns => Or.inl howns
  have hown : ∀ moment ∈ trace, OwnEvents setup.codec (Owner setup.codec candidates trace tables)
      (AuthorizedAs setup.codec candidates trace moment.who) (candidates moment.who) moment.event :=
    fun moment hmem => ⟨hids moment hmem, fun key id hid => ⟨moment, hmem, rfl, hid⟩,
      fun key id hcreates hid => Or.inr ⟨moment, hmem, hcreates, hid⟩⟩
  generalize Owner setup.codec candidates trace tables = owns at hinit' hown ⊢
  generalize AuthorizedAs setup.codec candidates trace = granted at hown
  subst hsplit
  obtain ⟨hinv, htargets⟩ := private_targets hv1 hcandidates hinit' h hown
  obtain ⟨id', workspaceId', thread', htarget'⟩ := htargets k outcome (hpast.of_append h)
  obtain ⟨hinvPast, htargetsPast⟩ := private_targets hv1 hcandidates hinit' h.of_append
    fun moment hmem => hown moment (List.mem_append_left _ hmem)
  obtain ⟨id, workspaceId, thread, htarget⟩ := htargetsPast k outcome hpast
  obtain ⟨rfl, rfl, hid⟩ := htarget.record_eq hrecord
  obtain ⟨rfl, rfl, -⟩ := htarget'.record_eq hrecord
  have hkey : privateKeyInput message.source message.sourceAccountId message.conversationId =
      (candidates k).privateKey := by
    rw [hmessage.source, hmessage.account, hmessage.conversation]
    rfl
  refine ⟨⟨thread, htarget.mem, hid, ?_, ?_, ?_⟩, ?_⟩
  · rw [hkey]
    exact htarget.key
  · exact htarget.unique_binding hinvPast.unique (hcandidates k) hmessage
  · exact htarget.workspaceId_eq hinvPast.unique
  · intro facts reason hreads hrejected
    rcases htarget.rejection htarget' hinvPast.unique hinv.unique (hcandidates k) hmessage hrecord
      hreads hrejected with ⟨rfl, hne⟩ | hother
    · refine ⟨by decide, by decide, fun hsole => ?_⟩
      rw [hkey] at hsole
      rcases hne with hne | hne
      · exact absurd (htarget.workspaceId_eq hinvPast.unique (hsole _ htarget.key)) hne
      · exact absurd (htarget'.workspaceId_eq hinv.unique (hsole _ htarget'.key)) hne
    · refine ⟨?_, ?_, fun _ => ?_⟩ <;> rintro rfl <;> exact absurd hother (by decide)

/-! ### Two senders of one conversation -/

/-- The account knows two senders, with an identity each. -/
def sendersAccess : AccessTables where
  identities := [⟨"e1", none, none, .active⟩, ⟨"e2", none, none, .active⟩]
  mappings := [⟨"m1", "wechat", "me", "friend", "e1", true⟩,
    ⟨"m2", "wechat", "me", "other", "e2", true⟩]
  userPolicies := [⟨"p1", "e1", true, [], [], none, none, 0⟩,
    ⟨"p2", "e2", true, [], [], none, none, 0⟩]
  gatewayPolicies := [⟨"g1", "default", true, [], [], ["low"], 0⟩]

/-- Each of them writes to the same private conversation. -/
def senderCandidate (k : Bool) : AdmissionCandidate :=
  { accountCandidate false with
    messageId := if k then 2 else 1
    senderId := some (if k then "other" else "friend") }

def sendersAnswer : WorkspaceTables → (request : Request) → Reply request × WorkspaceTables :=
  respond (sendersAccess, 0) ⟨[], [], [], [], []⟩ fun tables =>
    if tables.threads = [] then "first" else "second"

/-- The tables and the statements after these admissions. -/
def sendersTrace (turns : List Bool) : List (Moment Bool WorkspaceTables Request Reply) :=
  inTurn (fun _ => sendersAnswer) (fun k => admitCandidate plainSetup (senderCandidate k))
    ⟨[], [], []⟩ turns

/-- The tables after both messages have been admitted, one after the other. -/
def sendersTables : WorkspaceTables := Program.stateAfter ⟨[], [], []⟩ (sendersTrace [true, false])

lemma sendersTrace_run :
    Interleaving (fun tables event tables' => PrivateStep tables event tables' ∧ Unpadded event)
      (fun k => admitCandidate plainSetup (senderCandidate k)) ⟨[], [], []⟩
      (sendersTrace [true, false]) := by
  refine interleaving_inTurn (by decide) fun k tables request => ?_
  refine ⟨⟨tables, Disturbed.refl tables, respond_answers _ _ _ tables request⟩, ?_⟩
  cases request with
  | readAccess =>
    show ∀ identity ∈ sendersAccess.identities, strip identity.id = identity.id
    decide
  | _ => trivial

lemma sendersTrace_interleaving :
    Interleaving PrivateStep (fun k => admitCandidate plainSetup (senderCandidate k)) ⟨[], [], []⟩
      (sendersTrace [true, false]) :=
  sendersTrace_run.weaken fun _ _ _ h => h.1

/-- What either admission ends with: the workspace of the second is new, the thread is not. -/
def senderOutcome (k : Bool) : AdmissionOutcome where
  messageId := if k then 2 else 1
  admitted := true
  shouldCreateTask := true
  reason := .allowed
  enterpriseIdentityId := some (if k then "e2" else "e1")
  workspaceId := some (if k then "second" else "first")
  aiThreadId := some "first"
  authorization := some ⟨true, .allowed, some (if k then "e2" else "e1"), true, none, [], [], .low⟩
  policy := ⟨some "", some "g1", some 0, some (if k then "p2" else "p1"), some 0⟩
  route := .empty "v1"

lemma sendersTrace_admits (k : Bool) :
    Admits plainSetup senderCandidate (sendersTrace [true, false]) k (senderOutcome k) := by
  refine ⟨?_, by cases k <;> rfl⟩
  cases k with
  | false =>
    have hresult : ((admitCandidate plainSetup (senderCandidate false)).exec sendersAnswer
        ⟨[], [], []⟩).2.2 = .ok (senderOutcome false) := by decide +kernel
    rw [sendersTrace, eventsOf_inTurn_of_ne (by decide), eventsOf_inTurn List.not_mem_nil, ← hresult]
    exact exec_returns sendersAnswer _ _
  | true =>
    have hresult : ((admitCandidate plainSetup (senderCandidate true)).exec sendersAnswer
        (Program.stateAfter ⟨[], [], []⟩ (sendersTrace [false]))).2.2 = .ok (senderOutcome true) := by
      decide +kernel
    rw [sendersTrace, eventsOf_inTurn (by decide), ← hresult]
    exact exec_returns sendersAnswer _ _

def senderMessage (k : Bool) : DispatchMessage :=
  ⟨if k then 2 else 1, "wechat", "me", "friend", "private", some (if k then "other" else "friend"),
    "hi"⟩

lemma senderMessage_of (k : Bool) : MessageOf (senderCandidate k) (senderMessage k) := by
  cases k <;> exact ⟨rfl, rfl, rfl, rfl, rfl⟩

/-- The claimed dispatch record of either message. -/
def senderRecord (k : Bool) : HermesDispatchRecord :=
  { Dispatch.newRecord ⟨if k then 2 else 1, if k then "e2" else "e1",
      if k then "second" else "first", "first"⟩ 1 0 with
    status := .running
    claimToken := some "token" }

lemma senderRecord_of (k : Bool) : RecordOf (senderOutcome k) (senderRecord k) := by
  cases k <;> exact ⟨rfl, rfl, rfl, rfl⟩

/-- What the dispatch of the second message reads from these tables. -/
def senderFacts (tables : WorkspaceTables) : DispatchFacts where
  message := some (senderMessage true)
  thread := tables.threads.find? fun row => row.id = "first"
  workspace := tables.workspaces.find? fun row => row.id = "second"
  sourceBindingThreadId := (tables.bindings.find? fun row => row.Binds "wechat" "me" "friend").map
    ThreadSourceBinding.aiThreadId
  profile := none
  expectedThreadKey := ""
  contextAvailable := false
  availableTools := []

/-- A message is admitted and then rejected at every dispatch, although everything is active: the
thread of the conversation is in the workspace of the sender who wrote first. -/
theorem second_sender_not_dispatched :
    Interleaving PrivateStep (fun k => admitCandidate plainSetup (senderCandidate k)) ⟨[], [], []⟩
        (sendersTrace [true, false]) ∧
      Admits plainSetup senderCandidate (sendersTrace [true, false]) true (senderOutcome true) ∧
      MessageOf (senderCandidate true) (senderMessage true) ∧
      RecordOf (senderOutcome true) (senderRecord true) ∧
      BoundReads sendersTables (senderMessage true) (senderRecord true) (senderFacts sendersTables) ∧
      (Dispatch.prepareDispatch (senderFacts sendersTables) (senderRecord true)
        sendersTables.threads).2 = .error (.dispatchError "ai_thread_workspace_mismatch") :=
  ⟨sendersTrace_interleaving, sendersTrace_admits true, senderMessage_of true, senderRecord_of true,
    ⟨rfl, rfl⟩, by decide +kernel⟩

lemma boundTables_empty (codec : KeyCodec) (owns : String → String → Prop) :
    BoundTables codec owns ⟨[], [], []⟩ where
  unique := ⟨List.nodup_nil, List.nodup_nil, List.nodup_nil, List.nodup_nil, List.nodup_nil⟩
  unrouted _ hmem := absurd hmem List.not_mem_nil
  owned _ hmem := absurd hmem List.not_mem_nil
  bound _ hmem := absurd hmem List.not_mem_nil

/-- The identities that an event can authorize. -/
def authorizedId? (candidate : AdmissionCandidate) : AdmitEvent → Option String
  | ⟨.readAccess, read⟩ => (evaluate candidate read.1 read.2).toOption.bind
      (·.authorization.enterpriseIdentityId)
  | _ => none

lemma AuthorizedFor.authorizedId?_eq {codec : KeyCodec} {candidate : AdmissionCandidate}
    {key id : String} : ∀ {event : AdmitEvent}, AuthorizedFor codec candidate key id event →
      authorizedId? candidate event = some id
  | ⟨.readAccess, read⟩, ⟨_, evaluation, hevaluate, _, hid⟩ => by
    rw [authorizedId?, hevaluate]
    exact hid

/-- The first sender owns the key, and nobody else does. -/
lemma sendersTrace_owner {key id : String}
    (h : Owner plainSetup.codec senderCandidate (sendersTrace [true, false]) ⟨[], [], []⟩ key id) :
    id = "e1" := by
  -- the second admission creates no thread
  have hcreator : ∀ moment ∈ sendersTrace [true, false],
      (moment.event.1 matches .insertThread _) → moment.who = false := by
    decide +kernel
  have hread : ∀ moment ∈ sendersTrace [true, false], moment.who = false →
      authorizedId? (senderCandidate false) moment.event ∈ [none, some "e1"] := by
    decide +kernel
  rcases h with ⟨thread, hmem, -⟩ | ⟨moment, hmem, hcreates, read, hreadMem, hwho, hauthorized⟩
  · cases hmem
  · have hfalse : moment.who = false := by
      refine hcreator moment hmem ?_
      generalize moment.event = event at hcreates ⊢
      obtain ⟨request, reply⟩ := event
      cases request <;> first | rfl | exact hcreates.elim
    rw [hfalse] at hwho hauthorized
    have hid := hread read hreadMem hwho
    rw [hauthorized.authorizedId?_eq] at hid
    simpa using hid

/-- The binding is found for both messages, and the workspace is right for the first. -/
theorem first_sender_dispatchable :
    (∀ k, Dispatchable plainSetup.codec
      (Owner plainSetup.codec senderCandidate (sendersTrace [true, false]) ⟨[], [], []⟩)
      sendersTables sendersTables (senderMessage k) (senderRecord k)) ∧
    ∀ facts reason, BoundReads sendersTables (senderMessage false) (senderRecord false) facts →
      (Dispatch.prepareDispatch facts (senderRecord false) sendersTables.threads).2 =
        .error (.dispatchError reason) → reason ≠ "ai_thread_workspace_mismatch" := by
  have hcandidates : ∀ k, PrivateMessage (senderCandidate k) := by
    intro k
    cases k <;> exact ⟨rfl, by decide, by decide, by decide⟩
  have hdispatchable := fun k => private_admissions_dispatchable plainSetup rfl senderCandidate
    hcandidates ⟨[], [], []⟩ (boundTables_empty _ _) (sendersTrace [true, false])
    sendersTrace_interleaving (sendersTrace_run.forall_event fun _ _ _ h => h.2)
    (sendersTrace [true, false]) [] (by simp) k (senderOutcome k) (sendersTrace_admits k) _ _
    (senderMessage_of k) (senderRecord_of k)
  refine ⟨hdispatchable, fun facts reason hreads hrejected => ?_⟩
  exact ((hdispatchable false).dispatch facts reason hreads hrejected).2.2
    fun key _ id howner => sendersTrace_owner howner

end AgentGateway.Admission
