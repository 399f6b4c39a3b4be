import AgentGateway.Workspace.Database

/-!
# Threads of bound conversations

What admissions of private messages without routing keep true of the workspace tables, however many
of them take turns: a conversation is bound to the thread of its key. The binding is looked up before
the thread, and whoever finds no binding looks the thread up by its key, so that two admissions of
one conversation never bind it to different threads and nothing has to be discarded.

The workspace of a thread is that of the identity whose admission has created it. `owns` is any
relation between keys and identities that contains those.
-/

namespace AgentGateway.Workspace

open Lib Lib.Table Lib.Program Lib.Program.Contract
open AgentGateway.Dispatch (AIThread ThreadType)

/-! ## Keys -/

/-- The arguments of the key of a private conversation. -/
def privateKeyInput (platform accountId physicalConversationId : String) : ThreadKeyInput :=
  ⟨platform, accountId, physicalConversationId, .member .privateThread⟩

/-- A required text is trimmed anyway. -/
lemma required_trim {value fieldName : String} :
    required (some (trim value)) fieldName = required (some value) fieldName := by
  simp only [required, isBlank_trim, strip_trim]

variable {platform account conversation : String}

/-- Trimming makes no difference to a key, which strips its texts itself. -/
lemma buildThreadKey_trim {codec : KeyCodec} :
    codec.buildThreadKey (privateKeyInput (trim platform) (trim account) (trim conversation)) =
      codec.buildThreadKey (privateKeyInput platform account conversation) := by
  simp only [KeyCodec.buildThreadKey, KeyCodec.threadKeyFields, privateKeyInput, required_trim]

variable {id : String}

/-- The texts of a valid request are trimmed. -/
lemma authorizedThreadRequest_eq_ok {sender : String} {type : ThreadType}
    {request : AuthorizedThreadRequest}
    (h : authorizedThreadRequest id platform account conversation type sender = .ok request) :
    request = ⟨trim id, trim platform, trim account, trim conversation, type, trim sender⟩ := by
  simp only [authorizedThreadRequest, bind_eq_ok, constrStr_eq_ok] at h
  obtain ⟨_, ⟨-, -, rfl⟩, _, ⟨-, -, rfl⟩, _, ⟨-, -, rfl⟩, _, ⟨-, -, rfl⟩, _, ⟨-, -, rfl⟩, h⟩ := h
  cases h
  rfl

/-! ## The invariant -/

/-- A conversation is bound to this thread, which has its key. -/
structure Bound (codec : KeyCodec) (binding : ThreadSourceBinding) (thread : AIThread) : Prop where
  target : thread.id = binding.aiThreadId
  type : thread.threadType = .privateThread
  key : codec.buildThreadKey (privateKeyInput binding.platform binding.accountId
    binding.physicalConversationId) = .ok thread.threadKey

/-- Threads have no route and a workspace of an identity that owns their key, and every binding is
to the thread of its key. -/
structure BoundTables (codec : KeyCodec) (owns : String → String → Prop) (tables : WorkspaceTables) :
    Prop where
  unique : Unique tables
  unrouted : ∀ thread ∈ tables.threads, thread.agentProfileId = none ∧ thread.threadPolicy = none
  owned : ∀ thread ∈ tables.threads, ∃ id, owns thread.threadKey id ∧
    HasWorkspace (thread.workspaceId, id) tables
  bound : ∀ binding ∈ tables.bindings, ∃ thread ∈ tables.threads, Bound codec binding thread

section

variable {codec : KeyCodec} {owns owns' : String → String → Prop}
  {tables tables' : WorkspaceTables} {binding : ThreadSourceBinding} {thread thread' : AIThread}

lemma Bound.of_kept (h : Bound codec binding thread) (hkept : ThreadKept thread thread') :
    Bound codec binding thread' :=
  ⟨hkept.id.trans h.target, hkept.threadType.trans h.type, by rw [hkept.threadKey]; exact h.key⟩

/-- More grants leave the tables bound. -/
lemma BoundTables.mono (h : BoundTables codec owns tables)
    (howns : ∀ key id, owns key id → owns' key id) : BoundTables codec owns' tables where
  unique := h.unique
  unrouted := h.unrouted
  owned thread hmem := by
    obtain ⟨id, hid, hworkspace⟩ := h.owned thread hmem
    exact ⟨id, howns _ _ hid, hworkspace⟩
  bound := h.bound

/-- The bindings that are there stay bound. -/
lemma BoundTables.bound_of_kept (h : BoundTables codec owns tables) (hkept : Kept tables tables')
    (hmem : binding ∈ tables.bindings) :
    ∃ thread ∈ tables'.threads, Bound codec binding thread := by
  obtain ⟨thread, hthread, hbound⟩ := h.bound binding hmem
  obtain ⟨later, hlater, hthreadKept⟩ := hkept.threads thread hthread
  exact ⟨later, hlater, hbound.of_kept hthreadKept⟩

/-- A thread with the key of a bound conversation is the one it is bound to. -/
lemma BoundTables.eq_of_key (h : BoundTables codec owns tables) {key : String}
    (hmem : binding ∈ tables.bindings)
    (hkey : codec.buildThreadKey (privateKeyInput binding.platform binding.accountId
      binding.physicalConversationId) = .ok key)
    (hthread : HasThread thread tables) (hthreadKey : thread.threadKey = key) :
    binding.aiThreadId = thread.id := by
  obtain ⟨bound, hbound, hbinding⟩ := h.bound binding hmem
  obtain ⟨later, hlater, hkept⟩ := hthread
  have hsame : bound.threadKey = later.threadKey := by
    rw [hkept.threadKey, hthreadKey]
    exact Except.ok.inj (hbinding.key.symm.trans hkey)
  obtain rfl := h.unique.threadKeys.eq_of_key_eq hbound hlater hsame
  exact hbinding.target.symm.trans hkept.id

end

/-- Statements about other rows leave the tables bound. -/
lemma boundTables_steady (codec : KeyCodec) (owns : String → String → Prop) :
    Steady (BoundTables codec owns) where
  unique h := h.unique
  disturbed h hdisturbed := by
    refine ⟨h.unique.disturbed hdisturbed, fun thread hmem => ?_, fun thread hmem => ?_,
      fun binding hmem => ?_⟩
    · obtain ⟨earlier, hearlier, hframe⟩ := hdisturbed.exists_thread hmem
      simp only [threadFrame, AIThread.mk.injEq] at hframe
      rw [← hframe.2.2.1, ← hframe.2.2.2.2.1]
      exact h.unrouted earlier hearlier
    · obtain ⟨earlier, hearlier, hframe⟩ := hdisturbed.exists_thread hmem
      have hkept := threadKept_of_frame hframe
      obtain ⟨id, hid, hworkspace⟩ := h.owned earlier hearlier
      rw [hkept.threadKey, hkept.workspaceId] at *
      exact ⟨id, hid, hworkspace.of_kept hdisturbed.kept⟩
    · rw [hdisturbed.bindings] at hmem
      exact h.bound_of_kept hdisturbed.kept hmem
  leaves h hunique hkept hthreads hbindings := by
    refine ⟨hunique, hthreads ▸ h.unrouted, fun thread hmem => ?_, ?_⟩
    · rw [hthreads] at hmem
      obtain ⟨id, hid, hworkspace⟩ := h.owned thread hmem
      exact ⟨id, hid, hworkspace.of_kept hkept⟩
    · rw [hthreads, hbindings]
      exact h.bound

/-! ## Safe programs -/

section

variable {codec : KeyCodec} {owns : String → String → Prop} {own : AdmitEvent → Prop}
  {s : WorkspaceTables}

/-- The arguments of the key of a request of a private conversation. -/
def AuthorizedThreadRequest.privateKey (request : AuthorizedThreadRequest) : ThreadKeyInput :=
  privateKeyInput request.platform request.accountId request.physicalConversationId

/-- A binding of the conversation of a request. -/
def AuthorizedThreadRequest.BoundBy (request : AuthorizedThreadRequest)
    (binding : ThreadSourceBinding) (tables : WorkspaceTables) : Prop :=
  binding ∈ tables.bindings ∧
    binding.Binds request.platform request.accountId request.physicalConversationId

/-- The conversation of a request is bound to this thread. -/
def BoundThread (codec : KeyCodec) (request : AuthorizedThreadRequest) (thread : AIThread)
    (tables : WorkspaceTables) : Prop :=
  codec.buildThreadKey request.privateKey = .ok thread.threadKey ∧
    thread.threadType = .privateThread ∧ HasThread thread tables ∧
    ∃ binding, request.BoundBy binding tables ∧ binding.aiThreadId = thread.id

variable {request : AuthorizedThreadRequest} {key workspaceId : String} {thread : AIThread}

lemma BoundThread.of_kept {tables tables' : WorkspaceTables}
    (h : BoundThread codec request thread tables) (hkept : Kept tables tables') :
    BoundThread codec request thread tables' := by
  obtain ⟨hkey, htype, hhas, binding, ⟨hmem, hbinds⟩, hbinding⟩ := h
  exact ⟨hkey, htype, hhas.of_kept hkept, binding, ⟨hkept.bindings hmem, hbinds⟩, hbinding⟩

/-- The binding that is found is one of the conversation. -/
lemma bound_selectBinding : (admissions (BoundTables codec owns) own).SafeOk (fun _ => True)
    (fun (reply : Option ThreadSourceBinding) u => ∀ binding ∈ reply, request.BoundBy binding u)
    (ask (.selectBinding request.platform request.accountId request.physicalConversationId)) s := by
  refine (boundTables_steady codec owns).ask (.selectBinding _ _ _) trivial
    fun u reply u' _ _ hanswers _ v hv binding hfound => ?_
  obtain ⟨hreply, rfl⟩ := hanswers
  rw [hreply] at hfound
  exact ⟨hv.bindings (List.mem_of_find?_eq_some hfound), by simpa using List.find?_some hfound⟩

/-- Whoever creates the thread of this key as this identity owns it. -/
def OwnsCreated (owns : String → String → Prop) (own : AdmitEvent → Prop) (key id : String) : Prop :=
  ∀ row, own ⟨.insertThread row, true⟩ → row.threadKey = key → owns key id

/-- A thread created for an identity that then owns the key keeps the invariant. -/
lemma bound_ensureThread (howns : OwnsCreated owns own key id)
    (hworkspace : HasWorkspace (workspaceId, id) s) :
    (admissions (BoundTables codec owns) own).SafeOk (fun _ => True)
      (fun ensured u => KeyedThread key .privateThread ensured.1 u)
      (ensureThread workspaceId .privateThread key) s := by
  have hsteady := boundTables_steady codec owns
  refine hsteady.ensureThread (fun _ _ => trivial) fun u uuid u' hown hu hinv hunique hkept hu' => ?_
  refine ⟨hunique, fun thread hmem => ?_, fun thread hmem => ?_,
    fun binding hmem => hinv.bound_of_kept hkept (by simpa only [hu'] using hmem)⟩
  · rw [hu'] at hmem
    rcases mem_concat.mp hmem with hold | rfl
    · exact hinv.unrouted thread hold
    · exact ⟨rfl, rfl⟩
  · rw [hu'] at hmem
    rcases mem_concat.mp hmem with hold | rfl
    · obtain ⟨id', hid', hworkspace'⟩ := hinv.owned thread hold
      exact ⟨id', hid', hworkspace'.of_kept hkept⟩
    · exact ⟨id, howns _ hown rfl, (hworkspace.of_kept hu).of_kept hkept⟩

/-- `ensure_source_binding` ends with the binding of the conversation. -/
lemma bound_ensureSourceBinding (hkey : codec.buildThreadKey request.privateKey = .ok key)
    (hthread : KeyedThread key .privateThread thread s) :
    (admissions (BoundTables codec owns) own).SafeOk (fun _ => True)
      (fun ensured u => request.BoundBy ensured.1 u) (ensureSourceBinding request thread.id) s := by
  have hsteady := boundTables_steady codec owns
  refine safeOk_ensure (Q := request.BoundBy) ?_ trivial ?_ (fun _ _ => bound_selectBinding) ?_
  · rintro binding u u' hrely ⟨hmem, hbinds⟩
    exact ⟨hrely.bindings hmem, hbinds⟩
  · intro u reply u' hinv hstep
    exact hsteady.step ⟨.uuid, reply⟩ hinv hstep.1 trivial
  · intro u uuid hu
    refine safeOk_ask (.insertBinding _) fun v committed v' hv hinv hstep => ?_
    have hanswers : Answers v ⟨.insertBinding _, committed⟩ v' := hstep.1
    have hkept : Kept v v' := hanswers.kept fun id heq => by cases heq
    have hunique := hinv.unique.answers hanswers
    rcases hanswers with ⟨hfalse, rfl⟩ | ⟨-, -, rfl⟩
    · refine ⟨hinv, hkept, fun w _ _ htrue => ?_⟩
      rw [hfalse] at htrue
      cases htrue
    · refine ⟨⟨hunique, hinv.unrouted, hinv.owned, fun binding hmem => ?_⟩, hkept,
        fun w hw _ _ => ⟨hw.bindings ?_, rfl, rfl, rfl⟩⟩
      · rcases mem_concat.mp hmem with hold | rfl
        · exact hinv.bound binding hold
        · -- the thread has not gone since it was found or created
          obtain ⟨hthreadKey, htype, hhas⟩ := hthread.of_kept (Kept.trans hu hv)
          obtain ⟨later, hlater, hlaterKept⟩ := hhas
          refine ⟨later, hlater, hlaterKept.id, hlaterKept.threadType.trans htype, ?_⟩
          rw [hlaterKept.threadKey, hthreadKey]
          exact hkey
      · exact List.mem_append_right _ (List.mem_singleton_self _)

/-- `_bound_thread` ends with the thread of the binding. -/
lemma bound_boundThread {binding : ThreadSourceBinding} (hbinding : request.BoundBy binding s) :
    (admissions (BoundTables codec owns) own).SafeOk (fun _ => True)
      (fun thread u => BoundThread codec request thread u)
      (boundThread binding.aiThreadId .privateThread) s := by
  have hsteady := boundTables_steady codec owns
  obtain ⟨hmem, hbinds⟩ := hbinding
  have hget : (admissions (BoundTables codec owns) own).SafeOk (fun _ => True)
      (fun (reply : Option AIThread) u => ∀ thread ∈ reply, BoundThread codec request thread u)
      (ask (.getThread binding.aiThreadId)) s := by
    refine hsteady.ask (.getThread binding.aiThreadId) trivial
      fun u reply u' hu hinv hanswers _ v hv thread hfound => ?_
    obtain ⟨hreply, rfl⟩ := hanswers
    rw [hreply] at hfound
    have hthread := List.mem_of_find?_eq_some hfound
    have hid : thread.id = binding.aiThreadId := by simpa using List.find?_some hfound
    obtain ⟨bound, hboundMem, hbound⟩ := hinv.bound binding (hu.bindings hmem)
    obtain rfl := hinv.unique.threadIds.eq_of_key_eq hthread hboundMem
      (hid.trans hbound.target.symm)
    refine ⟨?_, hbound.type, (hasThread_of_mem hthread).of_kept hv, binding,
      ⟨hv.bindings (hu.bindings hmem), hbinds⟩, hid.symm⟩
    rw [← hbound.key, AuthorizedThreadRequest.privateKey, ← hbinds.1, ← hbinds.2.1, ← hbinds.2.2]
  refine SafeOk.andThen hget fun reply u _ _ hreply => ?_
  cases reply with
  | none => exact safeOk_raise trivial
  | some thread =>
    dsimp only
    split
    · exact safeOk_raise trivial
    · exact safeOk_give fun v hv _ => (hreply thread rfl).of_kept hv

/-- Whoever finds no binding ends with the thread that the conversation is bound to, without
discarding one. -/
lemma bound_bindNewThread (hprivate : request.conversationType = .privateThread)
    (hkey : codec.buildThreadKey request.privateKey = .ok key) (howns : OwnsCreated owns own key id)
    (hworkspace : HasWorkspace (workspaceId, id) s) :
    (admissions (BoundTables codec owns) own).SafeOk (fun _ => True)
      (fun thread u => BoundThread codec request thread u)
      (bindNewThread request workspaceId key) s := by
  unfold bindNewThread
  rw [hprivate]
  refine SafeOk.andThen (bound_ensureThread howns hworkspace) fun ensured u _ _ hensured => ?_
  refine SafeOk.andThen (bound_ensureSourceBinding hkey hensured) fun bound v hv hinv hbound => ?_
  obtain ⟨hmem, hbinds⟩ := hbound
  have hthread := hensured.of_kept hv
  have hsame : bound.1.aiThreadId = ensured.1.id := by
    refine BoundTables.eq_of_key hinv hmem ?_ hthread.2.2 hthread.1
    rw [hbinds.1, hbinds.2.1, hbinds.2.2]
    exact hkey
  rw [if_pos hsame]
  refine safeOk_give fun w hw _ => ?_
  refine ⟨?_, hthread.2.1, hthread.2.2.of_kept hw, bound.1, ⟨hw.bindings hmem, hbinds⟩, hsame⟩
  rw [hthread.1]
  exact hkey

/-- `ensure_thread_for_authorized_request` ends with the thread that the conversation is bound to,
and a new thread is in the workspace of the identity. -/
lemma bound_ensureThreadForRequest (hprivate : request.conversationType = .privateThread)
    (howns : ∀ key, codec.buildThreadKey request.privateKey = .ok key →
      OwnsCreated owns own key request.enterpriseIdentityId) :
    (admissions (BoundTables codec owns) own).SafeOk (fun _ => True)
      (fun thread u => BoundThread codec request thread u)
      (ensureThreadForRequest codec request) s := by
  have hsteady := boundTables_steady codec owns
  unfold ensureThreadForRequest
  refine SafeOk.andThen (hsteady.ensureWorkspaceForAuthorizedIdentity (fun _ _ => trivial)
    request.enterpriseIdentityId) fun workspace u _ _ hworkspace => ?_
  refine SafeOk.andThen (safeOk_checked fun _ => trivial) fun key v hv _ hkey => ?_
  have hinput : request.keyInput = request.privateKey := by
    rw [AuthorizedThreadRequest.keyInput, hprivate]
    rfl
  rw [hinput] at hkey
  have hthread : (admissions (BoundTables codec owns) own).SafeOk (fun _ => True)
      (fun thread u => BoundThread codec request thread u)
      (threadOfRequest request workspace.id key) v := by
    unfold threadOfRequest
    refine SafeOk.andThen bound_selectBinding fun binding w hw _ hbinding => ?_
    cases binding with
    | some binding =>
      dsimp only
      rw [hprivate]
      exact bound_boundThread (hbinding binding rfl)
    | none =>
      exact bound_bindNewThread hprivate hkey (howns key hkey)
        ((hworkspace.of_kept hv).of_kept hw)
  refine SafeOk.andThen hthread fun thread w _ _ hbound => ?_
  split
  · exact safeOk_raise trivial
  · exact safeOk_give fun x hx _ => hbound.of_kept hx

end

end AgentGateway.Workspace
