import AgentGateway.Workspace.Database

/-!
# Threads of routes

What admissions with routing keep true of the workspace tables, however many of them take turns: a
thread whose key is one of the second version has the type, the workspace and the route that the
fields of its key say.

The assumptions about the rest of the system are collected in a `Setting`: the identifiers of
identities and profiles have no surrounding white space, a profile keeps its revision, and the digest
tells the fields that occur apart.
-/

namespace AgentGateway.Workspace

open Lib Lib.Table Lib.Program Lib.Program.Contract
open AgentGateway.Dispatch (AIThread EmployeeWorkspace ThreadType ThreadPolicy ResourceStatus)
open AgentGateway.Routing (RoutingTables ResolvedRoute resolveRoute)

/-! ## The key of a route -/

/-- The fields of the key of a route. -/
def KeyCodec.routeFields (codec : KeyCodec) (route : ResolvedRoute) (enterpriseIdentityId : String) :
    V2ThreadKeyFields where
  accountId := strip route.sourceAccountId
  agentProfileId := strip route.agentProfileId
  agentProfileRevision := strip (toString route.agentProfileRevision)
  conversationId := strip route.conversationId
  conversationType := route.conversationType
  platform := codec.casefold (strip route.source)
  senderIdentityId :=
    if route.threadPolicy = .groupShared then none else some (strip enterpriseIdentityId)
  threadPolicy := route.threadPolicy

/-- What a key of a route needs: texts that are not blank, and a policy for the type. -/
structure RouteHasKey (route : ResolvedRoute) (enterpriseIdentityId : String) : Prop where
  policy : validatePolicy route.threadPolicy route.conversationType = .ok ()
  platform : ¬ IsBlank route.source
  account : ¬ IsBlank route.sourceAccountId
  conversation : ¬ IsBlank route.conversationId
  profile : ¬ IsBlank route.agentProfileId
  revision : ¬ IsBlank (toString route.agentProfileRevision)
  sender : route.threadPolicy ≠ .groupShared → ¬ IsBlank enterpriseIdentityId

variable {route : ResolvedRoute} {id : String} {request : ThreadResolutionRequest}

/-- The texts of a valid request are those of the route, trimmed. -/
lemma threadResolutionRequest_eq_ok (h : threadResolutionRequest route id = .ok request) :
    request = {
      conversationId := trim route.conversationId
      conversationType := route.conversationType
      platform := trim route.source
      accountId := trim route.sourceAccountId
      identityId := trim id
      profileId := trim route.agentProfileId
      revision := trim (toString route.agentProfileRevision)
      threadPolicy := route.threadPolicy } := by
  simp only [threadResolutionRequest, bind_eq_ok, constrStr_eq_ok] at h
  obtain ⟨_, ⟨-, -, rfl⟩, _, ⟨-, -, rfl⟩, _, ⟨-, -, rfl⟩, _, ⟨-, -, rfl⟩, _, ⟨-, -, rfl⟩, _,
    ⟨-, -, rfl⟩, h⟩ := h
  cases h
  rfl

/-- Trimming makes no difference to a key, which strips its texts itself. -/
lemma buildV2ThreadKey_request {codec : KeyCodec} {key : String}
    (hrequest : threadResolutionRequest route id = .ok request)
    (hkey : codec.buildV2ThreadKey request.keyInput = .ok key) :
    RouteHasKey route id ∧ key = joinWith ':' (codec.v2Segments (codec.routeFields route id)) := by
  rw [threadResolutionRequest_eq_ok hrequest] at hkey
  obtain ⟨threadType, policy, htype, hpolicy, hvalid, ⟨hplatform, haccount, hconversation, hprofile,
    ⟨revision, hrev, hrevision⟩, hsender⟩, rfl⟩ := buildV2ThreadKey_iff.mp hkey
  cases htype
  cases hpolicy
  cases hrev
  simp only [ThreadResolutionRequest.keyInput, Revision.str, isBlank_trim, Option.mem_some_iff,
    exists_eq_left'] at hplatform haccount hconversation hprofile hrevision hsender hvalid
  refine ⟨⟨hvalid, hplatform, haccount, hconversation, hprofile, hrevision, hsender⟩, ?_⟩
  simp only [ThreadResolutionRequest.keyInput, KeyCodec.v2Normalized, KeyCodec.routeFields,
    Revision.str, strip_trim, Option.map_some, Option.getD_some]

/-! ## The setting -/

/-- What is assumed about identities, profiles and the digest. -/
structure Setting (codec : KeyCodec) where
  identities : Set String
  revision : String → ℕ
  known : Set V2ThreadKeyFields
  unpadded : ∀ id ∈ identities, strip id = id
  noCollision : ∀ a ∈ known, ∀ b ∈ known, NoCollision codec a.json b.json

variable {codec : KeyCodec}

/-- What an admission reads is as assumed. -/
def Setting.Allows (setting : Setting codec) : AdmitEvent → Prop
  | ⟨.readAccess, read⟩ => ∀ identity ∈ read.1.identities, identity.id ∈ setting.identities
  | ⟨.readRouting, tables⟩ =>
    (∀ profile ∈ tables.agentProfiles, strip profile.id = profile.id ∧
      profile.revision = setting.revision profile.id) ∧
    ∀ source account conversation type id route, id ∈ setting.identities →
      resolveRoute source account conversation type id tables = .ok route →
      codec.routeFields route id ∈ setting.known
  | _ => True

/-! ## The invariant -/

/-- A thread is as the fields of its key say. -/
structure Routed (setting : Setting codec) (tables : WorkspaceTables) (thread : AIThread)
    (fields : V2ThreadKeyFields) : Prop where
  known : fields ∈ setting.known
  key : thread.threadKey = joinWith ':' (codec.v2Segments fields)
  type : thread.threadType = fields.conversationType
  workspace : ∀ id ∈ fields.senderIdentityId, ∃ workspace ∈ tables.workspaces,
    workspaceFrame workspace = (thread.workspaceId, id)
  route : thread.agentProfileId = none ∧ thread.threadPolicy = none ∨
    thread.agentProfileId = some fields.agentProfileId ∧
      thread.threadPolicy = some fields.threadPolicy

/-- The key is not one of the second version. -/
def Unrouted (codec : KeyCodec) (thread : AIThread) : Prop :=
  ∀ fields, thread.threadKey ≠ joinWith ':' (codec.v2Segments fields)

/-- The keys are unique, and every thread of a route is as its key says. -/
structure RoutedTables (setting : Setting codec) (tables : WorkspaceTables) : Prop where
  unique : Unique tables
  threads : ∀ thread ∈ tables.threads,
    Unrouted codec thread ∨ ∃ fields, Routed setting tables thread fields

section

variable {setting : Setting codec} {tables tables' : WorkspaceTables} {thread thread' : AIThread}
  {fields fields' : V2ThreadKeyFields}

/-- The key decides the fields. -/
lemma Routed.fields_eq (h : Routed setting tables thread fields) (hknown : fields' ∈ setting.known)
    (hkey : thread.threadKey = joinWith ':' (codec.v2Segments fields')) : fields = fields' :=
  (joinV2Segments_inj (setting.noCollision _ h.known _ hknown)).mp (h.key.symm.trans hkey)

/-- A thread with a known key is as the fields say. -/
lemma RoutedTables.routed (h : RoutedTables setting tables) (hmem : thread ∈ tables.threads)
    (hknown : fields ∈ setting.known)
    (hkey : thread.threadKey = joinWith ':' (codec.v2Segments fields)) :
    Routed setting tables thread fields := by
  rcases h.threads thread hmem with hunrouted | ⟨fields', hrouted⟩
  · exact absurd hkey (hunrouted fields)
  · obtain rfl := hrouted.fields_eq hknown hkey
    exact hrouted

/-- A routed thread stays routed. -/
lemma Routed.of_kept (h : Routed setting tables thread fields) (hkept : Kept tables tables') :
    Routed setting tables' thread fields where
  known := h.known
  key := h.key
  type := h.type
  workspace id hid := by
    obtain ⟨workspace, hmem, hframe⟩ := h.workspace id hid
    obtain ⟨workspace', hmem', hframe'⟩ := hkept.workspaces workspace hmem
    exact ⟨workspace', hmem', hframe'.trans hframe⟩
  route := h.route

/-- A thread in which only the status and the session have changed. -/
lemma Routed.of_frame (h : Routed setting tables thread fields)
    (hframe : threadFrame thread' = threadFrame thread) :
    Routed setting tables thread' fields := by
  simp only [threadFrame, AIThread.mk.injEq, and_true] at hframe
  obtain ⟨-, hworkspace, hprofile, htype, hpolicy, hkey⟩ := hframe
  refine ⟨h.known, hkey.trans h.key, htype.trans h.type, ?_, ?_⟩
  · rw [hworkspace]
    exact h.workspace
  · rw [hprofile, hpolicy]
    exact h.route

end

/-- Statements about other rows leave the tables routed. -/
lemma routedTables_steady (setting : Setting codec) : Steady (RoutedTables setting) where
  unique h := h.unique
  disturbed h hdisturbed := by
    refine ⟨h.unique.disturbed hdisturbed, fun thread hmem => ?_⟩
    obtain ⟨earlier, hearlier, hframe⟩ := hdisturbed.exists_thread hmem
    rcases h.threads earlier hearlier with hunrouted | ⟨fields, hrouted⟩
    · refine Or.inl fun fields hkey => hunrouted fields ?_
      rw [← (threadKept_of_frame hframe.symm).threadKey]
      exact hkey
    · exact Or.inr ⟨fields, (hrouted.of_kept hdisturbed.kept).of_frame hframe.symm⟩
  leaves h hunique hkept hthreads _ := by
    refine ⟨hunique, fun thread hmem => ?_⟩
    rw [hthreads] at hmem
    refine (h.threads thread hmem).imp_right ?_
    rintro ⟨fields, hrouted⟩
    exact ⟨fields, hrouted.of_kept hkept⟩

/-! ## Safe programs -/

section

variable {setting : Setting codec} {raised : AdmitError → Prop} {s tables tables' : WorkspaceTables}
  {fields : V2ThreadKeyFields} {thread : AIThread}

/-- `ensure_thread` for the key of a route ends with the thread of the route. -/
lemma routed_ensureThread (hraised : ∀ error, error ≠ .threadRoutingConflict → raised error)
    (hknown : fields ∈ setting.known) {workspaceId : String}
    (hworkspace : ∀ id ∈ fields.senderIdentityId, HasWorkspace (workspaceId, id) s) :
    (admissions (RoutedTables setting) setting.Allows).SafeOk raised
      (fun ensured u => KeyedThread (joinWith ':' (codec.v2Segments fields))
        fields.conversationType ensured.1 u)
      (ensureThread workspaceId fields.conversationType (joinWith ':' (codec.v2Segments fields)))
      s := by
  refine (routedTables_steady setting).ensureThread hraised
    fun u id u' _ hu hinv hunique hkept hu' => ?_
  -- the new row is as the fields of its key say
  have hrouted : Routed setting u'
      (newThread workspaceId fields.conversationType (joinWith ':' (codec.v2Segments fields)) id)
      fields :=
    ⟨hknown, rfl, rfl, fun sender hsender => ((hworkspace sender hsender).of_kept hu).of_kept hkept,
      Or.inl ⟨rfl, rfl⟩⟩
  refine ⟨hunique, fun thread hmem => ?_⟩
  rw [hu'] at hmem
  rcases mem_concat.mp hmem with hold | rfl
  · refine (hinv.threads thread hold).imp_right ?_
    rintro ⟨fields', hrouted'⟩
    exact ⟨fields', hrouted'.of_kept hkept⟩
  · exact Or.inr ⟨fields, hrouted⟩

/-- `ThreadResolver.resolve` ends with the thread of the route. -/
lemma routed_resolveThread (hraised : ∀ error, error ≠ .threadRoutingConflict → raised error)
    (hid : id ∈ setting.identities) (hknown : codec.routeFields route id ∈ setting.known) :
    (admissions (RoutedTables setting) setting.Allows).SafeOk raised
      (fun thread u => RouteHasKey route id ∧
        KeyedThread (joinWith ':' (codec.v2Segments (codec.routeFields route id)))
          route.conversationType thread u)
      (resolveThread codec route id) s := by
  have hsteady := routedTables_steady setting
  unfold resolveThread
  refine SafeOk.andThen (safeOk_checked (fun _ => hraised _ (by decide)))
    fun request u _ _ hrequest => ?_
  have hform := threadResolutionRequest_eq_ok hrequest
  have hidentity : request.identityId = id := by
    rw [hform]
    exact trim_eq_self (setting.unpadded id hid)
  refine SafeOk.andThen (hsteady.ensureWorkspaceForAuthorizedIdentity hraised request.identityId)
    fun workspace v _ _ hworkspace => ?_
  refine SafeOk.andThen (safeOk_checked (fun _ => hraised _ (by simp)))
    fun threadKey w hw _ hkey => ?_
  obtain ⟨hroute, rfl⟩ := buildV2ThreadKey_request hrequest hkey
  have htype : request.conversationType = (codec.routeFields route id).conversationType := by
    rw [hform]
    rfl
  rw [htype]
  refine SafeOk.andThen (routed_ensureThread hraised hknown fun sender hsender => ?_)
    fun ensured x _ _ hensured => ?_
  · -- the only sender a key can name is this one
    have hsender' : sender = id := by
      simp only [KeyCodec.routeFields, Option.mem_def] at hsender
      split at hsender
      · cases hsender
      · exact (Option.some.inj hsender).symm.trans (setting.unpadded id hid)
    rw [hsender', ← hidentity]
    exact hworkspace.of_kept hw
  · split
    · exact safeOk_raise (hraised _ (by decide))
    · exact safeOk_give fun y hy _ =>
        ⟨hroute, hensured.1, hensured.2.1, hensured.2.2.of_kept hy⟩

/-- A later form of this thread, with this route. -/
def HasRoute (thread : AIThread) (fields : V2ThreadKeyFields) (tables : WorkspaceTables) : Prop :=
  ∃ later ∈ tables.threads, ThreadKept thread later ∧
    later.agentProfileId = some fields.agentProfileId ∧
    later.threadPolicy = some fields.threadPolicy

lemma HasRoute.of_kept (h : HasRoute thread fields tables) (hkept : Kept tables tables') :
    HasRoute thread fields tables' := by
  obtain ⟨later, hmem, hlater, hprofile, hpolicy⟩ := h
  obtain ⟨later', hmem', hlater'⟩ := hkept.threads later hmem
  obtain ⟨hprofile', hpolicy'⟩ := hlater'.route (Or.inl (by simp [hprofile]))
  exact ⟨later', hmem', hlater.trans hlater', hprofile'.trans hprofile, hpolicy'.trans hpolicy⟩

/-- The `UPDATE` that sets the route of a thread keeps the invariant, and leaves the thread with its
route. -/
lemma routed_bindRoute (h : RoutedTables setting tables) (hknown : fields ∈ setting.known)
    (hkey : thread.threadKey = joinWith ':' (codec.v2Segments fields))
    (hthread : HasThread thread tables)
    (hanswers : Answers tables
      ⟨.bindRoute thread.id fields.agentProfileId fields.threadPolicy, ()⟩ tables') :
    RoutedTables setting tables' ∧ HasRoute thread fields tables' := by
  have hkept : Kept tables tables' := hanswers.kept fun id heq => by cases heq
  have hunique := h.unique.answers hanswers
  obtain ⟨later, hmem, hlater⟩ := hthread
  have hrouted : Routed setting tables later fields :=
    h.routed hmem hknown (hlater.threadKey.trans hkey)
  cases hanswers
  refine ⟨⟨hunique, fun row hrow => ?_⟩, ?_⟩
  · rcases updateWhere_cases hrow with ⟨hold, -⟩ | ⟨old, hold, ⟨hid, -, -⟩, rfl⟩
    · refine (h.threads row hold).imp_right ?_
      rintro ⟨fields', hrouted'⟩
      exact ⟨fields', hrouted'.of_kept hkept⟩
    · -- the row that is changed is the thread
      obtain rfl := h.unique.threadIds.eq_of_key_eq hold hmem (hid.trans hlater.id.symm)
      exact Or.inr ⟨fields, hrouted.known, hrouted.key, hrouted.type,
        (hrouted.of_kept hkept).workspace, Or.inr ⟨rfl, rfl⟩⟩
  · rcases hrouted.route with ⟨hprofile, hpolicy⟩ | ⟨hprofile, hpolicy⟩
    · refine ⟨_, mem_updateWhere_of_pos hmem ⟨hlater.id, hprofile, hpolicy⟩, ?_, rfl, rfl⟩
      refine ⟨hlater.id, hlater.workspaceId, hlater.threadType, hlater.threadKey, fun hroute => ?_⟩
      obtain ⟨hsame, hsame'⟩ := hlater.route hroute
      rw [← hsame, ← hsame', hprofile, hpolicy] at hroute
      rcases hroute with hne | hne <;> exact absurd rfl hne
    · have hother : ¬ (later.id = thread.id ∧ later.agentProfileId = none ∧
          later.threadPolicy = none) := by simp [hprofile]
      exact ⟨later, mem_updateWhere_of_not hmem hother, hlater, hprofile, hpolicy⟩

/-- `bind_v2_route_snapshot` finds the route of the key, never another. -/
lemma routed_bindV2RouteSnapshot (hraised : ∀ error, error ≠ .threadRoutingConflict → raised error)
    (hknown : fields ∈ setting.known)
    (hthread : KeyedThread (joinWith ':' (codec.v2Segments fields)) fields.conversationType thread
      s) :
    (admissions (RoutedTables setting) setting.Allows).SafeOk raised
      (fun bound u => bound.agentProfileId = some fields.agentProfileId ∧
        bound.threadPolicy = some fields.threadPolicy ∧
        KeyedThread (joinWith ':' (codec.v2Segments fields)) fields.conversationType bound u)
      (bindV2RouteSnapshot thread fields.agentProfileId fields.threadPolicy) s := by
  have hsteady := routedTables_steady setting
  obtain ⟨hkey, htype, hhas⟩ := hthread
  unfold bindV2RouteSnapshot
  split
  · exact safeOk_raise (hraised _ (by decide))
  · have hupdate : (admissions (RoutedTables setting) setting.Allows).SafeOk raised (fun _ u => HasRoute thread fields u)
        (ask (.bindRoute thread.id fields.agentProfileId fields.threadPolicy)) s := by
      refine safeOk_ask (.bindRoute _ _ _) fun u reply u' hu hinv hstep => ?_
      have hanswers : Answers u ⟨.bindRoute _ _ _, reply⟩ u' := hstep.1
      obtain ⟨hinv', hroute⟩ := routed_bindRoute hinv hknown hkey (hhas.of_kept hu) hanswers
      have hkept : Kept u u' := hanswers.kept fun id heq => by cases heq
      exact ⟨hinv', hkept, fun v hv _ => hroute.of_kept hv⟩
    refine SafeOk.andThen hupdate fun _ u _ _ hroute => ?_
    -- the row is read back with the route that it has got
    have hread : (admissions (RoutedTables setting) setting.Allows).SafeOk raised
        (fun (reply : Option AIThread) u => ∀ row ∈ reply, ThreadKept thread row ∧
          row.agentProfileId = some fields.agentProfileId ∧
          row.threadPolicy = some fields.threadPolicy ∧ HasThread row u)
        (ask (.getThread thread.id)) u := by
      refine hsteady.ask (.getThread thread.id) trivial
        fun v reply v' hv hinv hanswers _ w hw row hrow => ?_
      obtain ⟨hreply, rfl⟩ := hanswers
      rw [hreply] at hrow
      obtain ⟨later, hmem, hlater, hprofile, hpolicy⟩ := hroute.of_kept hv
      have hfound := List.mem_of_find?_eq_some hrow
      have hid : row.id = thread.id := by simpa using List.find?_some hrow
      obtain rfl := hinv.unique.threadIds.eq_of_key_eq hfound hmem (hid.trans hlater.id.symm)
      exact ⟨hlater, hprofile, hpolicy, (hasThread_of_mem hfound).of_kept hw⟩
    refine SafeOk.andThen hread fun reply v _ _ hreply => ?_
    cases reply with
    | none => exact safeOk_raise (hraised _ (by decide))
    | some row =>
      obtain ⟨hkept, hprofile, hpolicy, hrow⟩ := hreply row rfl
      have hsame : ¬ (row.agentProfileId ≠ some fields.agentProfileId ∨
          row.threadPolicy ≠ some fields.threadPolicy) := by simp [hprofile, hpolicy]
      dsimp only
      rw [if_neg hsame]
      exact safeOk_give fun w hw _ => ⟨hprofile, hpolicy, hkept.threadKey.trans hkey,
        hkept.threadType.trans htype, hrow.of_kept hw⟩

end

end AgentGateway.Workspace
