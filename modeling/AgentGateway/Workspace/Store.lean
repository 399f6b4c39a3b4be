import AgentGateway.Access.Policies
import AgentGateway.Lib.Program
import AgentGateway.Routing.Resolver
import AgentGateway.Workspace.ThreadKeys

/-!
# Workspaces and threads

`WorkspaceStore` and `WorkspaceService` as programs of single statements, each with its commit, so
that any number of them can run side by side. An insert tells whether it was committed or hit a
unique key. An identifier from `uuid4` is a request too; nothing is assumed about it here, and an
identifier that is in use already makes the insert fail.

The activity timestamps that `touch_workspace` and `touch_thread` write are left out.
-/

namespace AgentGateway.Workspace

open AgentGateway.Lib
open AgentGateway.Dispatch (AIThread EmployeeWorkspace ThreadType ThreadPolicy ResourceStatus)
open AgentGateway.Access (AccessTables EnterpriseIdentity)
open AgentGateway.Routing (RoutingTables RouteError)

/-- `ThreadSourceBinding`. -/
structure ThreadSourceBinding where
  id : String
  aiThreadId : String
  platform : String
  accountId : String
  physicalConversationId : String
  senderId : Option String
  deriving DecidableEq, Repr

/-! ## Requests -/

/-- What an admission asks of the database. `readAccess` and `readRouting` stand for the reads of
one evaluation of the policies, with the time it is made at, and of one resolution of a route. -/
inductive Request
  | readAccess
  | readRouting
  | getIdentity (enterpriseIdentityId : String)
  | selectWorkspace (enterpriseIdentityId : String)
  | insertWorkspace (workspace : EmployeeWorkspace)
  | selectThread (threadKey : String)
  | insertThread (thread : AIThread)
  | bindRoute (aiThreadId agentProfileId : String) (threadPolicy : ThreadPolicy)
  | getThread (aiThreadId : String)
  | selectBinding (platform accountId physicalConversationId : String)
  | insertBinding (binding : ThreadSourceBinding)
  | discardThread (aiThreadId : String)
  | uuid
  deriving DecidableEq

/-- The replies. -/
@[reducible] def Reply : Request → Type
  | .readAccess => AccessTables × Timestamp
  | .readRouting => RoutingTables
  | .getIdentity _ => Option EnterpriseIdentity
  | .selectWorkspace _ => Option EmployeeWorkspace
  | .insertWorkspace _ => Bool
  | .selectThread _ => Option AIThread
  | .insertThread _ => Bool
  | .bindRoute _ _ _ => Unit
  | .getThread _ => Option AIThread
  | .selectBinding _ _ _ => Option ThreadSourceBinding
  | .insertBinding _ => Bool
  | .discardThread _ => Unit
  | .uuid => String

/-- What an admission raises. -/
inductive AdmitError
  | model
  | invariant
  | route (error : RouteError)
  | key (error : KeyError)
  | identityNotFound
  | identityUnavailable
  | workspaceUnavailable
  | threadNotFound
  | threadUnavailable
  | threadConflict
  | threadRoutingConflict
  | wrongThreadType
  | integrity
  deriving DecidableEq, Repr

/-- A part of an admission that may raise. -/
abbrev Admit (α : Type) := Program Request Reply (Except AdmitError α)

/-- A request of an admission with its reply. -/
abbrev AdmitEvent := Program.Event Request Reply

/-- Make a request. -/
def ask (request : Request) : Admit (Reply request) := .call request fun reply => .done (.ok reply)

/-- Raise an error. -/
def raise {α : Type} (error : AdmitError) : Admit α := .done (.error error)

/-- Go on with a value. -/
def give {α : Type} (a : α) : Admit α := .done (.ok a)

section

variable {α : Type} {a : α} {error : AdmitError} {events : List AdmitEvent}

open Program

@[simp] lemma returns_ask {request : Request} {reply : Reply request} :
    Returns (ask request) events (.ok reply) ↔ events = [⟨request, reply⟩] := by
  simp only [ask, returns_call, returns_done]
  constructor
  · rintro ⟨reply', rest, rfl, rfl, h⟩
    cases h
    rfl
  · rintro rfl
    exact ⟨reply, [], rfl, rfl, rfl⟩

@[simp] lemma returns_give {b : α} :
    Returns (give b) events (.ok a) ↔ events = [] ∧ b = a := by
  simp [give]

@[simp] lemma returns_raise : ¬ Returns (raise error : Admit α) events (.ok a) := by
  simp [raise]

end

/-! ## Find or create -/

/-- The pattern of `ensure_workspace`, `ensure_thread` and `ensure_source_binding`: look the row up,
insert it if it is not there, and look again if somebody else has inserted it in between. -/
def ensure {α : Type} (select : Admit (Option α)) (create : String → α)
    (insert : α → Admit Bool) : Admit (α × Bool) :=
  select.bindOk fun existing =>
    match existing with
    | some row => give (row, false)
    | none =>
      (ask .uuid).bindOk fun id =>
      (insert (create id)).bindOk fun committed =>
      if committed = true then give (create id, true)
      else
        select.bindOk fun existing =>
          match existing with
          | some row => give (row, false)
          | none => raise .integrity

/-- `ensure_workspace`. -/
def ensureWorkspace (enterpriseIdentityId : String) : Admit (EmployeeWorkspace × Bool) :=
  ensure (ask (.selectWorkspace enterpriseIdentityId))
    (fun id => ⟨id, enterpriseIdentityId, .active⟩) fun workspace => ask (.insertWorkspace workspace)

/-- `ensure_workspace_for_authorized_identity`. -/
def ensureWorkspaceForAuthorizedIdentity (enterpriseIdentityId : String) :
    Admit EmployeeWorkspace :=
  (ask (.getIdentity enterpriseIdentityId)).bindOk fun identity =>
  match identity with
  | none => raise .identityNotFound
  | some identity =>
    if identity.status ≠ .active then raise .identityUnavailable
    else
      (ensureWorkspace identity.id).bindOk fun ensured =>
      if ensured.1.status ≠ .active then raise .workspaceUnavailable else give ensured.1

/-- A new row of `ensure_thread`. -/
def newThread (workspaceId : String) (threadType : ThreadType) (threadKey id : String) :
    AIThread where
  id := id
  workspaceId := workspaceId
  agentProfileId := none
  threadType := threadType
  threadPolicy := none
  threadKey := threadKey
  status := .active
  hermesThreadId := none

/-- `ensure_thread`, with `_compatible_thread_or_raise` on a row that was there. -/
def ensureThread (workspaceId : String) (threadType : ThreadType) (threadKey : String) :
    Admit (AIThread × Bool) :=
  (ensure (ask (.selectThread threadKey)) (newThread workspaceId threadType threadKey)
    fun thread => ask (.insertThread thread)).bindOk fun ensured =>
  if ensured.1.threadType ≠ threadType then raise .threadConflict else give ensured

/-- The thread type of a policy. -/
def expectedThreadType : ThreadPolicy → ThreadType
  | .privateSender => .privateThread
  | .groupShared | .groupSender => .groupThread

/-- `bind_v2_route_snapshot`. -/
def bindV2RouteSnapshot (thread : AIThread) (agentProfileId : String)
    (threadPolicy : ThreadPolicy) : Admit AIThread :=
  if thread.threadType ≠ expectedThreadType threadPolicy then raise .wrongThreadType
  else
    (ask (.bindRoute thread.id agentProfileId threadPolicy)).bindOk fun _ =>
    (ask (.getThread thread.id)).bindOk fun refreshed =>
    match refreshed with
    | none => raise .threadNotFound
    | some thread =>
      if thread.agentProfileId ≠ some agentProfileId ∨ thread.threadPolicy ≠ some threadPolicy then
        raise .threadRoutingConflict
      else give thread

/-! ## The second version -/

/-- `ThreadResolutionRequest`, as `admit` fills it. -/
structure ThreadResolutionRequest where
  conversationId : String
  conversationType : ThreadType
  platform : String
  accountId : String
  identityId : String
  profileId : String
  revision : String
  threadPolicy : ThreadPolicy
  deriving DecidableEq, Repr

/-- `ThreadResolutionRequest.model_validate`. -/
def threadResolutionRequest (route : Routing.ResolvedRoute) (enterpriseIdentityId : String) :
    Except ModelError ThreadResolutionRequest := do
  let conversationId ← constrStr 255 route.conversationId
  let platform ← constrStr 64 route.source
  let accountId ← constrStr 255 route.sourceAccountId
  let identityId ← constrStr 36 enterpriseIdentityId
  let profileId ← constrStr 255 route.agentProfileId
  let revision ← constrStr 255 (toString route.agentProfileRevision)
  return {
    conversationId := conversationId
    conversationType := route.conversationType
    platform := platform
    accountId := accountId
    identityId := identityId
    profileId := profileId
    revision := revision
    threadPolicy := route.threadPolicy }

/-- The arguments `ThreadResolver` builds the key from. -/
def ThreadResolutionRequest.keyInput (request : ThreadResolutionRequest) : V2ThreadKeyInput where
  platform := request.platform
  accountId := request.accountId
  physicalConversationId := request.conversationId
  conversationType := .member request.conversationType
  senderIdentityId := some request.identityId
  agentProfileId := request.profileId
  agentProfileRevision := some (.text request.revision)
  threadPolicy := .member request.threadPolicy

/-- Turn the errors of a check into those of an admission. -/
def check {ε α : Type} (error : ε → AdmitError) (result : Except ε α) : Admit α :=
  .done (result.mapError error)

@[simp] lemma returns_check {ε α : Type} {raised : ε → AdmitError} {result : Except ε α} {a : α}
    {events : List AdmitEvent} :
    Program.Returns (check raised result) events (.ok a) ↔ events = [] ∧ result = .ok a := by
  cases result with
  | ok b => simp [check, Except.mapError]
  | error error => simp [check, Except.mapError]

/-- `ThreadResolver.resolve`. -/
def resolveThread (codec : KeyCodec) (route : Routing.ResolvedRoute)
    (enterpriseIdentityId : String) : Admit AIThread :=
  (check (fun _ => .model) (threadResolutionRequest route enterpriseIdentityId)).bindOk
    fun request =>
  (ensureWorkspaceForAuthorizedIdentity request.identityId).bindOk fun workspace =>
  (check .key (codec.buildV2ThreadKey request.keyInput)).bindOk fun threadKey =>
  (ensureThread workspace.id request.conversationType threadKey).bindOk fun ensured =>
  if ensured.1.status ≠ .active then raise .threadUnavailable else give ensured.1

/-! ## The first version -/

/-- `AuthorizedThreadRequest`. -/
structure AuthorizedThreadRequest where
  enterpriseIdentityId : String
  platform : String
  accountId : String
  physicalConversationId : String
  conversationType : ThreadType
  senderId : String
  deriving DecidableEq, Repr

/-- `AuthorizedThreadRequest(…)`. -/
def authorizedThreadRequest (enterpriseIdentityId platform accountId physicalConversationId : String)
    (conversationType : ThreadType) (senderId : String) :
    Except ModelError AuthorizedThreadRequest := do
  let enterpriseIdentityId ← constrStr 36 enterpriseIdentityId
  let platform ← constrStr 64 platform
  let accountId ← constrStr 255 accountId
  let physicalConversationId ← constrStr 255 physicalConversationId
  let senderId ← constrStr 255 senderId
  return ⟨enterpriseIdentityId, platform, accountId, physicalConversationId, conversationType,
    senderId⟩

/-- The arguments the key is built from. -/
def AuthorizedThreadRequest.keyInput (request : AuthorizedThreadRequest) : ThreadKeyInput where
  platform := request.platform
  accountId := request.accountId
  physicalConversationId := request.physicalConversationId
  conversationType := .member request.conversationType

/-- `_bound_thread` and `_validate_thread_type`. -/
def boundThread (aiThreadId : String) (expectedType : ThreadType) : Admit AIThread :=
  (ask (.getThread aiThreadId)).bindOk fun thread =>
  match thread with
  | none => raise .threadNotFound
  | some thread => if thread.threadType ≠ expectedType then raise .threadConflict else give thread

/-- `ensure_source_binding` before its comparison: the binding of the conversation. -/
def ensureSourceBinding (request : AuthorizedThreadRequest) (aiThreadId : String) :
    Admit (ThreadSourceBinding × Bool) :=
  ensure (ask (.selectBinding request.platform request.accountId request.physicalConversationId))
    (fun id => ⟨id, aiThreadId, request.platform, request.accountId,
      request.physicalConversationId, some request.senderId⟩)
    fun binding => ask (.insertBinding binding)

/-- The branch for a conversation that has no binding yet. A binding to another thread is the
`ThreadSourceBindingConflictError`. -/
def bindNewThread (request : AuthorizedThreadRequest) (workspaceId threadKey : String) :
    Admit AIThread :=
  (ensureThread workspaceId request.conversationType threadKey).bindOk fun ensured =>
  (ensureSourceBinding request ensured.1.id).bindOk fun bound =>
  if bound.1.aiThreadId = ensured.1.id then give ensured.1
  else if ensured.2 = true then
    (ask (.discardThread ensured.1.id)).bindOk fun _ =>
    boundThread bound.1.aiThreadId request.conversationType
  else boundThread bound.1.aiThreadId request.conversationType

/-- The thread of a request: the one its conversation is bound to, or a new one. -/
def threadOfRequest (request : AuthorizedThreadRequest) (workspaceId threadKey : String) :
    Admit AIThread :=
  (ask (.selectBinding request.platform request.accountId
    request.physicalConversationId)).bindOk fun binding =>
  match binding with
  | some binding => boundThread binding.aiThreadId request.conversationType
  | none => bindNewThread request workspaceId threadKey

/-- `ensure_thread_for_authorized_request`, for a valid request. -/
def ensureThreadForRequest (codec : KeyCodec) (request : AuthorizedThreadRequest) :
    Admit AIThread :=
  (ensureWorkspaceForAuthorizedIdentity request.enterpriseIdentityId).bindOk fun workspace =>
  (check .key (codec.buildThreadKey request.keyInput)).bindOk fun threadKey =>
  (threadOfRequest request workspace.id threadKey).bindOk fun thread =>
  if thread.status ≠ .active then raise .threadUnavailable else give thread

/-- `ensure_thread_for_authorized_request`. -/
def ensureThreadForAuthorizedRequest (codec : KeyCodec) (enterpriseIdentityId platform accountId
    physicalConversationId : String) (conversationType : ThreadType) (senderId : String) :
    Admit AIThread :=
  (check (fun _ => .model) (authorizedThreadRequest enterpriseIdentityId platform accountId
    physicalConversationId conversationType senderId)).bindOk (ensureThreadForRequest codec)

end AgentGateway.Workspace
