import AgentGateway.Context.Storage
import AgentGateway.Lib.Query
import AgentGateway.Polling.Messages

/-!
# The context tool

A `ContextTool` is bound to one identity and one thread. Every invocation names both again, is
checked against the binding, then against the dispatch records of the thread, and only then reads:
the whole timeline, its last turns, the turns of a period, or the entries that contain a text.

`ContextTables` stores responses with the envelope that `complete_success` wrote. The tool reads
the JSON column whatever it holds, so the column stands beside the tables here.
-/

namespace AgentGateway.Context

open Lib Hermes Dispatch Artifacts Polling

/-- The rows that a context tool reads. `payloads` is the column `response_payload`, by the id of
the response; it may hold any JSON. -/
structure StoredContext where
  tables : ContextTables
  payloads : ℕ → Option JsonValue

/-- The errors of a context tool. `value` is a `ValueError` of its construction. -/
inductive ToolError
  | accessDenied (threadId : String)
  | validation (message : String)
  | value (message : String)
  deriving DecidableEq, Repr

/-- What the storage raises: an error of its own, or anything else, such as a pydantic
`ValidationError` or an `OverflowError`. -/
inductive StorageError
  | validation (message : String)
  | other
  deriving DecidableEq, Repr

/-- `DispatchContextAccessPolicy`, `AuthorizedContextProvider` and `ContextTool`, which hold the
same identity and the same thread. -/
structure ContextTool where
  enterpriseIdentityId : String
  threadId : String
  allowed : Bool
  deriving DecidableEq, Repr

/-- `create_context_tool`. -/
def createContextTool (enterpriseIdentityId threadId : String) (allowed : Bool) :
    Except ToolError ContextTool := do
  raiseIf (IsBlank enterpriseIdentityId) (.value "enterprise_identity_id must not be empty")
  raiseIf (IsBlank threadId) (.value "thread_id must not be empty")
  return ⟨strip enterpriseIdentityId, strip threadId, allowed⟩

/-! ## The storage -/

namespace StoredContext

/-- The entries of one row. -/
def rowEntries (context : StoredContext) (threadId : String) (row : TimelineRow) :
    Except ContextError (List ContextEntry) := do
  let responses ← payloadEntries context.tables.artifacts threadId row.1 row.2.2
    (context.tables.persistedAt row.2.2.id) (context.payloads row.2.2.id)
  return messageEntry threadId row.1 row.2.1 :: responses

/-- The loop of the readers over the rows of their query. -/
def entries (context : StoredContext) (threadId : String) (rows : List TimelineRow) :
    Except ContextError (List ContextEntry) := do
  let turns ← rows.mapM (context.rowEntries threadId)
  return turns.flatten

/-- `read`. -/
def read (context : StoredContext) (threadId : String) : Except ContextError (List ContextEntry) :=
  do
  let threadId ← requiredText threadId "thread_id"
  context.entries threadId (timelineRows context.tables threadId none none)

/-- Reading the typed rows is reading them with the payloads that were written. -/
lemma read_eq (tables : ContextTables) (payloads : ℕ → Option JsonValue)
    (hpayloads : ∀ response ∈ tables.dispatch.responses,
      payloads response.id = responsePayload response) (threadId : String) :
    StoredContext.read ⟨tables, payloads⟩ threadId = Context.read tables threadId := by
  have hrow : ∀ threadId, ∀ row ∈ timelineRows tables threadId none none,
      rowEntries ⟨tables, payloads⟩ threadId row = turnEntries tables threadId row := by
    intro threadId row hrow
    obtain ⟨record, -, hrow⟩ := List.mem_flatMap.mp hrow
    simp only [rowEntries, turnEntries, responseEntries, hpayloads _ (mem_recordRows hrow).2.1]
  unfold StoredContext.read Context.read readTimeline
  cases requiredText threadId "thread_id" with
  | error error => rfl
  | ok normalized =>
    show StoredContext.entries _ normalized _ = _
    rw [entries, mapM_congr (hrow normalized)]
    rfl

/-- `read_recent`. The query sorts by descending ids, and the rows are then reversed. -/
def readRecent (context : StoredContext) (threadId : String) (limit : Int) :
    Except ContextError (List ContextEntry) := do
  let threadId ← requiredText threadId "thread_id"
  let limit ← requiredPositiveInteger limit "limit"
  context.entries threadId
    ((timelineRows context.tables threadId none none).reverse.take limit).reverse

/-- The rows of the query of `read_range`. -/
def rangeRows (context : StoredContext) (threadId : String) (rangeStart rangeEnd : Timestamp) :
    List TimelineRow :=
  ((context.tables.dispatch.records.insertionSort fun a b =>
      toLex (a.createdAt, a.id) ≤ toLex (b.createdAt, b.id)).filter fun record =>
      record.aiThreadId = threadId ∧ record.status = .success).flatMap
    (recordRows (context.tables.messages.filter fun message =>
      rangeStart ≤ message.occurredAt ∧ message.occurredAt < rangeEnd)
      context.tables.dispatch.responses)

end StoredContext

/-- An argument that should be a `datetime`. -/
inductive PyTime
  | none
  | datetime (value : PyDatetime)
  | other
  deriving DecidableEq, Repr

/-- `_required_aware_datetime`. -/
def requiredAwareDatetime (value : PyTime) (fieldName : String) : Except StorageError Timestamp :=
  match value with
  | .datetime ⟨wall, some offset⟩ =>
    match PyDatetime.toUtc ⟨wall, some offset⟩ with
    | .ok instant => .ok instant
    | .error _ => .error .other
  | _ => .error (.validation (fieldName ++ " must be timezone-aware"))

/-- An error of the readers, as the tool tells them apart. -/
def StorageError.ofContextError : ContextError → StorageError
  | .validation message => .validation message
  | .payload => .other

namespace StoredContext

/-- `read_range`. -/
def readRange (context : StoredContext) (threadId : String) (occurredAtGte occurredAtLt : PyTime) :
    Except StorageError (List ContextEntry) := do
  let threadId ← (requiredText threadId "thread_id").mapError .ofContextError
  let rangeStart ← requiredAwareDatetime occurredAtGte "occurred_at_gte"
  let rangeEnd ← requiredAwareDatetime occurredAtLt "occurred_at_lt"
  raiseIf (rangeEnd ≤ rangeStart) (.validation "occurred_at_gte must be before occurred_at_lt")
  (context.entries threadId (context.rangeRows threadId rangeStart rangeEnd)).mapError
    .ofContextError

end StoredContext

/-- `_searchable_text`. -/
def searchableText (entry : ContextEntry) : String :=
  "\n".intercalate [entry.content, entry.artifactId, entry.responseId].reduceOption

namespace StoredContext

/-- `search`; `casefold` is `str.casefold`. -/
def search (casefold : String → String) (context : StoredContext) (threadId query : String) :
    Except ContextError (List ContextEntry) := do
  let query ← requiredText query "query"
  let entries ← context.read threadId
  return entries.filter fun entry =>
    (casefold query).toList <:+: (casefold (searchableText entry)).toList

end StoredContext

/-! ## The provider -/

/-- `_required_text` of an argument of any type. -/
def requiredTextOf (value : PyValue) (fieldName : String) : Except ToolError String :=
  match value with
  | .str text =>
    if IsBlank text then .error (.validation (fieldName ++ " must not be empty"))
    else .ok (strip text)
  | _ => .error (.validation (fieldName ++ " must not be empty"))

namespace ContextTool

/-- The identity has a dispatch record on the thread that runs or has succeeded. -/
def Dispatched (context : StoredContext) (tool : ContextTool) : Prop :=
  ∃ record ∈ context.tables.dispatch.records,
    record.enterpriseIdentityId = tool.enterpriseIdentityId ∧
    record.aiThreadId = tool.threadId ∧
    record.status ∈ [HermesDispatchStatus.running, HermesDispatchStatus.success]

instance (context : StoredContext) (tool : ContextTool) : Decidable (tool.Dispatched context) :=
  inferInstanceAs (Decidable (∃ _ ∈ _, _))

/-- `DispatchContextAccessPolicy.allows`, for the identity and the thread of the provider. -/
def Allows (context : StoredContext) (tool : ContextTool) : Prop :=
  tool.allowed = true ∧ tool.Dispatched context

instance (context : StoredContext) (tool : ContextTool) : Decidable (tool.Allows context) :=
  inferInstanceAs (Decidable (_ ∧ _))

/-- `AuthorizedContextProvider._authorize`. -/
def authorize (context : StoredContext) (tool : ContextTool) (threadId : String) :
    Except ToolError String := do
  let threadId ← requiredTextOf (.str threadId) "thread_id"
  raiseIf (threadId ≠ tool.threadId) (.accessDenied threadId)
  raiseIf (¬ tool.Allows context) (.accessDenied threadId)
  return threadId

/-! ## The tool -/

/-- `_provider_call` on what the storage raises: its own errors pass, every other one is a denied
access. -/
def toolError (tool : ContextTool) : StorageError → ToolError
  | .validation message => .validation message
  | .other => .accessDenied tool.threadId

/-- A reader of the provider, called through `_provider_call`. -/
def providerCall (context : StoredContext) (tool : ContextTool)
    (reader : String → Except StorageError (List ContextEntry)) :
    Except ToolError (List ContextEntry) := do
  let threadId ← tool.authorize context tool.threadId
  (reader threadId).mapError tool.toolError

end ContextTool

/-- The `role` of a timeline message. -/
inductive TimelineRole
  | user
  | assistant
  deriving DecidableEq, Repr

/-- `ContextTimelineMessage`. -/
structure ContextTimelineMessage where
  role : TimelineRole
  kind : ContextEntryKind
  content : Option String
  occurredAt : Timestamp
  receivedAt : Timestamp
  createdAt : Timestamp
  messageId : Int
  responseId : Option String
  partOrdinal : Option ℕ
  artifactId : Option String
  deriving DecidableEq, Repr

/-- `ContextTimeline`. -/
structure ContextTimeline where
  threadId : String
  messages : List ContextTimelineMessage
  deriving DecidableEq, Repr

/-- `_timeline_message`. -/
def timelineMessage (entry : ContextEntry) : ContextTimelineMessage where
  role := if entry.kind = .message then .user else .assistant
  kind := entry.kind
  content := entry.content
  occurredAt := entry.occurredAt
  receivedAt := entry.receivedAt
  createdAt := entry.createdAt
  messageId := entry.messageId
  responseId := entry.responseId
  partOrdinal := entry.partOrdinal
  artifactId := entry.artifactId

/-- `DEFAULT_RECENT_CONTEXT_TURNS`. -/
def defaultRecentContextTurns : Int := 20

/-- `MAX_RECENT_CONTEXT_TURNS`. -/
def maxRecentContextTurns : Int := 100

/-- `_recent_turn_limit`. -/
def recentTurnLimit (value : PyValue) : Except ToolError Int :=
  match value with
  | .int limit =>
    if 1 ≤ limit ∧ limit ≤ maxRecentContextTurns then .ok limit
    else .error (.validation "limit must be between 1 and 100")
  | _ => .error (.validation "limit must be an integer")

/-- The loop of `read_recent_messages` over the reversed entries, until `limit` message ids have
been selected. -/
def selectMessageIds (limit : Int) (selected : List Int) : List ContextEntry → List Int
  | [] => selected
  | entry :: entries =>
    let selected := selected.insert entry.messageId
    if selected.length = limit then selected else selectMessageIds limit selected entries

namespace ContextTool

/-- `_timeline`. -/
def timeline (tool : ContextTool) (entries : List ContextEntry) :
    Except ToolError ContextTimeline := do
  raiseIf (∃ entry ∈ entries, entry.threadId ≠ tool.threadId) (.accessDenied tool.threadId)
  return ⟨tool.threadId, entries.map timelineMessage⟩

/-- `read_current_thread`. -/
def readCurrentThread (context : StoredContext) (tool : ContextTool) :
    Except ToolError ContextTimeline := do
  let entries ← tool.providerCall context fun threadId =>
    (context.read threadId).mapError .ofContextError
  tool.timeline entries

/-- `read_recent_messages`. -/
def readRecentMessages (context : StoredContext) (tool : ContextTool) (limit : PyValue)
    (occurredAtGte occurredAtLt : PyTime) : Except ToolError ContextTimeline := do
  let limit ← recentTurnLimit limit
  raiseIf (¬ (occurredAtGte = .none ↔ occurredAtLt = .none))
    (.validation "occurred_at_gte and occurred_at_lt must be provided together")
  let entries ←
    if occurredAtGte = .none ∨ occurredAtLt = .none then
      tool.providerCall context fun threadId =>
        (context.readRecent threadId limit).mapError .ofContextError
    else
      tool.providerCall context fun threadId =>
        context.readRange threadId occurredAtGte occurredAtLt
  let selected := selectMessageIds limit [] entries.reverse
  tool.timeline (entries.filter fun entry => entry.messageId ∈ selected)

/-- `search_thread_context`. -/
def searchThreadContext (casefold : String → String) (context : StoredContext)
    (tool : ContextTool) (query : PyValue) : Except ToolError ContextTimeline := do
  let query ← requiredTextOf query "query"
  let entries ← tool.providerCall context fun threadId =>
    (context.search casefold threadId query).mapError .ofContextError
  tool.timeline entries

end ContextTool

/-- The arguments of `invoke`. -/
structure Invocation where
  toolName : PyValue
  threadId : PyValue
  identity : PyValue
  query : PyValue
  limit : PyValue
  occurredAtGte : PyTime
  occurredAtLt : PyTime
  deriving DecidableEq, Repr

namespace ContextTool

/-- `_authorize_invocation`. -/
def authorizeInvocation (tool : ContextTool) (threadId identity : PyValue) :
    Except ToolError Unit := do
  let threadId ← requiredTextOf threadId "thread_id"
  let identity ← requiredTextOf identity "identity"
  raiseIf (threadId ≠ tool.threadId ∨ identity ≠ tool.enterpriseIdentityId)
    (.accessDenied threadId)

/-- The branch of `invoke` for `context.read`. -/
def invokeRead (context : StoredContext) (tool : ContextTool) (invocation : Invocation) :
    Except ToolError ContextTimeline := do
  raiseIf (invocation.query ≠ .none) (.validation "context.read does not accept query")
  if invocation.limit = .none ∧ invocation.occurredAtGte = .none ∧
      invocation.occurredAtLt = .none then
    tool.readCurrentThread context
  else
    tool.readRecentMessages context
      (if invocation.limit = .none then .int defaultRecentContextTurns else invocation.limit)
      invocation.occurredAtGte invocation.occurredAtLt

/-- The branch of `invoke` for `context.search`. -/
def invokeSearch (casefold : String → String) (context : StoredContext) (tool : ContextTool)
    (invocation : Invocation) : Except ToolError ContextTimeline := do
  raiseIf (invocation.limit ≠ .none ∨ invocation.occurredAtGte ≠ .none ∨
      invocation.occurredAtLt ≠ .none)
    (.validation "context.search does not accept limit or occurred_at range")
  raiseIf (invocation.query = .none) (.validation "context.search requires query")
  tool.searchThreadContext casefold context invocation.query

/-- `ContextTool.invoke`. -/
def invoke (casefold : String → String) (context : StoredContext) (tool : ContextTool)
    (invocation : Invocation) : Except ToolError ContextTimeline := do
  tool.authorizeInvocation invocation.threadId invocation.identity
  let name ← requiredTextOf invocation.toolName "tool_name"
  if name = "context.read" then tool.invokeRead context invocation
  else if name = "context.search" then tool.invokeSearch casefold context invocation
  else .error (.validation "unsupported context tool")

end ContextTool
end AgentGateway.Context
