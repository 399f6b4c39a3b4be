import AgentGateway.Dispatch.Tables

/-!
# Dispatching one record to Hermes

`HermesDispatchService.dispatch_record` up to its call of `client.chat`, the errors a dispatch can
raise, and how a worker classifies them. Everything before the call is a sequence of checks, each
with its own reason; the call itself is made at most once.
-/

namespace AgentGateway.Dispatch

open Lib Lib.Table Hermes

/-! ## Errors and their classification -/

/-- What `HermesClient.chat` can raise. `unexpected` is any exception that is not a
`HermesError`. -/
inductive ChatError
  | apiError (statusCode : Int)
  | transportError
  | timeoutError
  | executionTimeoutError
  | responseError
  | unexpected
  deriving DecidableEq, Repr

/-- What `dispatch_record` can raise: a rejection of its own, or what the chat call raised. -/
inductive DispatchException
  | dispatchError (reason : String)
  | chat (error : ChatError)
  deriving DecidableEq, Repr

/-- `_POST_CALL_DISPATCH_ERRORS`. -/
def postCallDispatchErrors : List String := ["hermes_thread_advanced_concurrently"]

/-- `dispatch_failure_status`: only a rejection before the call or an API error below 500 leaves
no doubt that nothing was executed. -/
def dispatchFailureStatus : DispatchException → HermesDispatchStatus
  | .dispatchError reason => if reason ∈ postCallDispatchErrors then .uncertain else .failed
  | .chat (.apiError statusCode) => if 500 ≤ statusCode then .uncertain else .failed
  | .chat _ => .uncertain

/-- `dispatch_error_code`. -/
def dispatchErrorCode : DispatchException → String
  | .dispatchError reason => "hermes_dispatch_error:" ++ reason
  | .chat (.apiError statusCode) => "hermes_api_error:http_" ++ toString statusCode
  | .chat .transportError => "hermes_transport_error"
  | .chat .timeoutError => "hermes_timeout_error"
  | .chat .executionTimeoutError => "hermes_execution_timeout_error"
  | .chat .responseError => "hermes_response_error"
  | .chat .unexpected => "unexpected_dispatch_error"

/-! ## The call -/

/-- The columns of a stored message that a dispatch reads. -/
structure DispatchMessage where
  id : Int
  source : String
  sourceAccountId : String
  conversationId : String
  conversationType : String
  senderId : Option String
  content : String
  deriving DecidableEq, Repr

/-- `EmployeeWorkspace`. -/
structure EmployeeWorkspace where
  id : String
  enterpriseIdentityId : String
  status : ResourceStatus
  deriving DecidableEq, Repr

/-- `AgentProfile`. -/
structure AgentProfile where
  id : String
  revision : ℕ
  externalProfileRef : String
  status : ResourceStatus
  deriving DecidableEq, Repr

/-- The session metadata of a call with an agent profile. -/
structure SessionMetadata where
  messageId : Int
  source : String
  sourceAccountId : String
  conversationId : String
  conversationType : String
  enterpriseIdentityId : String
  senderId : Option String
  threadId : String
  threadPolicy : ThreadPolicy
  contextAvailable : Bool
  availableTools : List String
  deriving DecidableEq, Repr

/-- The arguments that only a call with an agent profile has. -/
structure ProfileInvocation where
  profileReference : String
  profileRevision : ℕ
  threadId : String
  sessionMetadata : SessionMetadata
  deriving DecidableEq, Repr

/-- The arguments of `client.chat`. -/
structure Invocation where
  content : String
  hermesThreadId : String
  idempotencyKey : String
  profile : Option ProfileInvocation
  deriving DecidableEq, Repr

/-- What `_dispatch` reads besides the record and the locked thread. The thread is the first,
unlocked read; the key is what `build_v2_thread_key` builds for the message and the profile. -/
structure DispatchFacts where
  message : Option DispatchMessage
  thread : Option AIThread
  workspace : Option EmployeeWorkspace
  sourceBindingThreadId : Option String
  profile : Option AgentProfile
  expectedThreadKey : String
  contextAvailable : Bool
  availableTools : List String
  deriving DecidableEq, Repr

/-- The checks `_dispatch` makes on the thread, on the first read and on the locked one. -/
def checkThread (record : HermesDispatchRecord) (thread : AIThread) :
    Except DispatchException Unit := do
  raiseIf (thread.threadType = .privateThread ∧ thread.workspaceId ≠ record.workspaceId)
    (.dispatchError "ai_thread_workspace_mismatch")
  raiseIf (thread.status ≠ .active) (.dispatchError "ai_thread_unavailable")

/-- `_resolve_dispatch_profile`. -/
def resolveDispatchProfile (facts : DispatchFacts) (thread : AIThread) :
    Except DispatchException (Option AgentProfile) :=
  match thread.agentProfileId, thread.threadPolicy with
  | none, none => do
    let bound ← raiseIfNone facts.sourceBindingThreadId (.dispatchError "source_binding_not_found")
    raiseIf (bound ≠ thread.id) (.dispatchError "message_thread_mismatch")
    return none
  | some _, some _ => do
    let profile ← raiseIfNone facts.profile (.dispatchError "agent_profile_not_found")
    raiseIf (profile.status ≠ .active) (.dispatchError "agent_profile_unavailable")
    raiseIf (facts.expectedThreadKey ≠ thread.threadKey)
      (.dispatchError "message_thread_mismatch")
    return some profile
  | _, _ => .error (.dispatchError "v2_route_snapshot_invalid")

/-- `_session_metadata`. -/
def sessionMetadata (facts : DispatchFacts) (record : HermesDispatchRecord)
    (message : DispatchMessage) (thread : AIThread) :
    Except DispatchException SessionMetadata := do
  let threadPolicy ← raiseIfNone thread.threadPolicy (.dispatchError "v2_route_snapshot_invalid")
  return {
    messageId := message.id
    source := message.source
    sourceAccountId := message.sourceAccountId
    conversationId := message.conversationId
    conversationType := message.conversationType
    enterpriseIdentityId := record.enterpriseIdentityId
    senderId := message.senderId
    threadId := thread.id
    threadPolicy := threadPolicy
    contextAvailable := facts.contextAvailable
    availableTools := if facts.contextAvailable then facts.availableTools else [] }

/-- `_initial_hermes_thread_id`. -/
def initialHermesThreadId (threadId : String) : String := "v1:cf-agent-gateway:" ++ threadId

/-- `claim_hermes_thread`: a thread without a Hermes session gets the proposed one. The column is
unique, so a session another thread has is a conflict, which is no `HermesError`. -/
def claimHermesThread (threadId hermesThreadId : String) (threads : List AIThread) :
    Option (List AIThread) :=
  if ∃ thread ∈ threads, thread.id ≠ threadId ∧ thread.hermesThreadId = some hermesThreadId then
    none
  else
    some (updateWhere
      (fun thread : AIThread => thread.id = threadId ∧ thread.hermesThreadId = none)
      (fun thread => { thread with hermesThreadId := some hermesThreadId }) threads)

/-- The Hermes session of the locked thread, claimed if it has none yet. -/
def hermesThreadFor (thread : AIThread) (threads : List AIThread) :
    Except DispatchException (List AIThread × String) :=
  match thread.hermesThreadId with
  | some hermesThreadId => .ok (threads, hermesThreadId)
  | none =>
    match claimHermesThread thread.id (initialHermesThreadId thread.id) threads with
    | none => .error (.chat .unexpected)
    | some claimed => .ok (claimed, initialHermesThreadId thread.id)

/-- The checks of `dispatch_record`, in order: the message, the resolved profile and the locked
thread they leave. `record` is the row the worker has loaded; its target ids are never null, so
`_allowed_target` lets it through. -/
def dispatchChecks (facts : DispatchFacts) (record : HermesDispatchRecord)
    (threads : List AIThread) :
    Except DispatchException (DispatchMessage × Option AgentProfile × AIThread) := do
  raiseIf (record.status ≠ .running ∨ record.claimToken = none)
    (.dispatchError "dispatch_record_not_claimed")
  let message ← raiseIfNone facts.message (.dispatchError "message_not_found")
  let thread ← raiseIfNone facts.thread (.dispatchError "ai_thread_not_found")
  checkThread record thread
  let workspace ← raiseIfNone facts.workspace (.dispatchError "workspace_not_found")
  raiseIf (workspace.status ≠ .active) (.dispatchError "workspace_unavailable")
  raiseIf (workspace.enterpriseIdentityId ≠ record.enterpriseIdentityId)
    (.dispatchError "workspace_identity_mismatch")
  let profile ← resolveDispatchProfile facts thread
  raiseIf (message.content = "") (.dispatchError "empty_message_content")
  let locked ← raiseIfNone (threads.find? fun row => row.id = record.aiThreadId)
    (.dispatchError "ai_thread_not_found")
  checkThread record locked
  return (message, profile, locked)

/-- The arguments of the call, once the Hermes session is known. -/
def buildInvocation (facts : DispatchFacts) (record : HermesDispatchRecord)
    (message : DispatchMessage) (profile : Option AgentProfile) (thread : AIThread)
    (hermesThreadId : String) : Except DispatchException Invocation :=
  match profile with
  | none => .ok ⟨message.content, hermesThreadId, record.idempotencyKey, none⟩
  | some profile => do
    let metadata ← sessionMetadata facts record message thread
    return ⟨message.content, hermesThreadId, record.idempotencyKey,
      some ⟨profile.externalProfileRef, profile.revision, thread.id, metadata⟩⟩

/-- `dispatch_record` up to `client.chat`: the thread table it leaves, and the rejection it raises
or the call it is about to make. A claimed Hermes session is committed on its own. -/
def prepareDispatch (facts : DispatchFacts) (record : HermesDispatchRecord)
    (threads : List AIThread) : List AIThread × Except DispatchException Invocation :=
  match dispatchChecks facts record threads with
  | .error error => (threads, .error error)
  | .ok (message, profile, locked) =>
    match hermesThreadFor locked threads with
    | .error error => (threads, .error error)
    | .ok (claimed, hermesThreadId) =>
      (claimed, buildInvocation facts record message profile locked hermesThreadId)

/-- The outcome `dispatch_record` builds from the answer of the call. -/
def dispatchOutcome (record : HermesDispatchRecord) (invocation : Invocation)
    (result : HermesChatResult) : HermesDispatchOutcome where
  messageId := record.messageId
  workspaceId := record.workspaceId
  aiThreadId := record.aiThreadId
  assistantContent := result.assistantContent
  response := result.response
  requestedHermesThreadId := some invocation.hermesThreadId
  nextHermesThreadId := some result.hermesThreadId

end AgentGateway.Dispatch
