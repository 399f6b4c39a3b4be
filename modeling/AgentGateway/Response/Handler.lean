import AgentGateway.Dispatch.Service
import AgentGateway.Workspace.Store

/-!
# Routing a result back

`HermesResponseHandler.process` checks that the result of a dispatch belongs to the conversation of
its message before it is sent. It rebuilds the key of the thread, as the dispatch did before it.
-/

namespace AgentGateway.Response

open Lib Dispatch Workspace

/-- The key that a dispatch and the handler of its result expect the thread to have. -/
def expectedThreadKey (codec : KeyCodec) (message : DispatchMessage) (enterpriseIdentityId : String)
    (profile : AgentProfile) (threadPolicy : ThreadPolicy) : Except KeyError String :=
  codec.buildV2ThreadKey {
    platform := message.source
    accountId := message.sourceAccountId
    physicalConversationId := message.conversationId
    conversationType := .text message.conversationType
    senderIdentityId := some enterpriseIdentityId
    agentProfileId := profile.id
    agentProfileRevision := some (.number profile.revision)
    threadPolicy := .member threadPolicy }

/-- The rows the handler reads, and the account of its sender. -/
structure HandlerFacts where
  message : Option DispatchMessage
  thread : Option AIThread
  record : Option HermesDispatchRecord
  profile : Option AgentProfile
  binding : Option ThreadSourceBinding
  threadBindings : List ThreadSourceBinding
  senderAccountId : String
  deriving DecidableEq, Repr

/-- What the handler raises: a `HermesDeliveryError` with its reason, or the `ValueError` of a key
that cannot be built. -/
inductive HandlerError
  | delivery (reason : String)
  | key (error : KeyError)
  deriving DecidableEq, Repr

/-- `_validate_thread`. -/
def validateThread (thread : AIThread) (response : Hermes.HermesDispatchOutcome) :
    Except HandlerError Unit := do
  raiseIf (thread.threadType = .privateThread ∧ thread.workspaceId ≠ response.workspaceId)
    (.delivery "ai_thread_workspace_mismatch")
  raiseIf (thread.status ≠ .active) (.delivery "ai_thread_unavailable")

/-- `_process_v2_response`: the conversation and the text to send. -/
def processV2Response (codec : KeyCodec) (facts : HandlerFacts) (thread : AIThread)
    (message : DispatchMessage) (response : Hermes.HermesDispatchOutcome) :
    Except HandlerError (String × String) := do
  raiseIf (thread.agentProfileId = none) (.delivery "v2_route_snapshot_invalid")
  let threadPolicy ← raiseIfNone thread.threadPolicy (.delivery "v2_route_snapshot_invalid")
  let record ← raiseIfNone facts.record (.delivery "dispatch_record_not_found")
  raiseIf (record.messageId ≠ message.id ∨ record.aiThreadId ≠ thread.id ∨
    record.workspaceId ≠ response.workspaceId) (.delivery "conversation_mismatch")
  let profile ← raiseIfNone facts.profile (.delivery "agent_profile_not_found")
  let threadKey ← (expectedThreadKey codec message record.enterpriseIdentityId profile
    threadPolicy).mapError HandlerError.key
  raiseIf (threadKey ≠ thread.threadKey) (.delivery "conversation_mismatch")
  raiseIf (facts.senderAccountId ≠ message.sourceAccountId) (.delivery "sender_account_mismatch")
  raiseIf (response.assistantContent = "") (.delivery "empty_assistant_content")
  return (message.conversationId, response.assistantContent)

/-- The branch for a thread without a route. -/
def processV1Response (facts : HandlerFacts) (message : DispatchMessage)
    (response : Hermes.HermesDispatchOutcome) : Except HandlerError (String × String) := do
  let binding ← raiseIfNone facts.binding (.delivery
    (if facts.threadBindings ≠ [] then "conversation_mismatch" else "source_binding_not_found"))
  raiseIf (binding.aiThreadId ≠ response.aiThreadId ∨ binding.platform ≠ message.source ∨
    binding.accountId ≠ message.sourceAccountId ∨
    binding.physicalConversationId ≠ message.conversationId) (.delivery "conversation_mismatch")
  raiseIf (facts.senderAccountId ≠ binding.accountId) (.delivery "sender_account_mismatch")
  raiseIf (response.assistantContent = "") (.delivery "empty_assistant_content")
  return (binding.physicalConversationId, response.assistantContent)

/-- `HermesResponseHandler.process`, up to `send_text`. -/
def handleResponse (codec : KeyCodec) (facts : HandlerFacts)
    (response : Hermes.HermesDispatchOutcome) : Except HandlerError (String × String) := do
  let message ← raiseIfNone facts.message (.delivery "message_not_found")
  let thread ← raiseIfNone facts.thread (.delivery "ai_thread_not_found")
  validateThread thread response
  raiseIf (message.source ≠ "wechat") (.delivery "unsupported_source")
  if thread.agentProfileId ≠ none ∨ thread.threadPolicy ≠ none then
    processV2Response codec facts thread message response
  else processV1Response facts message response

/-! ## Why a dispatch is rejected -/

/-- The reasons that say nothing about whether thread and message belong together. -/
def otherReasons : List String :=
  ["dispatch_record_not_claimed", "message_not_found", "ai_thread_not_found",
    "ai_thread_unavailable", "workspace_not_found", "workspace_unavailable",
    "workspace_identity_mismatch", "agent_profile_not_found", "agent_profile_unavailable",
    "v2_route_snapshot_invalid", "empty_message_content"]

/-- What is behind a rejection. -/
inductive Rejection (facts : DispatchFacts) (record : HermesDispatchRecord)
    (threads : List AIThread) : String → Prop
  | workspace {thread : AIThread}
      (hread : facts.thread = some thread ∨
        threads.find? (fun row => row.id = record.aiThreadId) = some thread)
      (htype : thread.threadType = .privateThread)
      (hworkspace : thread.workspaceId ≠ record.workspaceId) :
      Rejection facts record threads "ai_thread_workspace_mismatch"
  | unbound {thread : AIThread} (hread : facts.thread = some thread)
      (hprofile : thread.agentProfileId = none) (hpolicy : thread.threadPolicy = none)
      (hbinding : facts.sourceBindingThreadId = none) :
      Rejection facts record threads "source_binding_not_found"
  | bound {thread : AIThread} {other : String} (hread : facts.thread = some thread)
      (hprofile : thread.agentProfileId = none) (hpolicy : thread.threadPolicy = none)
      (hbinding : facts.sourceBindingThreadId = some other) (hother : other ≠ thread.id) :
      Rejection facts record threads "message_thread_mismatch"
  | key {thread : AIThread} {profileId : String} {policy : ThreadPolicy} {profile : AgentProfile}
      (hread : facts.thread = some thread) (hprofile : thread.agentProfileId = some profileId)
      (hpolicy : thread.threadPolicy = some policy) (hrow : facts.profile = some profile)
      (hkey : facts.expectedThreadKey ≠ thread.threadKey) :
      Rejection facts record threads "message_thread_mismatch"
  | other {reason : String} (h : reason ∈ otherReasons) : Rejection facts record threads reason

section

variable {facts : DispatchFacts} {record : HermesDispatchRecord} {threads : List AIThread}
  {thread : AIThread} {reason : String}

lemma rejection_other {reason' : String} (hreason : reason' ∈ otherReasons)
    (h : DispatchException.dispatchError reason' = .dispatchError reason) :
    Rejection facts record threads reason := by
  cases h
  exact .other hreason

lemma rejection_checkThread
    (hread : facts.thread = some thread ∨
      threads.find? (fun row => row.id = record.aiThreadId) = some thread)
    (h : Dispatch.checkThread record thread = .error (.dispatchError reason)) :
    Rejection facts record threads reason := by
  simp only [Dispatch.checkThread, bind_eq_error, raiseIf_eq_error] at h
  rcases h with ⟨hmismatch, herror⟩ | ⟨-, -, -, herror⟩
  · cases herror
    exact .workspace hread hmismatch.1 hmismatch.2
  · exact rejection_other (by decide) herror

lemma rejection_resolveDispatchProfile (hread : facts.thread = some thread)
    (h : resolveDispatchProfile facts thread = .error (.dispatchError reason)) :
    Rejection facts record threads reason := by
  unfold resolveDispatchProfile at h
  split at h
  · rename_i hprofile hpolicy
    simp only [bind_eq_error, raiseIf_eq_error, raiseIfNone_eq_error, raiseIfNone_eq_ok] at h
    rcases h with ⟨hbinding, herror⟩ | ⟨bound, hbinding, ⟨hother, herror⟩ | ⟨-, -, h⟩⟩
    · cases herror
      exact .unbound hread hprofile hpolicy hbinding
    · cases herror
      exact .bound hread hprofile hpolicy hbinding hother
    · cases h
  · rename_i hprofile hpolicy
    simp only [bind_eq_error, raiseIf_eq_error, raiseIfNone_eq_error, raiseIfNone_eq_ok] at h
    rcases h with ⟨-, herror⟩ | ⟨profile, hrow, ⟨-, herror⟩ | ⟨-, -, ⟨hkey, herror⟩ | ⟨-, -, h⟩⟩⟩
    · exact rejection_other (by decide) herror
    · exact rejection_other (by decide) herror
    · cases herror
      exact .key hread hprofile hpolicy hrow hkey
    · cases h
  · cases h
    exact .other (by decide)

lemma rejection_dispatchChecks
    (h : dispatchChecks facts record threads = .error (.dispatchError reason)) :
    Rejection facts record threads reason := by
  simp only [dispatchChecks, bind_eq_error, raiseIf_eq_error, raiseIfNone_eq_error, raiseIfNone_eq_ok] at h
  rcases h with ⟨-, h⟩ | ⟨-, -, ⟨-, h⟩ | ⟨message, -, ⟨-, h⟩ | ⟨thread, hthread, h | ⟨-, -, ⟨-, h⟩ |
    ⟨workspace, -, ⟨-, h⟩ | ⟨-, -, ⟨-, h⟩ | ⟨-, -, h | ⟨profile, -, ⟨-, h⟩ | ⟨-, -, ⟨-, h⟩ |
    ⟨locked, hlocked, h | ⟨-, -, h⟩⟩⟩⟩⟩⟩⟩⟩⟩⟩⟩
  · exact rejection_other (by decide) h
  · exact rejection_other (by decide) h
  · exact rejection_other (by decide) h
  · exact rejection_checkThread (Or.inl hthread) h
  · exact rejection_other (by decide) h
  · exact rejection_other (by decide) h
  · exact rejection_other (by decide) h
  · exact rejection_resolveDispatchProfile hthread h
  · exact rejection_other (by decide) h
  · exact rejection_other (by decide) h
  · exact rejection_checkThread (Or.inr hlocked) h
  · cases h

/-- Every rejection of `dispatch_record` has one of these grounds. -/
lemma rejection_prepareDispatch
    (h : (prepareDispatch facts record threads).2 = .error (.dispatchError reason)) :
    Rejection facts record threads reason := by
  unfold prepareDispatch at h
  split at h
  · rename_i error hchecks
    cases h
    exact rejection_dispatchChecks hchecks
  · split at h
    · rename_i error hthread
      cases h
      unfold hermesThreadFor at hthread
      split at hthread
      · cases hthread
      · split at hthread <;> cases hthread
    · unfold buildInvocation at h
      split at h
      · cases h
      · simp only [sessionMetadata, bind_eq_error, raiseIfNone_eq_error] at h
        rcases h with (⟨-, h⟩ | ⟨policy, -, h⟩) | ⟨metadata, -, h⟩
        · exact rejection_other (by decide) h
        · cases h
        · cases h

end

/-! ## Why a result is not delivered -/

/-- The reasons that mean a message has met the wrong thread. -/
def Misdirected (reason : String) : Prop :=
  reason = "message_thread_mismatch" ∨ reason = "conversation_mismatch" ∨
    reason = "ai_thread_workspace_mismatch"

instance : DecidablePred Misdirected := fun _ => inferInstanceAs (Decidable (_ ∨ _ ∨ _))

section

variable {codec : KeyCodec} {facts : HandlerFacts} {thread : AIThread} {message : DispatchMessage}
  {response : Hermes.HermesDispatchOutcome} {record : HermesDispatchRecord} {reason : String}

/-- The handler never finds that a result of a routed thread is misdirected, if the record is for it
and the key rebuilt from the message is the key of the thread. -/
lemma handleResponse_not_misdirected (hmessage : facts.message = some message)
    (hthread : facts.thread = some thread) (hrecord : facts.record = some record)
    (hrouted : thread.agentProfileId ≠ none ∨ thread.threadPolicy ≠ none)
    (hworkspace : thread.threadType = .privateThread → thread.workspaceId = response.workspaceId)
    (hfor : record.messageId = message.id ∧ record.aiThreadId = thread.id ∧
      record.workspaceId = response.workspaceId)
    (hkey : ∀ profile ∈ facts.profile, ∀ policy ∈ thread.threadPolicy,
      expectedThreadKey codec message record.enterpriseIdentityId profile policy =
        .ok thread.threadKey)
    (hreason : Misdirected reason) :
    handleResponse codec facts response ≠ .error (.delivery reason) := by
  intro h
  simp only [handleResponse, bind_eq_error, raiseIfNone_eq_error, raiseIfNone_eq_ok, hmessage,
    hthread, validateThread, raiseIf_eq_error, raiseIf_eq_ok, Option.some.injEq, reduceCtorEq,
    false_and, false_or] at h
  obtain ⟨_, rfl, _, rfl, h⟩ := h
  rcases h with (⟨hmismatch, -⟩ | ⟨-, -, -, h⟩) | ⟨-, -, ⟨-, h⟩ | ⟨-, -, h⟩⟩
  · exact hmismatch.2 (hworkspace hmismatch.1)
  · cases h
    exact absurd hreason (by decide)
  · cases h
    exact absurd hreason (by decide)
  · rw [if_pos hrouted] at h
    simp only [processV2Response, bind_eq_error, raiseIfNone_eq_error, raiseIfNone_eq_ok, hrecord,
      raiseIf_eq_error, raiseIf_eq_ok, Option.some.injEq, reduceCtorEq, false_and, false_or] at h
    rcases h with ⟨-, h⟩ | ⟨-, -, ⟨-, h⟩ | ⟨policy, hpolicy, _, rfl, ⟨hmismatch, -⟩ | ⟨-, -,
      ⟨-, h⟩ | ⟨profile, hprofile, h | ⟨key, hok, ⟨hne, -⟩ | ⟨-, -, ⟨-, h⟩ | ⟨-, -, ⟨-, h⟩ |
      ⟨-, -, h⟩⟩⟩⟩⟩⟩⟩⟩
    · cases h
      exact absurd hreason (by decide)
    · cases h
      exact absurd hreason (by decide)
    · rcases hmismatch with hne | hne | hne
      · exact hne hfor.1
      · exact hne hfor.2.1
      · exact hne hfor.2.2
    · cases h
      exact absurd hreason (by decide)
    · rw [hkey profile hprofile policy hpolicy] at h
      cases h
    · rw [hkey profile hprofile policy hpolicy] at hok
      cases hok
      exact hne rfl
    · cases h
      exact absurd hreason (by decide)
    · cases h
      exact absurd hreason (by decide)
    · cases h

end

end AgentGateway.Response
