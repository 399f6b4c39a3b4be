import AgentGateway.Lib.Program
import AgentGateway.Polling.Lifecycle

/-!
# The polling service

`WechatPollingService.poll_once` as a program that makes requests: of the agent-wechat client, of
the database session behind the checkpoint store, of the message sink and of the clock. Nothing is
assumed here about the replies; any of them may be an error.

`_poll_chat` is one function in the source. It is split where the source has early returns:

* `pollChat`: parse the chat, list its messages, check them,
* `pollWindow`: record the window and load the checkpoint; `pollLoaded`, `pollTaken`: deal with an
  empty window and with the marker an earlier one left,
* `bootstrap`: create the checkpoint of a chat seen for the first time,
* `checkAnchor`: is the message at the checkpoint still the one that was seen there?
* `recover`: it is not, so `rewind`, `rebase` or go on with the `liveSuffix`,
* `deliver`: the loop over the messages.
-/

namespace AgentGateway.Polling

open Lib Polling.Checkpoint

/-! ## Requests -/

/-- `AgentWechatAuthStatus`. -/
structure AgentWechatAuthStatus where
  status : String
  loggedInUser : Option String
  deriving DecidableEq, Repr

/-- `source_account_id`. -/
def AgentWechatAuthStatus.sourceAccountId (auth : AgentWechatAuthStatus) : Option String :=
  if auth.status = "logged_in" then auth.loggedInUser else none

/-- What a database session raises, as far as the store tells errors apart. -/
inductive DatabaseError
  | integrity
  | other
  deriving DecidableEq, Repr

/-- What the service asks of its surroundings. A write is a statement with its commit. -/
inductive Request
  | getAuthStatus
  | listChats
  | listMessages (conversationId : String)
  | select (key : ChatKey)
  | insert (key : ChatKey) (checkpoint : WechatSyncCheckpoint)
  | update (key : ChatKey) (statement : CasStatement)
  | handle (message : NormalizedWechatMessage)
  | clock
  deriving DecidableEq

/-- The replies to each request. An update tells whether it matched the row; a clock may return
something that is not a `datetime`. -/
@[reducible] def Reply : Request → Type
  | .getAuthStatus => Except Raised AgentWechatAuthStatus
  | .listChats => Except Raised (List ChatEntry)
  | .listMessages _ => Except Raised (List WechatMessage)
  | .select _ => Except DatabaseError Row
  | .insert _ _ => Except DatabaseError Unit
  | .update _ _ => Except DatabaseError Bool
  | .handle _ => Except Raised MessageSinkDisposition
  | .clock => Except Raised (Option PyDatetime)

abbrev Poll := Program Request Reply

/-- A request of the polling service with its reply. -/
abbrev PollEvent := Program.Event Request Reply

/-- The message that a call of the sink is about. -/
def PollEvent.handed : PollEvent → Option NormalizedWechatMessage
  | ⟨.handle message, _⟩ => some message
  | _ => none

/-! ## Store calls -/

/-- The `_reload` at the end of a store call. -/
def requireRow (key : ChatKey) (changed : Bool) :
    Poll (Except Raised (WechatSyncCheckpoint × Bool)) :=
  .call (.select key) fun
    | .error _ => .done (.error .other)
    | .ok none => .done (.error (.ofCheckpoint .notFound))
    | .ok (some checkpoint) => .done (.ok (checkpoint, changed))

/-- A store call whose validation has raised, has found nothing to write or has built a statement:
`_apply_cas`, which commits before it reloads. -/
def compareAndSwap (key : ChatKey)
    (prepared : Except WechatCheckpointError (Option CasStatement)) :
    Poll (Except Raised (WechatSyncCheckpoint × Bool)) :=
  match prepared with
  | .error error => .done (.error (.ofCheckpoint error))
  | .ok none => requireRow key false
  | .ok (some statement) =>
    .call (.update key statement) fun
      | .error _ => .done (.error .other)
      | .ok changed => requireRow key changed

/-- `initialize` once the arguments have been validated. -/
def insertRow (key : ChatKey) (created : WechatSyncCheckpoint) :
    Poll (Except Raised (WechatSyncCheckpoint × Bool)) :=
  .call (.select key) fun
    | .error _ => .done (.error .other)
    | .ok (some existing) => .done (.ok (existing, false))
    | .ok none =>
      .call (.insert key created) fun
        | .ok () => .done (.ok (created, true))
        | .error .other => .done (.error .other)
        | .error .integrity =>
          .call (.select key) fun
            | .error _ => .done (.error .other)
            | .ok none => .done (.error .other)
            | .ok (some existing) => .done (.ok (existing, false))

/-- `initialize`, whose validation has raised or has built the row to create. -/
def initializeRow (key : ChatKey) (prepared : Except WechatCheckpointError WechatSyncCheckpoint) :
    Poll (Except Raised (WechatSyncCheckpoint × Bool)) :=
  match prepared with
  | .error error => .done (.error (.ofCheckpoint error))
  | .ok created => insertRow key created

/-! ## One chat and its window -/

/-- What one call of `_poll_chat` knows once the window is validated. -/
structure ChatWindow where
  sourceAccountId : String
  conversationId : String
  conversationName : Option String
  orderedMessages : List Numbered

namespace ChatWindow

variable (chat : ChatWindow)

def key : ChatKey := (chat.sourceAccountId, chat.conversationId)

def messagesSeen : ℕ := chat.orderedMessages.length

def messagesWithoutServerId : ℕ :=
  chat.orderedMessages.countP fun numbered => !messageHasUsableServerId numbered.2

/-- `ordered_messages[0][0]`, or 0. -/
def remoteFirstLocalId : Int := (chat.orderedMessages.head?.map Prod.fst).getD 0

/-- `ordered_messages[-1][0]`, or 0. -/
def remoteLatestLocalId : Int := (chat.orderedMessages.getLast?.map Prod.fst).getD 0

/-- `skipped_visible`. -/
def skippedVisible (checkpoint : WechatSyncCheckpoint) : ℕ :=
  chat.orderedMessages.countP fun numbered => numbered.1 ≤ checkpoint.lastLocalId

/-- What all results of the call have in common. -/
def result (succeeded : Bool) : ChatPollResult where
  conversationId := some chat.conversationId
  conversationName := chat.conversationName
  succeeded := succeeded
  messagesSeen := chat.messagesSeen
  messagesWithoutServerId := chat.messagesWithoutServerId

/-- The result of a call that skips the whole window by design. -/
def skipped : ChatPollResult :=
  { chat.result true with
    messagesSkippedByCheckpoint := chat.messagesSeen
    bootstrapped := true }

/-- A failure of the checkpoint store. -/
def checkpointFailed (error : Raised) : ChatPollResult :=
  { chat.result false with
    failures := [failure .checkpoint error (some chat.conversationId)] }

/-- `_continuity_failure`. -/
def continuityFailure (messagesSkipped : ℕ) (bootstrapped : Bool) : ChatPollResult :=
  { chat.checkpointFailed .continuity with
    messagesSkippedByCheckpoint := messagesSkipped
    bootstrapped := bootstrapped }

end ChatWindow

/-- How a call of `_poll_chat` ends: with a result, or by an exception. -/
abbrev ChatOutcome := WechatPollingLifecycleState × Except Raised ChatPollResult

/-- `_continuity_failure_result`. -/
def ChatWindow.stop (chat : ChatWindow) (lifecycle : WechatPollingLifecycleState)
    (reason : StopReason) (checkpoint : WechatSyncCheckpoint) (messagesSkipped : ℕ)
    (bootstrapped : Bool) : ChatOutcome :=
  let observed := lifecycle.observeContinuityFailure chat.key
    { checkpointLocalId := checkpoint.lastLocalId
      checkpointGeneration := checkpoint.regressionGeneration
      checkpointFingerprint := checkpoint.lastMessageFingerprint
      remoteFirstLocalId := chat.remoteFirstLocalId
      remoteLatestLocalId := chat.remoteLatestLocalId
      recoveryAction := reason }
  (observed.1, .ok
    { chat.continuityFailure messagesSkipped bootstrapped with
      continuityOnly := true
      continuityStateChanged := observed.2 })

/-- `_normalize_for_chat`. -/
def normalizeForChat (codecs : Codecs) (chat : ChatWindow) (generation : Int)
    (message : WechatMessage) : Except Raised NormalizedWechatMessage := do
  let normalized ← normalizeWechatMessage codecs message chat.sourceAccountId
    chat.conversationName generation
  raiseIf (normalized.conversationId ≠ chat.conversationId) Raised.conversationMismatch
  return normalized

/-- `_compatible_concurrent_advance`. -/
def CompatibleConcurrentAdvance (checkpoint : WechatSyncCheckpoint) (expectedGeneration : Int)
    (localId : Int) (fingerprint : Option String) : Prop :=
  checkpoint.regressionGeneration = expectedGeneration ∧
    (localId < checkpoint.lastLocalId ∨
      checkpoint.lastLocalId = localId ∧ checkpoint.lastMessageFingerprint = fingerprint)

instance (checkpoint : WechatSyncCheckpoint) (generation localId : Int)
    (fingerprint : Option String) :
    Decidable (CompatibleConcurrentAdvance checkpoint generation localId fingerprint) :=
  inferInstanceAs (Decidable (_ ∧ (_ ∨ _)))

/-! ## The service -/

structure WechatPollingService where
  bootstrapMode : BootstrapMode
  codecs : Codecs

/-- The counters of the delivery loop. -/
structure Tally where
  messagesProcessed : ℕ := 0
  messagesNew : ℕ := 0
  messagesDuplicate : ℕ := 0
  messagesSkipped : ℕ := 0
  messagesSkippedAsSelf : ℕ := 0
  deriving DecidableEq, Repr

/-- The result of a delivery loop that has run to its end. -/
def ChatWindow.delivered (chat : ChatWindow) (bootstrapped : Bool) (tally : Tally) :
    ChatPollResult :=
  { chat.result true with
    messagesProcessed := tally.messagesProcessed
    messagesNew := tally.messagesNew
    messagesDuplicate := tally.messagesDuplicate
    messagesSkippedByCheckpoint := tally.messagesSkipped
    messagesSkippedAsSelf := tally.messagesSkippedAsSelf
    bootstrapped := bootstrapped }

/-- The result of a delivery loop that has stopped at a message. -/
def ChatWindow.interrupted (chat : ChatWindow) (bootstrapped : Bool) (tally : Tally)
    (failure : PollFailure) : ChatPollResult :=
  { chat.delivered bootstrapped tally with
    succeeded := false
    messagesFailed := 1
    failures := [failure] }

namespace WechatPollingService

variable (service : WechatPollingService)

/-- `build_wechat_checkpoint_fingerprint`. -/
def fingerprint (message : WechatMessage) : Except Raised (Option String) :=
  buildWechatCheckpointFingerprint service.codecs message

/-! ### Delivery -/

/-- The first half of the loop body: hand the message to the sink, unless it is one's own. -/
def handOver (chat : ChatWindow) (generation : Int) (tally : Tally) (numbered : Numbered) :
    Poll (Except PollFailure Tally) :=
  if isSelfMessage numbered.2 then
    .done (.ok { tally with messagesSkippedAsSelf := tally.messagesSkippedAsSelf + 1 })
  else
    match normalizeForChat service.codecs chat generation numbered.2 with
    | .error error =>
      .done (.error (failure .normalize error (some chat.conversationId) (some numbered.1)))
    | .ok normalized =>
      .call (.handle normalized) fun
        | .error error =>
          .done (.error (failure .sink error (some chat.conversationId) (some numbered.1)))
        | .ok .duplicate =>
          .done (.ok { tally with messagesDuplicate := tally.messagesDuplicate + 1 })
        | .ok .created => .done (.ok { tally with messagesNew := tally.messagesNew + 1 })

/-- The arguments of `advance_cas` in the loop. -/
def advanceStatement (checkpoint : WechatSyncCheckpoint) (localId : Int)
    (fingerprint : Option String) : Except WechatCheckpointError (Option CasStatement) :=
  advanceCas (.int checkpoint.lastLocalId) (.int checkpoint.regressionGeneration)
    (.ofOptionStr checkpoint.lastMessageFingerprint) (.int localId) (.ofOptionStr fingerprint)

/-- The second half: advance the checkpoint to the message, or find that somebody else has. -/
def advanceCursor (chat : ChatWindow) (checkpoint : WechatSyncCheckpoint) (numbered : Numbered) :
    Poll (Except Raised WechatSyncCheckpoint) :=
  match service.fingerprint numbered.2 with
  | .error error => .done (.error error)
  | .ok fingerprint => do
    match ← compareAndSwap chat.key (advanceStatement checkpoint numbered.1 fingerprint) with
    | .error error => return .error error
    | .ok (current, advanced) =>
      if advanced ∨ CompatibleConcurrentAdvance current checkpoint.regressionGeneration
        numbered.1 fingerprint
      then return .ok current
      else return .error .stateConflict

/-- The delivery loop. `current_local_id` is the local id of the checkpoint at each turn. -/
def deliver (chat : ChatWindow) (bootstrapped : Bool) (lifecycle : WechatPollingLifecycleState) :
    WechatSyncCheckpoint → Tally → List Numbered → Poll ChatOutcome
  | _, tally, [] => .done (lifecycle, .ok (chat.delivered bootstrapped tally))
  | checkpoint, tally, numbered :: rest =>
    if numbered.1 ≤ checkpoint.lastLocalId then
      deliver chat bootstrapped lifecycle checkpoint
        { tally with messagesSkipped := tally.messagesSkipped + 1 } rest
    else do
      match ← service.handOver chat checkpoint.regressionGeneration tally numbered with
      | .error failure => return (lifecycle, .ok (chat.interrupted bootstrapped tally failure))
      | .ok handed =>
        match ← service.advanceCursor chat checkpoint numbered with
        | .error error =>
          return (lifecycle, .ok (chat.interrupted bootstrapped handed
            (failure .checkpoint error (some chat.conversationId) (some numbered.1))))
        | .ok current =>
          deliver chat bootstrapped lifecycle current
            (if isSelfMessage numbered.2 then handed
              else { handed with messagesProcessed := handed.messagesProcessed + 1 }) rest

/-! ### Regression -/

/-- How the part before the loop ends: the call is over, or the loop starts from a checkpoint. -/
inductive Prologue
  | ended (outcome : Except Raised ChatPollResult)
  | start (checkpoint : WechatSyncCheckpoint) (bootstrapped : Bool)

/-- The call ends with a result. -/
def Prologue.returned (result : ChatPollResult) : Prologue := .ended (.ok result)

variable (chat : ChatWindow) (lifecycle : WechatPollingLifecycleState)
  (checkpoint : WechatSyncCheckpoint) (bootstrapped : Bool)

/-- Stop with a continuity failure that the lifecycle state remembers. -/
def stopped (reason : StopReason) (messagesSkipped : ℕ) :
    WechatPollingLifecycleState × Prologue :=
  let outcome := chat.stop lifecycle reason checkpoint messagesSkipped bootstrapped
  (outcome.1, .ended outcome.2)

/-- A store failure, with the messages that the call counts as skipped. -/
def recoveryFailed (skipped : ℕ) (error : Raised) : ChatPollResult :=
  { chat.checkpointFailed error with
    messagesSkippedByCheckpoint := skipped
    bootstrapped := bootstrapped }

/-- The store call of a recovery, and what follows if it has won. -/
def recoverWith (prepared : Except WechatCheckpointError (Option CasStatement)) (skipped : ℕ)
    (won : WechatSyncCheckpoint → Prologue) : Poll (WechatPollingLifecycleState × Prologue) := do
  match ← compareAndSwap chat.key prepared with
  | .error error => return (lifecycle, .returned (recoveryFailed chat bootstrapped skipped error))
  | .ok (_, false) =>
    return (lifecycle, .returned (recoveryFailed chat bootstrapped skipped .stateConflict))
  | .ok (current, true) => return (lifecycle, won current)

/-- The arguments of `rewind` in a recovery. -/
def rewindStatement : Except WechatCheckpointError (Option CasStatement) :=
  rewind (.int checkpoint.lastLocalId) (.int checkpoint.regressionGeneration)
    (.ofOptionStr checkpoint.lastMessageFingerprint) (.int (chat.remoteFirstLocalId - 1))

/-- The BACKFILL recovery: everything visible is delivered again, in a new generation. -/
def rewindWindow : Poll (WechatPollingLifecycleState × Prologue) :=
  recoverWith chat lifecycle bootstrapped (rewindStatement chat checkpoint) 0
    fun current => .start current bootstrapped

/-- The arguments of `rebase_latest_after_regression` in a recovery. -/
def rebaseStatement (latestLocalId : Int) (latestFingerprint : String) :
    Except WechatCheckpointError (Option CasStatement) :=
  rebaseLatestAfterRegression (.int checkpoint.lastLocalId)
    (.int checkpoint.regressionGeneration) (.ofOptionStr checkpoint.lastMessageFingerprint)
    (.int latestLocalId) (.str latestFingerprint)

/-- The LATEST recovery without evidence: everything visible is skipped. The fingerprint of the
newest message is taken outside of any `try`. -/
def rebase : Poll (WechatPollingLifecycleState × Prologue) :=
  match chat.orderedMessages.getLast? with
  | none => .done (lifecycle, .ended (.error .other)) -- an IndexError; an overlap is not empty
  | some (latestLocalId, latest) =>
    match service.fingerprint latest with
    | .error error => .done (lifecycle, .ended (.error error))
    | .ok none =>
      .done (lifecycle, .returned (chat.continuityFailure chat.messagesSeen bootstrapped))
    | .ok (some latestFingerprint) =>
      recoverWith chat lifecycle bootstrapped
        (rebaseStatement checkpoint latestLocalId latestFingerprint) chat.messagesSeen
        fun _ => .returned chat.skipped

/-- The fingerprint of the message before the live suffix, if there is one. -/
def baselineFingerprint : ℕ → Except Raised (Option String)
  | 0 => .ok none
  | index + 1 =>
    match chat.orderedMessages[index]? with
    | none => .error .other
    | some (_, baseline) => service.fingerprint baseline

/-- The arguments of `begin_live_suffix_after_empty_window` in a recovery. -/
def liveSuffixStatement (index : ℕ) (baseline : Option String) :
    Except WechatCheckpointError (Option CasStatement) :=
  beginLiveSuffixAfterEmptyWindow (.int checkpoint.lastLocalId)
    (.int checkpoint.regressionGeneration) (.ofOptionStr checkpoint.lastMessageFingerprint)
    (.int ((chat.orderedMessages[index]?.map Prod.fst).getD 0)) (.ofOptionStr baseline)

/-- The LATEST recovery after an empty window: only what is later than the marker is delivered. -/
def liveSuffix (index : ℕ) : Poll (WechatPollingLifecycleState × Prologue) :=
  match service.baselineFingerprint chat index with
  | .error error => .done (lifecycle, .ended (.error error))
  | .ok baseline =>
    if 0 < index ∧ baseline = none then
      .done (stopped chat lifecycle checkpoint bootstrapped .liveSuffixBaselineUnavailable
        chat.messagesSeen)
    else
      recoverWith chat lifecycle bootstrapped (liveSuffixStatement chat checkpoint index baseline)
        chat.messagesSeen fun current => .start current true

/-- `regression_detected`. -/
def recover (marker : Option EmptyWindowMarker) : Poll (WechatPollingLifecycleState × Prologue) :=
  match service.bootstrapMode, marker with
  | .backfill, _ => rewindWindow chat lifecycle checkpoint bootstrapped
  | .latest, none => service.rebase chat lifecycle checkpoint bootstrapped
  | .latest, some marker =>
    match liveSuffixStartIndex marker chat.orderedMessages with
    | .error _ =>
      .done (stopped chat lifecycle checkpoint bootstrapped .emptyWindowTimeUnverified
        chat.messagesSeen)
    | .ok none => service.rebase chat lifecycle checkpoint bootstrapped
    | .ok (some index) => service.liveSuffix chat lifecycle checkpoint bootstrapped index

/-! ### The anchor -/

/-- The window reaches back to the checkpoint. -/
def Overlaps (chat : ChatWindow) (checkpoint : WechatSyncCheckpoint) : Prop :=
  0 < checkpoint.lastLocalId ∧
    ∃ first ∈ chat.orderedMessages.head?, first.1 ≤ checkpoint.lastLocalId

instance (chat : ChatWindow) : DecidablePred (Overlaps chat) := fun _ =>
  inferInstanceAs (Decidable (_ ∧ ∃ first ∈ chat.orderedMessages.head?, _))

/-- The arguments of `enroll_anchor`. -/
def enrollStatement (remote : String) : Except WechatCheckpointError (Option CasStatement) :=
  enrollAnchor (.int checkpoint.lastLocalId) (.int checkpoint.regressionGeneration) (.str remote)

/-- The fingerprint of a checkpoint that has none is taken from the window, to be compared from
the next poll on. -/
def enroll (remoteFingerprint : String) : Poll (WechatPollingLifecycleState × Prologue) := do
  match ← compareAndSwap chat.key (enrollStatement checkpoint remoteFingerprint) with
  | .error error =>
    return (lifecycle,
      .returned (recoveryFailed chat bootstrapped (chat.skippedVisible checkpoint) error))
  | .ok _ =>
    return (lifecycle,
      .returned (chat.continuityFailure (chat.skippedVisible checkpoint) bootstrapped))

/-- The anchor of an overlapping window is the one visible message at the checkpoint. Its
fingerprint is taken outside of any `try`. -/
def compareAnchor (marker : Option EmptyWindowMarker) (anchor : WechatMessage) :
    Poll (WechatPollingLifecycleState × Prologue) :=
  match service.fingerprint anchor with
  | .error error => .done (lifecycle, .ended (.error error))
  | .ok remoteFingerprint =>
    match checkpoint.lastMessageFingerprint, remoteFingerprint with
    | none, none =>
      .done (stopped chat lifecycle checkpoint bootstrapped .anchorUnavailable
        (chat.skippedVisible checkpoint))
    | none, some remote => enroll chat lifecycle checkpoint bootstrapped remote
    | some _, none =>
      .done (stopped chat lifecycle checkpoint bootstrapped .remoteAnchorUnavailable
        (chat.skippedVisible checkpoint))
    | some saved, some remote =>
      if saved = remote then .done (lifecycle, .start checkpoint bootstrapped)
      else service.recover chat lifecycle checkpoint bootstrapped marker

/-- The visible messages at the checkpoint. -/
def anchorCandidates (chat : ChatWindow) (checkpoint : WechatSyncCheckpoint) : List Numbered :=
  chat.orderedMessages.filter fun numbered => numbered.1 = checkpoint.lastLocalId

/-- Is the window the continuation of what has been delivered? -/
def checkAnchor (marker : Option EmptyWindowMarker) :
    Poll (WechatPollingLifecycleState × Prologue) :=
  if Overlaps chat checkpoint then
    if chat.remoteLatestLocalId < checkpoint.lastLocalId then
      service.recover chat lifecycle checkpoint bootstrapped marker
    else
      match anchorCandidates chat checkpoint with
      | [anchor] =>
        service.compareAnchor chat lifecycle checkpoint bootstrapped marker anchor.2
      | _ =>
        .done (stopped chat lifecycle checkpoint bootstrapped .anchorAmbiguous
          (chat.skippedVisible checkpoint))
  else .done (lifecycle, .start checkpoint bootstrapped)

/-! ### Before the anchor -/

/-- The row a new chat starts from: the newest message in LATEST mode, nothing otherwise. -/
def initialAnchor : Except Raised (Int × Option String) :=
  match service.bootstrapMode, chat.orderedMessages.getLast? with
  | .latest, some (localId, latest) => (service.fingerprint latest).map (localId, ·)
  | _, _ => .ok (0, none)

/-- The first poll of a chat. No marker is left here: without a checkpoint none matches. -/
def bootstrap : Poll (WechatPollingLifecycleState × Prologue) :=
  match service.initialAnchor chat with
  | .error error => .done (lifecycle, .returned (chat.checkpointFailed error))
  | .ok (localId, fingerprint) => do
    match ← initializeRow chat.key
      (initializeCheckpoint (.int localId) (.ofOptionStr fingerprint)) with
    | .error error => return (lifecycle, .returned (chat.checkpointFailed error))
    | .ok (created, isNew) =>
      if isNew ∧ service.bootstrapMode = .latest then
        return (lifecycle, .returned chat.skipped)
      else service.checkAnchor chat lifecycle created isNew none

/-- `record_empty_window`, with the reading of the clock. -/
def recordEmptyWindow (key : ChatKey) (checkpoint : WechatSyncCheckpoint) :
    Poll (WechatPollingLifecycleState × Bool) :=
  if ValidCheckpointMarkerState checkpoint then
    .call .clock fun reading => .done
      (lifecycle.recordEmptyWindow key (some checkpoint) (reading.toOption.bind awareUtc))
  else .done (lifecycle.recordEmptyWindow key (some checkpoint) none)

/-- The checkpoint that was seen with the empty windows. -/
def markedCheckpoint (marker : EmptyWindowMarker) : WechatSyncCheckpoint :=
  ⟨marker.checkpointLastLocalId, marker.checkpointGeneration, marker.checkpointFingerprint⟩

/-- The marker is consumed, whatever comes of it. -/
def pollTaken (row : Row) : Poll (WechatPollingLifecycleState × Prologue) :=
  let taken := lifecycle.takeEmptyWindow chat.key
  if ∃ marker ∈ taken.1, ¬ marker.MatchesCheckpoint row then
    .done (stopped chat taken.2 ((taken.1.map markedCheckpoint).getD ⟨0, 0, none⟩) false
      .emptyWindowMarkerMismatch chat.messagesSeen)
  else
    match row with
    | none => service.bootstrap chat taken.2
    | some checkpoint => service.checkAnchor chat taken.2 checkpoint false taken.1

/-- An empty window over a positive checkpoint, in LATEST mode. -/
def EmptyWindow (service : WechatPollingService) (chat : ChatWindow)
    (checkpoint : WechatSyncCheckpoint) : Prop :=
  service.bootstrapMode = .latest ∧ 0 < checkpoint.lastLocalId ∧ chat.orderedMessages = []

instance (service : WechatPollingService) (chat : ChatWindow) :
    DecidablePred (EmptyWindow service chat) := fun _ =>
  haveI : Decidable (chat.orderedMessages = []) :=
    decidable_of_iff _ List.isEmpty_iff
  inferInstanceAs (Decidable (_ ∧ _ ∧ chat.orderedMessages = []))

/-- The checkpoint has been read. -/
def pollLoaded : Row → Poll (WechatPollingLifecycleState × Prologue)
  | none => service.pollTaken chat lifecycle none
  | some checkpoint =>
    if EmptyWindow service chat checkpoint then do
      let recorded ← recordEmptyWindow lifecycle chat.key checkpoint
      return stopped chat recorded.1 checkpoint false
        (if recorded.2 then .visibleWindowEmpty else .emptyWindowMarkerUnavailable) 0
    else service.pollTaken chat lifecycle (some checkpoint)

/-- A validated window: everything before the delivery loop. -/
def pollWindow : Poll (WechatPollingLifecycleState × Prologue) :=
  let recorded := lifecycle.recordVisibleWindow chat.key (chat.orderedMessages.map Prod.fst)
  .call (.select chat.key) fun
    | .error _ => .done (recorded.dropChatState chat.key, .returned (chat.checkpointFailed .other))
    | .ok row => service.pollLoaded chat recorded row

/-- A validated window and the loop over it. -/
def pollMessages : Poll ChatOutcome := do
  match ← service.pollWindow chat lifecycle with
  | (lifecycle, .ended outcome) => return (lifecycle, outcome)
  | (lifecycle, .start checkpoint bootstrapped) =>
    service.deliver chat bootstrapped lifecycle checkpoint {} chat.orderedMessages

/-- `_poll_chat`. -/
def pollChat (sourceAccountId : String) (entry : ChatEntry) (failedConversationIds : List String)
    (lifecycle : WechatPollingLifecycleState) : Poll ChatOutcome :=
  match parseChat entry with
  | .error error =>
    .done (lifecycle, .ok { succeeded := false, failures := [failure .parseChat error] })
  | .ok (conversationId, conversationName) =>
    let dropped := lifecycle.dropChatState (sourceAccountId, conversationId)
    let failed : ChatPollResult :=
      { conversationId := some conversationId
        conversationName := conversationName
        succeeded := false }
    if conversationId ∈ failedConversationIds then
      .done (dropped, .ok { failed with failures :=
        [{ stage := .pollChat
           code := "wechat_conversation_failed_earlier_in_cycle"
           conversationId := some conversationId }] })
    else
      .call (.listMessages conversationId) fun
        | .error error =>
          .done (dropped, .ok { failed with
            failures := [failure .listMessages error (some conversationId)] })
        | .ok rawMessages =>
          match validatedOrderedMessages conversationId rawMessages with
          | .error error =>
            .done (dropped, .ok { failed with
              messagesSeen := rawMessages.length
              failures := [failure .validateMessage error (some conversationId)] })
          | .ok orderedMessages =>
            service.pollMessages
              ⟨sourceAccountId, conversationId, conversationName, orderedMessages⟩ lifecycle

/-! ### One cycle -/

/-- `failed_conversation_ids` after one more chat. -/
def addFailed (failedConversationIds : List String) (result : ChatPollResult) : List String :=
  if result.succeeded then failedConversationIds
  else failedConversationIds ++ result.conversationId.toList

/-- The loop over the chats. -/
def pollChats (sourceAccountId : String) :
    List ChatEntry → List String → WechatPollingLifecycleState →
      Poll (WechatPollingLifecycleState × Except Raised (List ChatPollResult))
  | [], _, lifecycle => .done (lifecycle, .ok [])
  | entry :: rest, failed, lifecycle => do
    match ← service.pollChat sourceAccountId entry failed lifecycle with
    | (lifecycle, .error error) => return (lifecycle, .error error)
    | (lifecycle, .ok result) =>
      let logged := (lifecycle.chatResultLogLevel sourceAccountId result).1
      let (lifecycle, results) ← pollChats sourceAccountId rest (addFailed failed result) logged
      return (lifecycle, results.map (result :: ·))

/-- The result of a whole cycle. -/
def cycleResult (sourceAccountId : String) (chatResults : List ChatPollResult) : PollResult where
  sourceAccountId := some sourceAccountId
  loggedIn := true
  chatsSeen := chatResults.length
  chatsSucceeded := chatResults.countP (·.succeeded)
  chatsFailed := chatResults.countP (!·.succeeded)
  messagesSeen := (chatResults.map (·.messagesSeen)).sum
  messagesProcessed := (chatResults.map (·.messagesProcessed)).sum
  messagesNew := (chatResults.map (·.messagesNew)).sum
  messagesDuplicate := (chatResults.map (·.messagesDuplicate)).sum
  messagesFailed := (chatResults.map (·.messagesFailed)).sum
  messagesSkippedByCheckpoint := (chatResults.map (·.messagesSkippedByCheckpoint)).sum
  messagesSkippedAsSelf := (chatResults.map (·.messagesSkippedAsSelf)).sum
  messagesWithoutServerId := (chatResults.map (·.messagesWithoutServerId)).sum
  bootstrappedChats := chatResults.countP (·.bootstrapped)
  failures := chatResults.flatMap (·.failures)
  chatResults := chatResults

/-- The part of a cycle that has an account. -/
def pollAccount (sourceAccountId : String) (lifecycle : WechatPollingLifecycleState) :
    Poll (WechatPollingLifecycleState × Except Raised PollResult) :=
  .call .listChats fun
    | .error error =>
      .done (lifecycle.invalidateAll, .ok
        { sourceAccountId := some sourceAccountId
          loggedIn := true
          failures := [failure .listChats error] })
    | .ok chats => do
      match ← service.pollChats sourceAccountId chats [] lifecycle with
      | (lifecycle, .error error) => return (lifecycle, .error error)
      | (lifecycle, .ok chatResults) =>
        return (lifecycle.pruneChats sourceAccountId
          (chatResults.filterMap (·.conversationId)),
          .ok (cycleResult sourceAccountId chatResults))

/-- `poll_once`. -/
def pollOnce (lifecycle : WechatPollingLifecycleState) :
    Poll (WechatPollingLifecycleState × Except Raised PollResult) :=
  .call .getAuthStatus fun
    | .error error =>
      .done (lifecycle.invalidateAll, .ok { loggedIn := false, failures := [failure .auth error] })
    | .ok auth =>
      if auth.status ≠ "logged_in" then
        .done (lifecycle.invalidateAll, .ok { loggedIn := false })
      else
        match auth.sourceAccountId with
        | none =>
          .done (lifecycle.invalidateAll, .ok
            { loggedIn := false
              failures := [{ stage := .auth, code := "wechat_auth_status_error" }] })
        | some sourceAccountId =>
          service.pollAccount sourceAccountId (lifecycle.observeAccount sourceAccountId)

end WechatPollingService
end AgentGateway.Polling
