import AgentGateway.Polling.Normalizer

/-!
# Poll results and the lifecycle state

What a poll reports, and what the polling services of one process remember between polls:
`WechatPollingLifecycleState`, a bounded cache with five kinds of evidence for each chat. The one
that decides anything is the empty-window marker. It says since when a chat that has a checkpoint
has been seen empty, and the poll that sees messages again consumes it.

The five dictionaries of the source are one function from keys to `Evidence`, which has an optional
entry for each of them.
-/

namespace AgentGateway.Polling

open Lib Polling.Checkpoint

/-! ## Results -/

inductive BootstrapMode
  | latest
  | backfill
  deriving DecidableEq, Repr

inductive PollFailureStage
  | auth
  | listChats
  | parseChat
  | listMessages
  | validateMessage
  | normalize
  | pollChat
  | sink
  | checkpoint
  deriving DecidableEq, Repr

/-- The text of a stage. -/
def PollFailureStage.value : PollFailureStage → String
  | auth => "auth"
  | listChats => "list_chats"
  | parseChat => "parse_chat"
  | listMessages => "list_messages"
  | validateMessage => "validate_message"
  | normalize => "normalize"
  | pollChat => "poll_chat"
  | sink => "sink"
  | checkpoint => "checkpoint"

inductive MessageSinkDisposition
  | created
  | duplicate
  deriving DecidableEq, Repr

structure PollFailure where
  stage : PollFailureStage
  code : String
  conversationId : Option String := none
  localId : Option Int := none
  deriving DecidableEq, Repr

/-- `_failure`: an error class of the adapter or the poller brings its own code. -/
def failure (stage : PollFailureStage) (error : Raised) (conversationId : Option String := none)
    (localId : Option Int := none) : PollFailure where
  stage := stage
  code := error.code.getD ("wechat_" ++ stage.value ++ "_error")
  conversationId := conversationId
  localId := localId

structure ChatPollResult where
  conversationId : Option String := none
  conversationName : Option String := none
  succeeded : Bool
  messagesSeen : ℕ := 0
  messagesProcessed : ℕ := 0
  messagesNew : ℕ := 0
  messagesDuplicate : ℕ := 0
  messagesFailed : ℕ := 0
  messagesSkippedByCheckpoint : ℕ := 0
  messagesSkippedAsSelf : ℕ := 0
  messagesWithoutServerId : ℕ := 0
  bootstrapped : Bool := false
  failures : List PollFailure := []
  continuityOnly : Bool := false
  continuityStateChanged : Bool := false
  deriving DecidableEq, Repr

structure PollResult where
  sourceAccountId : Option String := none
  loggedIn : Bool
  chatsSeen : ℕ := 0
  chatsSucceeded : ℕ := 0
  chatsFailed : ℕ := 0
  messagesSeen : ℕ := 0
  messagesProcessed : ℕ := 0
  messagesNew : ℕ := 0
  messagesDuplicate : ℕ := 0
  messagesFailed : ℕ := 0
  messagesSkippedByCheckpoint : ℕ := 0
  messagesSkippedAsSelf : ℕ := 0
  messagesWithoutServerId : ℕ := 0
  bootstrappedChats : ℕ := 0
  failures : List PollFailure := []
  chatResults : List ChatPollResult := []
  deriving DecidableEq, Repr

/-- `_chat_result_has_immediate_activity`. -/
def ChatPollResult.hasImmediateActivity (result : ChatPollResult) : Bool :=
  !result.succeeded || !result.failures.isEmpty || result.bootstrapped ||
    [result.messagesProcessed, result.messagesNew, result.messagesDuplicate,
      result.messagesSkippedAsSelf, result.messagesFailed].any (0 < ·)

/-! ## Evidence -/

/-- `(source_account_id, conversation_id)`. -/
abbrev ChatKey := String × String

/-- `_EmptyWindowMarker`; its account and conversation are the key it is stored under. -/
structure EmptyWindowMarker where
  sourceAccountId : String
  conversationId : String
  checkpointLastLocalId : Int
  checkpointGeneration : Int
  checkpointFingerprint : Option String
  emptySince : Timestamp
  lastEmptyObservedAt : Timestamp
  observationCount : ℕ
  deriving DecidableEq, Repr

/-- `_ChatHistoryObservation`. -/
structure ChatHistoryObservation where
  visibleLocalIds : List Int
  messagesSeen : ℕ
  messagesSkippedByCheckpoint : ℕ
  messagesWithoutServerId : ℕ
  deriving DecidableEq, Repr

/-- The reasons to stop a chat that count as a continuity failure of their own. -/
inductive StopReason
  | visibleWindowEmpty
  | emptyWindowMarkerUnavailable
  | emptyWindowMarkerMismatch
  | anchorAmbiguous
  | anchorUnavailable
  | remoteAnchorUnavailable
  | emptyWindowTimeUnverified
  | liveSuffixBaselineUnavailable
  deriving DecidableEq, Repr

/-- `_ContinuityObservation`; the failure code is the same in all of them. -/
structure ContinuityObservation where
  checkpointLocalId : Int
  checkpointGeneration : Int
  checkpointFingerprint : Option String
  remoteFirstLocalId : Int
  remoteLatestLocalId : Int
  recoveryAction : StopReason
  deriving DecidableEq, Repr

/-- What the five dictionaries hold under one key. -/
structure Evidence where
  marker : Option EmptyWindowMarker := none
  clockWatermark : Option Timestamp := none
  pendingWindow : Option (List Int) := none
  history : Option ChatHistoryObservation := none
  continuity : Option ContinuityObservation := none
  deriving DecidableEq, Repr

/-- `_MAX_LIFECYCLE_CHAT_STATES`. -/
def maxLifecycleChatStates : ℕ := 1024

/-- `WechatPollingLifecycleState`. The order lists the keys with the least recently touched one
first, as the iteration over the dictionary does. -/
structure WechatPollingLifecycleState where
  activeSourceAccountId : Option String
  evidence : ChatKey → Evidence
  chatStateOrder : List ChatKey

/-- `_valid_checkpoint_marker_state`. -/
def ValidCheckpointMarkerState (checkpoint : WechatSyncCheckpoint) : Prop :=
  (0 < checkpoint.lastLocalId ∧ checkpoint.lastLocalId ≤ maxCheckpointLocalId) ∧
  (0 ≤ checkpoint.regressionGeneration ∧
    checkpoint.regressionGeneration ≤ maxCheckpointLocalId) ∧
  ∃ fingerprint ∈ checkpoint.lastMessageFingerprint,
    fingerprint.length = checkpointFingerprintLength ∧
      ∀ c ∈ fingerprint.toList, c ∈ hexDigits

instance : DecidablePred ValidCheckpointMarkerState := fun checkpoint =>
  inferInstanceAs (Decidable (_ ∧ _ ∧ ∃ fingerprint ∈ checkpoint.lastMessageFingerprint, _))

/-- `_marker_matches_checkpoint`. -/
def EmptyWindowMarker.MatchesCheckpoint (marker : EmptyWindowMarker) (row : Row) : Prop :=
  ∃ checkpoint ∈ row, ValidCheckpointMarkerState checkpoint ∧
    checkpoint.lastLocalId = marker.checkpointLastLocalId ∧
    checkpoint.regressionGeneration = marker.checkpointGeneration ∧
    checkpoint.lastMessageFingerprint = marker.checkpointFingerprint

instance (marker : EmptyWindowMarker) : DecidablePred marker.MatchesCheckpoint := fun row =>
  inferInstanceAs (Decidable (∃ checkpoint ∈ row, _))

/-! ## The methods -/

inductive LogLevel
  | debug
  | info
  deriving DecidableEq, Repr

namespace WechatPollingLifecycleState

variable (state : WechatPollingLifecycleState) (key : ChatKey)

/-- The state of a new process. -/
def initial : WechatPollingLifecycleState := ⟨none, fun _ => {}, []⟩

/-- Change what is stored under one key. -/
def modify (change : Evidence → Evidence) : WechatPollingLifecycleState :=
  { state with evidence := Function.update state.evidence key (change (state.evidence key)) }

/-- `invalidate_all`; nothing is kept. -/
def invalidateAll (_state : WechatPollingLifecycleState) : WechatPollingLifecycleState := initial

/-- `observe_account`. -/
def observeAccount (sourceAccountId : String) : WechatPollingLifecycleState :=
  if state.activeSourceAccountId ≠ some sourceAccountId then
    { state.invalidateAll with activeSourceAccountId := some sourceAccountId }
  else state

/-- `self._chat_state_order.pop(key, None)`. -/
def popOrder : WechatPollingLifecycleState :=
  { state with chatStateOrder := state.chatStateOrder.filter (· ≠ key) }

/-- `_drop_chat_state`, and `invalidate_chat`. -/
def dropChatState : WechatPollingLifecycleState := (state.popOrder key).modify key fun _ => {}

/-- Make room for another key. -/
def evictOldest : WechatPollingLifecycleState :=
  match state.chatStateOrder with
  | [] => state
  | oldest :: _ =>
    if maxLifecycleChatStates ≤ state.chatStateOrder.length then state.dropChatState oldest
    else state

/-- `_touch_chat_state`. -/
def touchChatState : WechatPollingLifecycleState :=
  let roomy := if key ∈ state.chatStateOrder then state.popOrder key else state.evictOldest
  { roomy with chatStateOrder := roomy.chatStateOrder ++ [key] }

/-- `_release_chat_state_if_unused`. -/
def releaseChatStateIfUnused : WechatPollingLifecycleState :=
  if state.evidence key = {} then state.popOrder key else state

/-- `prune_chats`. -/
def pruneChats (sourceAccountId : String) (conversationIds : List String) :
    WechatPollingLifecycleState :=
  (state.chatStateOrder.filter fun key =>
    key.1 = sourceAccountId ∧ key.2 ∉ conversationIds).foldl dropChatState state

/-- `invalidate_marker_evidence`, which keeps the clock watermark. -/
def invalidateMarkerEvidence : WechatPollingLifecycleState :=
  (state.modify key fun evidence =>
    { evidence with marker := none, pendingWindow := none, history := none }
  ).releaseChatStateIfUnused key

/-- `record_visible_window`. -/
def recordVisibleWindow (localIds : List Int) : WechatPollingLifecycleState :=
  (state.touchChatState key).modify key fun evidence =>
    { evidence with pendingWindow := some localIds }

/-- `observe_continuity_failure`: whether the observation is a new one. -/
def observeContinuityFailure (observation : ContinuityObservation) :
    WechatPollingLifecycleState × Bool :=
  let touched := state.touchChatState key
  (touched.modify key fun evidence => { evidence with continuity := some observation },
    (touched.evidence key).continuity ≠ some observation)

/-- `chat_result_log_level`. -/
def chatResultLogLevel (sourceAccountId : String) (result : ChatPollResult) :
    WechatPollingLifecycleState × LogLevel :=
  match result.conversationId with
  | none => (state, if result.hasImmediateActivity then .info else .debug)
  | some conversationId =>
    let key := (sourceAccountId, conversationId)
    let visibleLocalIds := (state.evidence key).pendingWindow.getD []
    let popped := state.modify key fun evidence => { evidence with pendingWindow := none }
    if result.continuityOnly then
      (popped.modify key fun evidence => { evidence with history := none },
        if result.continuityStateChanged then .info else .debug)
    else
      let resumed := popped.modify key fun evidence => { evidence with continuity := none }
      if result.hasImmediateActivity then
        ((resumed.modify key fun evidence => { evidence with history := none }
          ).releaseChatStateIfUnused key, .info)
      else if result.messagesSeen = 0 then
        ((resumed.modify key fun evidence => { evidence with history := none }
          ).releaseChatStateIfUnused key, .debug)
      else
        let touched := resumed.touchChatState key
        let observation : ChatHistoryObservation :=
          { visibleLocalIds := visibleLocalIds
            messagesSeen := result.messagesSeen
            messagesSkippedByCheckpoint := result.messagesSkippedByCheckpoint
            messagesWithoutServerId := result.messagesWithoutServerId }
        (touched.modify key fun evidence => { evidence with history := some observation },
          if (touched.evidence key).history ≠ some observation then .info else .debug)

/-- `record_empty_window` after the clock has been read; no reading means that it failed or that
its value is no instant. -/
def observeEmptyWindow (checkpoint : WechatSyncCheckpoint) (observedAt : Option Timestamp) :
    WechatPollingLifecycleState × Bool :=
  match observedAt with
  | none => (state.invalidateMarkerEvidence key, false)
  | some observedAt =>
    if ∃ previous ∈ (state.evidence key).clockWatermark, observedAt < previous then
      (state.invalidateMarkerEvidence key, false)
    else
      let watched := state.modify key fun evidence =>
        { evidence with clockWatermark := some observedAt }
      match (state.evidence key).marker with
      | some existing =>
        if ¬ existing.MatchesCheckpoint (some checkpoint) then
          (watched.invalidateMarkerEvidence key, false)
        else if observedAt < existing.lastEmptyObservedAt then
          (watched.invalidateMarkerEvidence key, false)
        else
          (watched.modify key fun evidence =>
            { evidence with
              marker := some
                { existing with
                  sourceAccountId := key.1
                  conversationId := key.2
                  lastEmptyObservedAt := observedAt
                  observationCount := existing.observationCount + 1 } }, true)
      | none =>
        (watched.modify key fun evidence =>
          { evidence with
            marker := some
              { sourceAccountId := key.1
                conversationId := key.2
                checkpointLastLocalId := checkpoint.lastLocalId
                checkpointGeneration := checkpoint.regressionGeneration
                checkpointFingerprint := checkpoint.lastMessageFingerprint
                emptySince := observedAt
                lastEmptyObservedAt := observedAt
                observationCount := 1 } }, true)

/-- `record_empty_window`, with what the clock has said. -/
def recordEmptyWindow (checkpoint : Row) (observedAt : Option Timestamp) :
    WechatPollingLifecycleState × Bool :=
  let touched := state.touchChatState key
  match checkpoint with
  | none => (touched.invalidateMarkerEvidence key, false)
  | some checkpoint =>
    if ValidCheckpointMarkerState checkpoint then
      touched.observeEmptyWindow key checkpoint observedAt
    else (touched.invalidateMarkerEvidence key, false)

/-- `take_empty_window`. -/
def takeEmptyWindow : Option EmptyWindowMarker × WechatPollingLifecycleState :=
  ((state.evidence key).marker, state.modify key fun evidence =>
    { evidence with marker := none, clockWatermark := none })

/-! ## What the methods leave under a key -/

section Frame

variable {state key} {other : ChatKey} {change : Evidence → Evidence}

@[simp] lemma modify_evidence_self :
    (state.modify key change).evidence key = change (state.evidence key) :=
  Function.update_self ..

@[simp] lemma modify_evidence_of_ne (h : other ≠ key) :
    (state.modify key change).evidence other = state.evidence other :=
  Function.update_of_ne h ..

@[simp] lemma dropChatState_evidence_self : (state.dropChatState key).evidence key = {} :=
  modify_evidence_self

@[simp] lemma dropChatState_evidence_of_ne (h : other ≠ key) :
    (state.dropChatState key).evidence other = state.evidence other :=
  modify_evidence_of_ne h

@[simp] lemma releaseChatStateIfUnused_evidence :
    (state.releaseChatStateIfUnused key).evidence = state.evidence := by
  unfold releaseChatStateIfUnused
  split_ifs <;> rfl

/-- Making room takes everything from one key, or nothing. -/
lemma evictOldest_evidence (other : ChatKey) :
    state.evictOldest.evidence other = state.evidence other ∨
      other ∈ state.chatStateOrder ∧ state.evictOldest.evidence other = {} := by
  unfold evictOldest
  split
  · exact Or.inl rfl
  case h_2 oldest rest horder =>
    split_ifs
    · by_cases h : other = oldest
      · rw [h, horder]
        exact Or.inr ⟨List.mem_cons_self, dropChatState_evidence_self⟩
      · exact Or.inl (dropChatState_evidence_of_ne h)
    · exact Or.inl rfl

/-- Touching a key takes everything from another one, or nothing. -/
lemma touchChatState_evidence (other : ChatKey) :
    (state.touchChatState key).evidence other = state.evidence other ∨
      other ≠ key ∧ (state.touchChatState key).evidence other = {} := by
  unfold touchChatState
  dsimp only
  split_ifs with hkey
  · exact Or.inl rfl
  · rcases state.evictOldest_evidence other with hsame | ⟨hmem, hempty⟩
    · exact Or.inl hsame
    · refine Or.inr ⟨?_, hempty⟩
      rintro rfl
      exact hkey hmem

@[simp] lemma touchChatState_evidence_self :
    (state.touchChatState key).evidence key = state.evidence key :=
  (state.touchChatState_evidence key).resolve_right fun h => h.1 rfl

end Frame

end WechatPollingLifecycleState

/-! ## The live suffix -/

/-- The loop of `_live_suffix_start_index`: the position, the id and the time before it, and the
first position later than the marker. -/
def liveSuffixScan (emptySince : Timestamp) :
    ℕ → Int → Option Timestamp → Option ℕ → List Numbered → Except Raised (Option ℕ)
  | _, _, _, start, [] => .ok start
  | index, previousLocalId, previousTimestamp, start, (localId, message) :: rest =>
    match messageTimestamp message with
    | none => .error .other
    | some timestamp =>
      if localId ≤ previousLocalId ∨ ∃ previous ∈ previousTimestamp, timestamp < previous then
        .error .other
      else
        liveSuffixScan emptySince (index + 1) localId (some timestamp)
          (if start = none ∧ emptySince < timestamp then some index else start) rest

/-- The local id that the first live message has to follow. -/
def localIdBefore (orderedMessages : List Numbered) : ℕ → Int
  | 0 => 0
  | index + 1 => (orderedMessages[index]?.map Prod.fst).getD 0

/-- `_live_suffix_start_index`; the error is its `ValueError`. -/
def liveSuffixStartIndex (marker : EmptyWindowMarker) (orderedMessages : List Numbered) :
    Except Raised (Option ℕ) := do
  let start ← liveSuffixScan marker.emptySince 0 0 none none orderedMessages
  raiseIf (∃ index ∈ start, ∃ first ∈ orderedMessages[index]?,
    localIdBefore orderedMessages index + 1 ≠ first.1) Raised.other
  return start

/-- The timestamp of the message is an instant after this one. -/
def LaterThan (instant : Timestamp) (numbered : Numbered) : Prop :=
  ∃ timestamp ∈ messageTimestamp numbered.2, instant < timestamp

instance (instant : Timestamp) : DecidablePred (LaterThan instant) := fun numbered =>
  inferInstanceAs (Decidable (∃ timestamp ∈ messageTimestamp numbered.2, _))

/-- Both messages have timestamps, in this order. -/
def TimestampLe (a b : Numbered) : Prop :=
  ∃ s ∈ messageTimestamp a.2, ∃ t ∈ messageTimestamp b.2, s ≤ t

lemma LaterThan.mono {instant : Timestamp} {a b : Numbered} (h : LaterThan instant a)
    (hle : TimestampLe a b) : LaterThan instant b := by
  obtain ⟨s, hs, hlater⟩ := h
  obtain ⟨s', hs', t, ht, hst⟩ := hle
  cases hs.symm.trans hs'
  exact ⟨t, ht, hlater.trans_le hst⟩

variable {index : ℕ}

/-- What the scan checks of the messages, and what it finds. -/
lemma liveSuffixScan_eq_ok {emptySince : Timestamp} {previousLocalId : Int}
    {previousTimestamp : Option Timestamp} {start result : Option ℕ} {messages : List Numbered}
    (h : liveSuffixScan emptySince index previousLocalId previousTimestamp start messages =
      .ok result) :
    (∀ x ∈ messages, previousLocalId < x.1) ∧
    (∀ x ∈ messages, ∃ t ∈ messageTimestamp x.2, ∀ previous ∈ previousTimestamp, previous ≤ t) ∧
    messages.Pairwise (fun a b => a.1 < b.1) ∧ messages.Pairwise TimestampLe ∧
    result = start.or ((messages.findIdx? (LaterThan emptySince ·)).map (index + ·)) := by
  induction messages generalizing index previousLocalId previousTimestamp start with
  | nil =>
    cases h
    simp
  | cons numbered messages ih =>
    obtain ⟨localId, message⟩ := numbered
    simp only [liveSuffixScan] at h
    split at h
    · cases h
    case h_2 timestamp htimestamp =>
      -- the scan goes on only while ids and times go up
      by_cases hbad : localId ≤ previousLocalId ∨ ∃ previous ∈ previousTimestamp,
          timestamp < previous
      · rw [if_pos hbad] at h
        cases h
      · rw [if_neg hbad] at h
        push Not at hbad
        obtain ⟨hids, htimes, hincreasing, hordered, hresult⟩ := ih h
        have hlater : ∀ x ∈ messages, ∃ t ∈ messageTimestamp x.2, timestamp ≤ t := by
          intro x hx
          obtain ⟨t, ht, hle⟩ := htimes x hx
          exact ⟨t, ht, hle timestamp rfl⟩
        refine ⟨?_, ?_, ?_, ?_, ?_⟩
        · rw [List.forall_mem_cons]
          exact ⟨hbad.1, fun x hx => hbad.1.trans (hids x hx)⟩
        · rw [List.forall_mem_cons]
          refine ⟨⟨timestamp, htimestamp, hbad.2⟩, fun x hx => ?_⟩
          obtain ⟨t, ht, hle⟩ := hlater x hx
          exact ⟨t, ht, fun previous hprevious => (hbad.2 previous hprevious).trans hle⟩
        · exact List.pairwise_cons.mpr ⟨hids, hincreasing⟩
        · refine List.pairwise_cons.mpr ⟨fun x hx => ?_, hordered⟩
          obtain ⟨t, ht, hle⟩ := hlater x hx
          exact ⟨timestamp, htimestamp, t, ht, hle⟩
        · have hfirst : LaterThan emptySince (localId, message) ↔ emptySince < timestamp := by
            simp [LaterThan, htimestamp]
          rw [hresult, List.findIdx?_cons]
          cases start with
          | some first => simp
          | none =>
            by_cases hlive : emptySince < timestamp
            · simp [hfirst, hlive]
            · simp [hfirst, hlive, Function.comp_def, Nat.add_comm, Nat.add_left_comm]

/-- The index is the start of the live suffix of the window. -/
structure LiveFrom (marker : EmptyWindowMarker) (window : List Numbered) (index : ℕ) : Prop where
  /-- local ids start above 0 and strictly increase -/
  positive : ∀ x ∈ window, 0 < x.1
  increasing : window.Pairwise fun a b => a.1 < b.1
  /-- all timestamps are zone-aware -/
  aware : ∀ x ∈ window, ∃ raw timestamp, x.2.validated = some raw ∧
    raw.timestamp.utcoffset ≠ none ∧ raw.timestamp.toUtc = .ok timestamp
  /-- they do not decrease -/
  ordered : window.Pairwise TimestampLe
  /-- the suffix is what is later than the marker -/
  live : window.drop index = window.filter (LaterThan marker.emptySince ·)
  /-- it follows the message before it without a gap -/
  adjacent : ∃ first, window[index]? = some first ∧ first.1 = localIdBefore window index + 1

lemma awareUtc_eq_some {value : PyDatetime} {timestamp : Timestamp}
    (h : awareUtc (some value) = some timestamp) :
    value.utcoffset ≠ none ∧ value.toUtc = .ok timestamp := by
  simp only [awareUtc] at h
  split at h
  · cases h
  case h_2 offset hoffset =>
    refine ⟨by simp [hoffset], ?_⟩
    cases hutc : value.toUtc with
    | error error =>
      rw [hutc] at h
      cases h
    | ok instant =>
      rw [hutc] at h
      cases h
      rfl

/-- In a list in which what is live stays live, the live part starts at its first element. -/
lemma drop_eq_filter_of_findIdx? {α : Type} {p : α → Bool} {l : List α}
    (hmono : l.Pairwise fun a b => p a → p b) (h : l.findIdx? p = some index) :
    l.drop index = l.filter p := by
  induction l generalizing index with
  | nil => cases h
  | cons a l ih =>
    obtain ⟨hfirst, hrest⟩ := List.pairwise_cons.mp hmono
    rw [List.findIdx?_cons] at h
    cases hp : p a with
    | true =>
      simp only [hp, if_true, Option.some.injEq] at h
      subst h
      have hall : l.filter p = l := List.filter_eq_self.mpr fun b hb => hfirst b hb hp
      rw [List.filter_cons_of_pos hp, hall, List.drop_zero]
    | false =>
      simp only [hp, Bool.false_eq_true, if_false, Option.map_eq_some_iff] at h
      obtain ⟨rest, hrest', rfl⟩ := h
      rw [List.filter_cons_of_neg (by simp [hp]), List.drop_succ_cons]
      exact ih hrest hrest'

variable {marker : EmptyWindowMarker} {window : List Numbered}

/-- **The index of the live suffix.** -/
lemma liveSuffixStartIndex_spec (h : liveSuffixStartIndex marker window = .ok (some index)) :
    LiveFrom marker window index := by
  simp only [liveSuffixStartIndex, bind_eq_ok, raiseIf_eq_ok] at h
  obtain ⟨start, hscan, -, hadjacent, hstart⟩ := h
  cases hstart
  obtain ⟨hpositive, htimes, hincreasing, hordered, hresult⟩ := liveSuffixScan_eq_ok hscan
  simp only [Option.none_or, Nat.zero_add, Option.map_id'] at hresult
  obtain ⟨first, hfirst⟩ : ∃ first, window[index]? = some first := by
    obtain ⟨hlt, -⟩ := List.findIdx?_eq_some_iff_findIdx_eq.mp hresult.symm
    exact ⟨window[index], List.getElem?_eq_getElem hlt⟩
  refine ⟨hpositive, hincreasing, ?_, hordered, ?_, first, hfirst, ?_⟩
  · intro x hx
    obtain ⟨timestamp, htimestamp, -⟩ := htimes x hx
    obtain ⟨raw, hraw, haware⟩ := Option.bind_eq_some_iff.mp htimestamp
    exact ⟨raw, timestamp, hraw, awareUtc_eq_some haware⟩
  · refine drop_eq_filter_of_findIdx? (hordered.imp fun hle hlive => ?_) hresult.symm
    exact decide_eq_true ((of_decide_eq_true hlive).mono hle)
  · by_contra hgap
    exact hadjacent ⟨index, rfl, first, hfirst, fun heq => hgap heq.symm⟩

/-- The suffix has a first message, next to the one before it. -/
lemma LiveFrom.drop_eq (h : LiveFrom marker window index) :
    ∃ first, window[index]? = some first ∧ window.drop index = first :: window.drop (index + 1) ∧
      first.1 = localIdBefore window index + 1 := by
  obtain ⟨first, hfirst, hid⟩ := h.adjacent
  obtain ⟨hlt, hget⟩ := List.getElem?_eq_some_iff.mp hfirst
  exact ⟨first, hfirst, hget ▸ List.drop_eq_getElem_cons hlt, hid⟩

/-- The index is one of the window. -/
lemma LiveFrom.lt (h : LiveFrom marker window index) : index < window.length := by
  obtain ⟨first, hfirst, -⟩ := h.adjacent
  exact (List.getElem?_eq_some_iff.mp hfirst).1

/-- Without a message later than the marker there is no index. -/
lemma liveSuffixStartIndex_ne_some (h : ∀ x ∈ window, ¬ LaterThan marker.emptySince x) (index : ℕ) :
    liveSuffixStartIndex marker window ≠ .ok (some index) := by
  intro hindex
  have hlive := liveSuffixStartIndex_spec hindex
  obtain ⟨first, -, hdrop, -⟩ := hlive.drop_eq
  have hmem : first ∈ window.drop index := by
    rw [hdrop]
    exact List.mem_cons_self
  rw [hlive.live, List.mem_filter] at hmem
  exact h first hmem.1 (of_decide_eq_true hmem.2)

end AgentGateway.Polling
