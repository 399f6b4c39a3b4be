import AgentGateway.Polling.Prologue

/-!
# The delivery loop

One turn of the loop inverted (`Turn`), the turns over a list of messages (`Loop`), and with them
the two ends of a delivery: after the last message, or at a message that could not be handed over
or passed. The requests of the loop come in the order of the source: a message is handed to the
sink, the sink returns, the checkpoint is advanced to that message, the row is read back.
-/

namespace AgentGateway.Polling

open Lib Lib.Program Polling.Checkpoint

namespace WechatPollingService

section Turn

variable (service : WechatPollingService) (chat : ChatWindow)

/-- The events of the first half of a turn that goes well. -/
inductive HandedOver (generation : Int) (numbered : Numbered) : List PollEvent → Prop
  | self (hself : isSelfMessage numbered.2 = true) : HandedOver generation numbered []
  | handed {normalized} (hself : isSelfMessage numbered.2 = false)
      (hnormalized : normalizeForChat service.codecs chat generation numbered.2 = .ok normalized)
      (disposition) : HandedOver generation numbered [⟨.handle normalized, .ok disposition⟩]

/-- A turn of the loop that goes well, from one checkpoint to the next. -/
inductive Turn (checkpoint : WechatSyncCheckpoint) (numbered : Numbered) :
    List PollEvent → WechatSyncCheckpoint → Prop
  | skipped (h : numbered.1 ≤ checkpoint.lastLocalId) : Turn checkpoint numbered [] checkpoint
  | passed {handed fingerprint statement changed current}
      (h : checkpoint.lastLocalId < numbered.1)
      (hhanded : HandedOver service chat checkpoint.regressionGeneration numbered handed)
      (hfingerprint : service.fingerprint numbered.2 = .ok fingerprint)
      (hstatement : advanceStatement checkpoint numbered.1 fingerprint = .ok (some statement))
      (hchanged : changed = true ∨ CompatibleConcurrentAdvance current
        checkpoint.regressionGeneration numbered.1 fingerprint) :
      Turn checkpoint numbered (handed ++
        [⟨.update chat.key statement, .ok changed⟩, ⟨.select chat.key, .ok (some current)⟩])
        current

/-- The turns over some messages. -/
inductive Loop : WechatSyncCheckpoint → List Numbered → List PollEvent → WechatSyncCheckpoint → Prop
  | nil (checkpoint) : Loop checkpoint [] [] checkpoint
  | cons {checkpoint numbered turn current rest events last}
      (hturn : Turn service chat checkpoint numbered turn current)
      (hrest : Loop current rest events last) :
      Loop checkpoint (numbered :: rest) (turn ++ events) last

/-- The requests of one turn. -/
inductive InTurn (checkpoint : WechatSyncCheckpoint) (numbered : Numbered) :
    List PollEvent → Request → Prop
  | handle {normalized} (hself : isSelfMessage numbered.2 = false)
      (hnormalized : normalizeForChat service.codecs chat checkpoint.regressionGeneration
        numbered.2 = .ok normalized) : InTurn checkpoint numbered [] (.handle normalized)
  | update {handed fingerprint statement}
      (hhanded : HandedOver service chat checkpoint.regressionGeneration numbered handed)
      (hfingerprint : service.fingerprint numbered.2 = .ok fingerprint)
      (hstatement : advanceStatement checkpoint numbered.1 fingerprint = .ok (some statement)) :
      InTurn checkpoint numbered handed (.update chat.key statement)
  | select {events} : InTurn checkpoint numbered events (.select chat.key)

variable {service chat} {checkpoint : WechatSyncCheckpoint} {numbered : Numbered} {tally : Tally}
  {generation : Int} {events : List PollEvent} {op : Request}

lemma handOver_returns {handed : Except PollFailure Tally}
    (h : (service.handOver chat generation tally numbered).Returns events handed) :
    (∃ failure, handed = .error failure ∧ failure.stage ≠ .checkpoint ∧
      (events = [] ∧ isSelfMessage numbered.2 = false ∧ (∃ error,
          normalizeForChat service.codecs chat generation numbered.2 = .error error) ∨
        ∃ normalized error, events = [⟨.handle normalized, .error error⟩])) ∨
      ∃ counted, handed = .ok counted ∧ HandedOver service chat generation numbered events := by
  unfold handOver at h
  split_ifs at h with hself
  · obtain ⟨rfl, rfl⟩ := returns_done.mp h
    exact Or.inr ⟨_, rfl, .self hself⟩
  · rw [Bool.not_eq_true] at hself
    split at h
    case h_1 error herror =>
      obtain ⟨rfl, rfl⟩ := returns_done.mp h
      exact Or.inl ⟨_, rfl, nofun, Or.inl ⟨rfl, hself, error, herror⟩⟩
    case h_2 normalized hnormalized =>
      obtain ⟨reply, rest, rfl, hrest⟩ := returns_call.mp h
      rcases reply with error | (_ | _)
      · obtain ⟨rfl, rfl⟩ := returns_done.mp hrest
        exact Or.inl ⟨_, rfl, nofun, Or.inr ⟨normalized, error, rfl⟩⟩
      · obtain ⟨rfl, rfl⟩ := returns_done.mp hrest
        exact Or.inr ⟨_, rfl, .handed hself hnormalized _⟩
      · obtain ⟨rfl, rfl⟩ := returns_done.mp hrest
        exact Or.inr ⟨_, rfl, .handed hself hnormalized _⟩

lemma handOver_reaches (h : (service.handOver chat generation tally numbered).Reaches events op) :
    events = [] ∧ isSelfMessage numbered.2 = false ∧
      ∃ normalized, normalizeForChat service.codecs chat generation numbered.2 = .ok normalized ∧
        op = .handle normalized := by
  unfold handOver at h
  split_ifs at h with hself
  · exact absurd h reaches_done
  · rw [Bool.not_eq_true] at hself
    split at h
    · exact absurd h reaches_done
    case h_2 normalized hnormalized =>
      rcases reaches_call.mp h with ⟨hevents, rfl⟩ | ⟨reply, rest, rfl, hrest⟩
      · exact ⟨hevents, hself, normalized, hnormalized, rfl⟩
      · rcases reply with error | (_ | _) <;> exact absurd hrest reaches_done

/-- A message ahead of the cursor always has a statement. -/
lemma advanceStatement_ne_none {localId : Int} {fingerprint : Option String}
    (hlt : checkpoint.lastLocalId < localId) :
    advanceStatement checkpoint localId fingerprint ≠ .ok none := by
  intro h
  simp only [advanceStatement, advanceCas, bind_eq_ok, validatedCheckpointLocalId_eq_ok] at h
  obtain ⟨_, ⟨hcursor, -⟩, _, -, _, ⟨hid, -⟩, _, -, _, -, h⟩ := h
  cases hcursor
  cases hid
  rw [if_neg (not_le.mpr hlt)] at h
  cases h

lemma advanceCursor_returns {advanced : Except Raised WechatSyncCheckpoint}
    (hlt : checkpoint.lastLocalId < numbered.1)
    (h : (service.advanceCursor chat checkpoint numbered).Returns events advanced) :
    (∃ error, advanced = .error error ∧ error.code ≠ some continuityCode) ∨
      ∃ current fingerprint statement changed, advanced = .ok current ∧
        service.fingerprint numbered.2 = .ok fingerprint ∧
        advanceStatement checkpoint numbered.1 fingerprint = .ok (some statement) ∧
        (changed = true ∨ CompatibleConcurrentAdvance current checkpoint.regressionGeneration
          numbered.1 fingerprint) ∧
        events = [⟨.update chat.key statement, .ok changed⟩,
          ⟨.select chat.key, .ok (some current)⟩] := by
  unfold advanceCursor at h
  split at h
  case h_1 error herror =>
    obtain ⟨-, rfl⟩ := returns_done.mp h
    exact Or.inl ⟨error, rfl, fingerprint_code_ne herror⟩
  case h_2 fingerprint hfingerprint =>
    obtain ⟨first, swapped, second, rfl, hswap, hrest⟩ := returns_bind.mp h
    cases compareAndSwap_returns hswap with
    | raised herror =>
      obtain ⟨-, rfl⟩ := returns_pure.mp hrest
      exact Or.inl ⟨_, rfl, herror.code_ne⟩
    | reread hprepared current => exact absurd hprepared (advanceStatement_ne_none hlt)
    | applied hprepared changed current =>
      dsimp only at hrest
      split_ifs at hrest with hchanged
      · obtain ⟨rfl, rfl⟩ := returns_pure.mp hrest
        exact Or.inr ⟨current, fingerprint, _, changed, rfl, hfingerprint, hprepared, hchanged, rfl⟩
      · obtain ⟨-, rfl⟩ := returns_pure.mp hrest
        exact Or.inl ⟨_, rfl, stateConflict_code_ne⟩

lemma advanceCursor_reaches
    (h : (service.advanceCursor chat checkpoint numbered).Reaches events op) :
    op = .select chat.key ∨
      events = [] ∧ ∃ fingerprint statement, service.fingerprint numbered.2 = .ok fingerprint ∧
        advanceStatement checkpoint numbered.1 fingerprint = .ok (some statement) ∧
        op = .update chat.key statement := by
  unfold advanceCursor at h
  split at h
  · exact absurd h reaches_done
  case h_2 fingerprint hfingerprint =>
    rcases reaches_bind.mp h with hswap | ⟨_, swapped, _, -, -, hrest⟩
    · rcases compareAndSwap_reaches hswap with rfl | ⟨statement, hstatement, rfl, hevents⟩
      · exact Or.inl rfl
      · exact Or.inr ⟨hevents, fingerprint, statement, hfingerprint, hstatement, rfl⟩
    · rcases swapped with error | ⟨current, changed⟩
      · exact absurd hrest reaches_pure
      · dsimp only at hrest
        split_ifs at hrest <;> exact absurd hrest reaches_pure

end Turn

/-! ## Deliveries -/

section Deliver

variable {service : WechatPollingService} {chat : ChatWindow} {bootstrapped : Bool}
  {lifecycle : WechatPollingLifecycleState} {checkpoint : WechatSyncCheckpoint}
  {tally : Tally} {window : List Numbered} {events : List PollEvent}

/-- How a delivery ends: after turns over all messages, or at one of them. -/
inductive DeliverExit (service : WechatPollingService) (chat : ChatWindow) (bootstrapped : Bool)
    (checkpoint : WechatSyncCheckpoint) (window : List Numbered) :
    List PollEvent → Except Raised ChatPollResult → Prop
  | finished {events last} (hloop : Loop service chat checkpoint window events last) (tally) :
      DeliverExit service chat bootstrapped checkpoint window events
        (.ok (chat.delivered bootstrapped tally))
  | interrupted {passed numbered rest before current}
      (hwindow : window = passed ++ numbered :: rest)
      (hloop : Loop service chat checkpoint passed before current) (after tally) {failure}
      (hfailure : ¬ failure.IsContinuity) :
      DeliverExit service chat bootstrapped checkpoint window (before ++ after)
        (.ok (chat.interrupted bootstrapped tally failure))

/-- One more turn at the beginning. -/
lemma DeliverExit.cons {numbered : Numbered} {turn : List PollEvent}
    {current : WechatSyncCheckpoint} {result : Except Raised ChatPollResult}
    (hturn : Turn service chat checkpoint numbered turn current)
    (h : DeliverExit service chat bootstrapped current window events result) :
    DeliverExit service chat bootstrapped checkpoint (numbered :: window) (turn ++ events)
      result := by
  cases h with
  | finished hloop tally => exact .finished (.cons hturn hloop) tally
  | interrupted hwindow hloop after tally hfailure =>
    rw [← List.append_assoc]
    exact .interrupted (congrArg (numbered :: ·) hwindow) (.cons hturn hloop) after tally hfailure

/-- **The delivery loop inverted.** -/
theorem deliver_returns {out : ChatOutcome}
    (h : (service.deliver chat bootstrapped lifecycle checkpoint tally window).Returns events out) :
    out.1 = lifecycle ∧ DeliverExit service chat bootstrapped checkpoint window events out.2 := by
  induction window generalizing checkpoint tally events with
  | nil =>
    obtain ⟨rfl, rfl⟩ := returns_done.mp h
    exact ⟨rfl, .finished (.nil checkpoint) tally⟩
  | cons numbered rest ih =>
    -- to stop at this message is to stop before any turn
    have stop : ∀ {events counted failure},
        out = (lifecycle, .ok (chat.interrupted bootstrapped counted failure)) →
        ¬ failure.IsContinuity → out.1 = lifecycle ∧
          DeliverExit service chat bootstrapped checkpoint (numbered :: rest) events out.2 := by
      rintro events counted failure rfl hfailure
      refine ⟨rfl, ?_⟩
      rw [← List.nil_append events]
      exact .interrupted (List.nil_append _).symm (.nil checkpoint) events counted hfailure
    rw [deliver] at h
    by_cases hle : numbered.1 ≤ checkpoint.lastLocalId
    · rw [if_pos hle] at h
      obtain ⟨hlifecycle, hexit⟩ := ih h
      exact ⟨hlifecycle, .cons (.skipped hle) hexit⟩
    · rw [if_neg hle] at h
      rw [not_le] at hle
      obtain ⟨first, handed, second, rfl, hfirst, hsecond⟩ := returns_bind.mp h
      rcases handOver_returns hfirst with ⟨failure, rfl, hstage, -⟩ | ⟨counted, rfl, hhanded⟩
      · exact stop (returns_pure.mp hsecond).2.symm fun hfailure => hstage hfailure.1
      · obtain ⟨swap, advanced, third, rfl, hswap, hthird⟩ := returns_bind.mp hsecond
        rcases advanceCursor_returns hle hswap with ⟨error, rfl, hcode⟩ |
          ⟨current, fingerprint, statement, changed, rfl, hfp, hstatement, hchanged, rfl⟩
        · refine stop (returns_pure.mp hthird).2.symm fun hfailure => ?_
          exact code_ne_of_failure hcode hfailure.2
        · obtain ⟨hlifecycle, hexit⟩ := ih hthird
          rw [← List.append_assoc]
          exact ⟨hlifecycle, .cons (.passed hle hhanded hfp hstatement hchanged) hexit⟩

/-- **The requests of the delivery loop**: some messages have had their turn, and this is the turn
of the next one. -/
theorem deliver_reaches {op : Request}
    (h : (service.deliver chat bootstrapped lifecycle checkpoint tally window).Reaches events op) :
    ∃ passed numbered rest before after current,
      window = passed ++ numbered :: rest ∧ events = before ++ after ∧
      Loop service chat checkpoint passed before current ∧
      current.lastLocalId < numbered.1 ∧ InTurn service chat current numbered after op := by
  induction window generalizing checkpoint tally events with
  | nil => exact absurd h reaches_done
  | cons numbered rest ih =>
    -- the request comes in a later turn …
    have later : ∀ {turn current counted events},
        Turn service chat checkpoint numbered turn current →
        (service.deliver chat bootstrapped lifecycle current counted rest).Reaches events op →
        ∃ passed next left before after current,
          numbered :: rest = passed ++ next :: left ∧ turn ++ events = before ++ after ∧
          Loop service chat checkpoint passed before current ∧
          current.lastLocalId < next.1 ∧ InTurn service chat current next after op := by
      intro turn current counted events hturn hrest
      obtain ⟨passed, next, left, before, after, last, rfl, rfl, hloop, hlt, hin⟩ := ih hrest
      exact ⟨numbered :: passed, next, left, turn ++ before, after, last, rfl,
        (List.append_assoc _ _ _).symm, .cons hturn hloop, hlt, hin⟩
    rw [deliver] at h
    by_cases hle : numbered.1 ≤ checkpoint.lastLocalId
    · rw [if_pos hle] at h
      exact later (.skipped hle) h
    · rw [if_neg hle] at h
      rw [not_le] at hle
      -- … or in this one
      have now : ∀ {events}, InTurn service chat checkpoint numbered events op →
          ∃ passed next left before after current,
            numbered :: rest = passed ++ next :: left ∧ events = before ++ after ∧
            Loop service chat checkpoint passed before current ∧
            current.lastLocalId < next.1 ∧ InTurn service chat current next after op :=
        fun hin => ⟨[], numbered, rest, [], _, checkpoint, rfl, rfl, .nil checkpoint, hle, hin⟩
      rcases reaches_bind.mp h with hfirst | ⟨first, handed, second, rfl, hfirst, hsecond⟩
      · obtain ⟨rfl, hself, normalized, hnormalized, rfl⟩ := handOver_reaches hfirst
        exact now (.handle hself hnormalized)
      · rcases handOver_returns hfirst with ⟨failure, rfl, -⟩ | ⟨counted, rfl, hhanded⟩
        · exact absurd hsecond reaches_pure
        · rcases reaches_bind.mp hsecond with hswap | ⟨swap, advanced, third, rfl, hswap, hthird⟩
          · rcases advanceCursor_reaches hswap with rfl |
              ⟨rfl, fingerprint, statement, hfp, hstatement, rfl⟩
            · exact now .select
            · rw [List.append_nil]
              exact now (.update hhanded hfp hstatement)
          · rcases advanceCursor_returns hle hswap with ⟨error, rfl, -⟩ |
              ⟨current, fingerprint, statement, changed, rfl, hfp, hstatement, hchanged, rfl⟩
            · exact absurd hthird reaches_pure
            · rw [← List.append_assoc]
              exact later (.passed hle hhanded hfp hstatement hchanged) hthird

end Deliver

/-! ## One call -/

section Call

variable {service : WechatPollingService} {chat : ChatWindow}
  {lifecycle : WechatPollingLifecycleState} {events : List PollEvent} {op : Request}

/-- How a call with a validated window ends: before the loop, or with a delivery. -/
lemma pollMessages_returns {out : ChatOutcome}
    (h : (service.pollMessages chat lifecycle).Returns events out) :
    (service.pollWindow chat lifecycle).Returns events (out.1, .ended out.2) ∨
      ∃ before after checkpoint bootstrapped, events = before ++ after ∧
        (service.pollWindow chat lifecycle).Returns before
          (out.1, .start checkpoint bootstrapped) ∧
        DeliverExit service chat bootstrapped checkpoint chat.orderedMessages after out.2 := by
  obtain ⟨before, ⟨state, prologue⟩, after, rfl, hwindow, hrest⟩ := returns_bind.mp h
  cases prologue with
  | ended outcome =>
    obtain ⟨rfl, rfl⟩ := returns_pure.mp hrest
    rw [List.append_nil]
    exact Or.inl hwindow
  | start checkpoint bootstrapped =>
    obtain ⟨hlifecycle, hdeliver⟩ := deliver_returns hrest
    exact Or.inr ⟨before, after, checkpoint, bootstrapped, rfl, hlifecycle ▸ hwindow, hdeliver⟩

/-- The requests of a call with a validated window. -/
lemma pollMessages_reaches (h : (service.pollMessages chat lifecycle).Reaches events op) :
    Prepares chat.key op ∨
      ∃ before after state checkpoint bootstrapped, events = before ++ after ∧
        (service.pollWindow chat lifecycle).Returns before
          (state, .start checkpoint bootstrapped) ∧
        (service.deliver chat bootstrapped state checkpoint {} chat.orderedMessages).Reaches
          after op := by
  rcases reaches_bind.mp h with hwindow | ⟨before, ⟨state, prologue⟩, after, rfl, hwindow, hrest⟩
  · exact Or.inl (pollWindow_reaches hwindow).1
  · cases prologue with
    | ended outcome => exact absurd hrest reaches_pure
    | start checkpoint bootstrapped =>
      exact Or.inr ⟨before, after, state, checkpoint, bootstrapped, rfl, hwindow, hrest⟩

/-- How a call of `_poll_chat` ends: without an identity, without a window, or with one. -/
inductive ChatExit (service : WechatPollingService) (sourceAccountId : String) (entry : ChatEntry)
    (failed : List String) (lifecycle : WechatPollingLifecycleState) :
    List PollEvent → ChatOutcome → Prop
  | unparsed {error} (hparse : parseChat entry = .error error) :
      ChatExit service sourceAccountId entry failed lifecycle []
        (lifecycle, .ok { succeeded := false, failures := [failure .parseChat error] })
  | rejected {conversationId conversationName events result}
      (hparse : parseChat entry = .ok (conversationId, conversationName))
      (hevents : events = [] ∨ ∃ reply, events = [⟨.listMessages conversationId, reply⟩])
      (hconversation : result.conversationId = some conversationId)
      (hsucceeded : result.succeeded = false)
      (hstage : ∀ failure ∈ result.failures, failure.stage ≠ .checkpoint) :
      ChatExit service sourceAccountId entry failed lifecycle events
        (lifecycle.dropChatState (sourceAccountId, conversationId), .ok result)
  | polled {conversationId conversationName rawMessages orderedMessages events out}
      (hparse : parseChat entry = .ok (conversationId, conversationName))
      (hfresh : conversationId ∉ failed)
      (hwindow : validatedOrderedMessages conversationId rawMessages = .ok orderedMessages)
      (hpoll : (service.pollMessages
        ⟨sourceAccountId, conversationId, conversationName, orderedMessages⟩ lifecycle).Returns
        events out) :
      ChatExit service sourceAccountId entry failed lifecycle
        (⟨.listMessages conversationId, .ok rawMessages⟩ :: events) out

variable {sourceAccountId : String} {entry : ChatEntry} {failed : List String}

/-- **A call of `_poll_chat` inverted.** -/
theorem pollChat_returns {out : ChatOutcome}
    (h : (service.pollChat sourceAccountId entry failed lifecycle).Returns events out) :
    ChatExit service sourceAccountId entry failed lifecycle events out := by
  unfold pollChat at h
  split at h
  case h_1 error hparse =>
    obtain ⟨rfl, rfl⟩ := returns_done.mp h
    exact .unparsed hparse
  case h_2 conversationId conversationName hparse =>
    dsimp only at h
    split_ifs at h with hfailed
    · obtain ⟨rfl, rfl⟩ := returns_done.mp h
      exact .rejected hparse (Or.inl rfl) rfl rfl (List.forall_mem_singleton.mpr nofun)
    · obtain ⟨reply, rest, rfl, hrest⟩ := returns_call.mp h
      rcases reply with error | rawMessages
      · obtain ⟨rfl, rfl⟩ := returns_done.mp hrest
        exact .rejected hparse (Or.inr ⟨_, rfl⟩) rfl rfl (List.forall_mem_singleton.mpr nofun)
      · dsimp only at hrest
        split at hrest
        case h_1 error _ =>
          obtain ⟨rfl, rfl⟩ := returns_done.mp hrest
          exact .rejected hparse (Or.inr ⟨_, rfl⟩) rfl rfl (List.forall_mem_singleton.mpr nofun)
        case h_2 orderedMessages hwindow => exact .polled hparse hfailed hwindow hrest

/-- The requests of a call: its window, and then those of the call with that window. -/
theorem pollChat_reaches (h : (service.pollChat sourceAccountId entry failed lifecycle).Reaches
    events op) :
    ∃ conversationId conversationName, parseChat entry = .ok (conversationId, conversationName) ∧
      conversationId ∉ failed ∧
      (events = [] ∧ op = .listMessages conversationId ∨
        ∃ rawMessages orderedMessages rest,
          events = ⟨.listMessages conversationId, .ok rawMessages⟩ :: rest ∧
          validatedOrderedMessages conversationId rawMessages = .ok orderedMessages ∧
          (service.pollMessages
            ⟨sourceAccountId, conversationId, conversationName, orderedMessages⟩
            lifecycle).Reaches rest op) := by
  unfold pollChat at h
  split at h
  · exact absurd h reaches_done
  case h_2 conversationId conversationName hparse =>
    dsimp only at h
    split_ifs at h with hfailed
    · exact absurd h reaches_done
    · refine ⟨conversationId, conversationName, hparse, hfailed, ?_⟩
      rcases reaches_call.mp h with ⟨hevents, rfl⟩ | ⟨reply, rest, rfl, hrest⟩
      · exact Or.inl ⟨hevents, rfl⟩
      · rcases reply with error | rawMessages
        · exact absurd hrest reaches_done
        · dsimp only at hrest
          split at hrest
          · exact absurd hrest reaches_done
          case h_2 orderedMessages hwindow =>
            exact Or.inr ⟨rawMessages, orderedMessages, rest, rfl, hwindow, hrest⟩

end Call

end WechatPollingService
end AgentGateway.Polling
