import AgentGateway.Lib.Run
import AgentGateway.Messages.Create
import AgentGateway.Messages.Normalized

/-!
# Creating a message more than once

Any number of `create` calls take turns, statement by statement. A row that has been committed stays,
and the unique keys let no second one in beside it, so that of all calls that could have created it
one has, and every other one ends up with it.
-/

namespace AgentGateway.Messages

open Lib Lib.Table Lib.Program Polling

/-- An event that the poller has built. -/
def FromWechat (codecs : Codecs) (event : MessageEvent) : Prop :=
  ∃ encoding raw account name generation normalized now rawPayload,
    normalizeWechatMessage codecs raw account name generation = .ok normalized ∧
      wechatMessageToEvent encoding now normalized rawPayload = .ok event

/-- The event ids of such events stand for account, chat and source message id. -/
lemma FromWechat.eq_of_eventId {codecs : Codecs} {event event' : MessageEvent}
    (hinj : Function.Injective codecs.digest) (hhex : codecs.Hexadecimal)
    (h : FromWechat codecs event) (h' : FromWechat codecs event')
    (heq : event.eventId = event'.eventId) :
    event.sourceAccountId = event'.sourceAccountId ∧
      event.conversationId = event'.conversationId ∧
      event.sourceMessageId = event'.sourceMessageId := by
  obtain ⟨_, raw, account, name, generation, normalized, now, payload, hnormalize, hevent⟩ := h
  obtain ⟨_, raw', account', name', generation', normalized', now', payload', hnormalize', hevent'⟩ := h'
  obtain ⟨hid, haccount, hconversation, hmessage⟩ := identity_of_event hhex hnormalize hevent
  obtain ⟨hid', haccount', hconversation', hmessage'⟩ := identity_of_event hhex hnormalize' hevent'
  obtain ⟨_, -, hnormal⟩ := normalizeWechatMessage_eq_ok hnormalize
  obtain ⟨_, -, hnormal'⟩ := normalizeWechatMessage_eq_ok hnormalize'
  have hsame : normalized.eventId = normalized'.eventId := hid.symm.trans (heq.trans hid')
  rw [haccount, hconversation, hmessage, haccount', hconversation', hmessage', hnormal.sourceAccount,
    hnormal.chat, hnormal'.sourceAccount, hnormal'.chat]
  exact (eventId_eq_iff hnormal hinj hhex hnormal').mp hsame

section Calls

variable {κ : Type} [DecidableEq κ] {events : κ → MessageEvent} {tables : MessageTables}
  {trace : List (Moment κ MessageTables StoreRequest StoreReply)}

/-- The call `k` has ended with this result. -/
def Returned (events : κ → MessageEvent)
    (trace : List (Moment κ MessageTables StoreRequest StoreReply)) (k : κ)
    (result : Except StoreError (Message × Bool)) : Prop :=
  (create (events k)).Returns (eventsOf k trace) result

/-- What calls of `create` that take turns make of the tables, and of each other. -/
structure Idempotent (events : κ → MessageEvent) (tables : MessageTables)
    (trace : List (Moment κ MessageTables StoreRequest StoreReply)) : Prop where
  /-- one row for an event id and for a source message, at all times -/
  valid : ∀ past, past <+: trace → (stateAfter tables past).Valid
  /-- of the calls with one event id, or for one source message, one creates the row -/
  created_once : ∀ j k message message', Returned events trace j (.ok (message, true)) →
    Returned events trace k (.ok (message', true)) →
    (events j).eventId = (events k).eventId ∨ (events j).sourceKey = (events k).sourceKey → j = k
  /-- the row that a call returns was there before, or one call has returned it as created -/
  returned_row : ∀ k message created, Returned events trace k (.ok (message, created)) →
    message ∈ (stateAfter tables trace).messages ∧ message.Matches (events k) ∧
      (message ∈ tables.messages ∨ ∃! j, Returned events trace j (.ok (message, true)))
  /-- if no two calls share one of the two keys of an event without the other, a call that succeeds
  for an event without a row means that one call for this event has created it -/
  created_by_one : ∀ k message created, Returned events trace k (.ok (message, created)) →
    (∀ row ∈ tables.messages, ¬ row.Matches (events k)) →
    (∀ j, (events j).eventId = (events k).eventId ↔ (events j).sourceKey = (events k).sourceKey) →
    ∃! j, (events j).eventId = (events k).eventId ∧
      Returned events trace j (.ok (message, true))
  /-- while the row of an event exists, no statement of a call for it changes the tables -/
  no_rows_added : ∀ past moment future, trace = past ++ moment :: future →
    (∃ row ∈ (stateAfter tables past).messages, row.Matches (events moment.who)) →
    moment.state = stateAfter tables past
  /-- a call that begins when the row exists returns it, unless the database fails -/
  row_found : ∀ k past future result, trace = past ++ future → eventsOf k past = [] →
    (∃ row ∈ (stateAfter tables past).messages, row.Matches (events k)) →
    Returned events trace k result →
    result = .error .database ∨ ∃ message, message.Matches (events k) ∧
      result = .ok (message, false)
  /-- other than by the database, a call fails only by the type of the conversation or by a row that
  breaks a `CHECK` -/
  errors : ∀ k error, Returned events trace k (.error error) →
    error = .database ∨ error = .integrity ∧ ¬ (events k).Checks ∨ ∃ stored ∈ (stateAfter tables trace).conversations,
      stored.key = (events k).conversationKey ∧
      stored.conversationType ≠ (events k).conversationType ∧
      error = .conversationTypeConflict stored.conversationType (events k).conversationType
  /-- what the poller gets back is the row of its own message -/
  own_row : ∀ codecs : Codecs, Function.Injective codecs.digest → codecs.Hexadecimal →
    (∀ k, FromWechat codecs (events k)) →
    (∀ row ∈ tables.messages, FromWechat codecs row.event) →
    ∀ k message created, Returned events trace k (.ok (message, created)) →
      message.event.sourceAccountId = (events k).sourceAccountId ∧
      message.event.conversationId = (events k).conversationId ∧
      message.event.sourceMessageId = (events k).sourceMessageId

variable {message : Message} {k : κ}

/-- A call that has created a row has stored it at some moment. -/
lemma exists_stores_of_created (hcreated : Returned events trace k (.ok (message, true))) :
    ∃ past moment future, trace = past ++ moment :: future ∧ moment.who = k ∧
      ∃ write, moment.event = ⟨.commit write (events k), .committed message⟩ := by
  obtain ⟨before, write, hevents⟩ := (committing_create (events k)).of_created hcreated
  obtain ⟨past, moment, future, htrace, hwho, hevent, -⟩ := exists_moment hevents
  exact ⟨past, moment, future, htrace, hwho, write, hevent⟩

variable (hvalid : tables.Valid)
  (h : Interleaving MessageStep (fun k => create (events k)) tables trace) {message' : Message}
  {result : Except StoreError (Message × Bool)}

include hvalid h

lemma keeps_of_interleaving : (stateAfter tables trace).Valid ∧ Grows tables (stateAfter tables trace) ∧
    ∀ k p, (create (events k)).Runs (eventsOf k trace) p →
      messageContract.Safe (Ends (events k)) p (stateAfter tables trace) :=
  Contract.interleaving (C := messageContract) h hvalid fun k => safe_create (events k) tables

/-- A call that has ended has its row in the tables. -/
lemma ends_of_returned (hreturned : Returned events trace k result) :
    Ends (events k) result (stateAfter tables trace) := by
  have hsafe : ∀ k, messageContract.Safe (Ends (events k)) (create (events k)) tables :=
    fun k => safe_create (events k) tables
  exact Contract.interleaving_returns (C := messageContract) h hvalid hsafe hreturned

/-- The tables have grown between any two moments. -/
lemma grows_between {past between future}
    (htrace : trace = past ++ between ++ future) :
    Grows (stateAfter tables past) (stateAfter tables (past ++ between)) := by
  refine stateAfter_related Grows.refl Grows.trans (fun earlier moment later heq => ?_) htrace
  have hearlier : Interleaving MessageStep (fun k => create (events k)) tables earlier :=
    (heq ▸ h).of_append
  exact ((h.steps earlier moment later heq).keeps (keeps_of_interleaving hvalid hearlier).1).2

omit hvalid in
/-- A row that was not there before has been stored by a call that says so. -/
lemma exists_created (hnew : message ∉ tables.messages)
    (hmem : message ∈ (stateAfter tables trace).messages) :
    ∃ k, Returned events trace k (.ok (message, true)) ∧ message.event = events k := by
  obtain ⟨past, moment, future, htrace, hbefore, hafter⟩ :=
    exists_change (P := fun s : MessageTables => message ∈ s.messages) hnew hmem
  have hstep := h.steps past moment future htrace
  have hstores : Stores message moment.event := by
    by_contra hnot
    by_cases hcommit : ∃ write event other, moment.event = ⟨.commit write event, .committed other⟩
    · obtain ⟨write, event, other, heq⟩ := hcommit
      rw [heq] at hstep
      rw [(committed_step hstep).2.2] at hafter
      rcases mem_concat.mp hafter with hold | rfl
      · exact hbefore hold
      · exact hnot ⟨write, event, heq⟩
    · rw [tables_eq_of_step hstep fun write event other heq => hcommit ⟨write, event, other, heq⟩]
        at hafter
      exact hbefore hafter
  obtain ⟨rest, hruns⟩ := h.runs moment.who
  have hevents : moment.event ∈ eventsOf moment.who trace := by
    rw [htrace, eventsOf_append, eventsOf_cons_self]
    exact List.mem_append_right _ List.mem_cons_self
  obtain ⟨⟨write, heq⟩, rfl⟩ :=
    (committing_create (events moment.who)).of_stores hruns hevents hstores
  rw [heq] at hstep
  exact ⟨moment.who, hruns, (committed_step hstep).1⟩

/-- A row that has been stored is in the way of another one with one of its keys. -/
lemma not_matches_of_stores {past between future}
    {first second : Moment κ MessageTables StoreRequest StoreReply}
    (htrace : trace = past ++ first :: (between ++ second :: future))
    (hfirst : Stores message first.event) (hsecond : Stores message' second.event) :
    ¬ message.Matches message'.event := by
  obtain ⟨write, event, heq⟩ := hfirst
  obtain ⟨write', event', heq'⟩ := hsecond
  have hstep := h.steps past first _ htrace
  have hstep' := h.steps (past ++ first :: between) second future (by rw [htrace]; simp)
  rw [heq] at hstep
  rw [heq'] at hstep'
  obtain ⟨rfl, hfresh, -⟩ := committed_step hstep'
  refine hfresh message ?_
  have hmem : message ∈ (stateAfter tables (past ++ [first])).messages := by
    rw [stateAfter_concat, (committed_step hstep).2.2]
    exact List.mem_append_right _ (List.mem_singleton_self message)
  have hsplit : trace = (past ++ [first]) ++ between ++ (second :: future) := by
    rw [htrace]
    simp
  have hgrows := grows_between hvalid h hsplit
  rw [List.append_assoc, List.singleton_append] at hgrows
  exact hgrows.messages message hmem

omit hvalid in
/-- The row that a call has created is the one of its event. -/
lemma event_of_created (hcreated : Returned events trace k (.ok (message, true))) :
    message.event = events k := by
  obtain ⟨past, moment, future, htrace, rfl, write, hmoment⟩ := exists_stores_of_created hcreated
  have hstep := h.steps past moment future htrace
  rw [hmoment] at hstep
  exact (committed_step hstep).1

/-- Two calls with a key in common do not both create a row. -/
lemma created_unique {j : κ} (hj : Returned events trace j (.ok (message, true)))
    (hk : Returned events trace k (.ok (message', true)))
    (hkeys : (events j).eventId = (events k).eventId ∨ (events j).sourceKey = (events k).sourceKey) :
    j = k := by
  have hrow := event_of_created h hj
  have hrow' := event_of_created h hk
  obtain ⟨past, moment, future, htrace, rfl, write, hmoment⟩ := exists_stores_of_created hj
  obtain ⟨past', moment', future', htrace', rfl, write', hmoment'⟩ := exists_stores_of_created hk
  rcases Run.positions_cases (htrace.symm.trans htrace') with
    ⟨-, rfl, -⟩ | ⟨mid, rfl, rfl⟩ | ⟨mid, rfl, rfl⟩
  · rfl
  · refine absurd ?_ (not_matches_of_stores hvalid h htrace ⟨write, _, hmoment⟩
      ⟨write', _, hmoment'⟩)
    rwa [Message.Matches, hrow, hrow']
  · refine absurd ?_ (not_matches_of_stores hvalid h htrace' ⟨write', _, hmoment'⟩
      ⟨write, _, hmoment⟩)
    rw [Message.Matches, hrow, hrow']
    exact hkeys.imp Eq.symm Eq.symm

/-- A call that begins when its row exists has nothing to do but to find it. -/
lemma found_of_begun {past future} (htrace : trace = past ++ future) (hfresh : eventsOf k past = [])
    (hrow : ∃ row ∈ (stateAfter tables past).messages, row.Matches (events k))
    (hreturned : Returned events trace k result) :
    result = .error .database ∨ ∃ message, message.Matches (events k) ∧
      result = .ok (message, false) := by
  obtain ⟨rests, hruns, hsuffix⟩ := (htrace ▸ h).of_suffix
  obtain ⟨hpast, -, hleft⟩ := keeps_of_interleaving hvalid (htrace ▸ h).of_append
  have hbegun : rests k = create (events k) := by
    have hk := hruns k
    rw [hfresh] at hk
    exact runs_nil.mp hk
  obtain ⟨row, hmem, hmatch⟩ := hrow
  have hsafe : ∀ j, messageContract.Safe (fun result _ => j = k →
      result = .error .database ∨ ∃ message, message.Matches (events k) ∧
        result = .ok (message, false)) (rests j) (stateAfter tables past) := by
    intro j
    by_cases hj : j = k
    · subst hj
      rw [hbegun]
      refine safe_existingOr (fun message _ _ hmatch _ => Or.inr ⟨message, hmatch, rfl⟩)
        (fun _ _ => Or.inl rfl) fun hnone => ?_
      exact absurd hmatch (hnone row hmem)
    · exact (hleft j _ (hruns j)).mono fun _ _ _ _ _ hjk => absurd hjk hj
  have hreturns : (rests k).Returns (eventsOf k future) result := by
    rw [hbegun]
    rw [Returned, htrace, eventsOf_append, hfresh, List.nil_append] at hreturned
    exact hreturned
  exact Contract.interleaving_returns (C := messageContract) hsuffix hpast hsafe hreturns rfl

omit hvalid h in
/-- Any number of calls that take turns, whatever fails in between. -/
theorem create_idempotent (events : κ → MessageEvent) (tables : MessageTables)
    (trace : List (Moment κ MessageTables StoreRequest StoreReply)) (hvalid : tables.Valid)
    (h : Interleaving MessageStep (fun k => create (events k)) tables trace) :
    Idempotent events tables trace where
  valid past hprefix := by
    obtain ⟨future, rfl⟩ := hprefix
    exact (keeps_of_interleaving hvalid h.of_append).1
  created_once j k message message' := created_unique hvalid h
  returned_row k message created hreturned := by
    obtain ⟨hmem, hmatch⟩ := ends_of_returned hvalid h hreturned
    refine ⟨hmem, hmatch, ?_⟩
    by_cases hnew : message ∈ tables.messages
    · exact Or.inl hnew
    -- a row that was not there at first has been created by some call
    · obtain ⟨j, hj, -⟩ := exists_created h hnew hmem
      refine Or.inr ⟨j, hj, fun j' hj' => ?_⟩
      have hsame := (event_of_created h hj').symm.trans (event_of_created h hj)
      exact created_unique hvalid h hj' hj (Or.inl (congrArg MessageEvent.eventId hsame))
  created_by_one k message created hreturned hnone hagree := by
    obtain ⟨hmem, hmatch⟩ := ends_of_returned hvalid h hreturned
    obtain ⟨j, hj, hevent⟩ := exists_created h (fun hold => hnone message hold hmatch) hmem
    rw [Message.Matches, hevent] at hmatch
    have heventId : (events j).eventId = (events k).eventId :=
      hmatch.elim (fun heq => heq) (hagree j).mpr
    refine ⟨j, ⟨heventId, hj⟩, fun j' hj' => ?_⟩
    exact created_unique hvalid h hj'.2 hj (Or.inl (hj'.1.trans heventId.symm))
  no_rows_added past moment future htrace hrow := by
    obtain ⟨row, hmem, hmatch⟩ := hrow
    have hstep := h.steps past moment future htrace
    refine tables_eq_of_step hstep fun write event message heq => ?_
    obtain ⟨rest, hruns⟩ := h.runs moment.who
    have hevents : moment.event ∈ eventsOf moment.who trace := by
      rw [htrace, eventsOf_append, eventsOf_cons_self]
      exact List.mem_append_right _ List.mem_cons_self
    -- a call commits its own event only, and that one has its row
    obtain ⟨⟨write', hown⟩, -⟩ := (committing_create (events moment.who)).of_stores hruns hevents
      ⟨write, event, heq⟩
    rw [hown] at hstep
    exact (committed_step hstep).2.1 row hmem hmatch
  row_found k past future result := found_of_begun hvalid h
  errors k error hreturned := by
    have hends := ends_of_returned hvalid h hreturned
    cases error with
    | database => exact Or.inl rfl
    | integrity => exact Or.inr (Or.inl ⟨rfl, hends⟩)
    | conversationTypeConflict existing requested =>
      obtain ⟨rfl, hne, stored, hmem, hkey, rfl⟩ := hends
      exact Or.inr (Or.inr ⟨stored, hmem, hkey, hne, rfl⟩)
  own_row codecs hinj hhex hcalls hrows k message created hreturned := by
    obtain ⟨hmem, hmatch⟩ := ends_of_returned hvalid h hreturned
    have hwechat : FromWechat codecs message.event := by
      by_cases hnew : message ∈ tables.messages
      · exact hrows message hnew
      · obtain ⟨j, -, hevent⟩ := exists_created h hnew hmem
        rw [hevent]
        exact hcalls j
    rcases hmatch with heventId | hsource
    · exact hwechat.eq_of_eventId hinj hhex (hcalls k) heventId
    · simp only [MessageEvent.sourceKey, MessageEvent.conversationKey, Prod.mk.injEq] at hsource
      exact ⟨hsource.1.2.1, hsource.1.2.2, hsource.2⟩

end Calls

/-! ## Calls one after the other -/

section Concrete

/-- An id that no row has. -/
def freshId (ids : List ℕ) : ℕ := ids.sum + 1

lemma ne_freshId {ids : List ℕ} {id : ℕ} (h : id ∈ ids) : id ≠ freshId ids := by
  have hle : id ≤ ids.sum := List.le_sum_of_mem h
  unfold freshId
  omega

/-- What a database that does not fail answers. -/
def answer (tables : MessageTables) : (op : StoreRequest) → StoreReply op × MessageTables
  | .getByEventId eventId =>
    (.ok (tables.messages.find? fun message => message.event.eventId = eventId), tables)
  | .getBySourceMessage key =>
    (.ok (tables.messages.find? fun message => message.event.sourceKey = key), tables)
  | .getConversation key =>
    (.ok (tables.conversations.find? fun conversation => conversation.key = key), tables)
  | .commit write event =>
    if tables.Violates write event then (.integrityError, tables)
    else
      let message : Message := ⟨freshId (tables.messages.map Message.id), event⟩
      (.committed message,
        ⟨writeConversation write event (freshId (tables.conversations.map Conversation.id))
          tables.conversations, tables.messages ++ [message]⟩)

/-- The answers are those of a database. -/
lemma answer_step (tables : MessageTables) (op : StoreRequest) :
    MessageStep tables ⟨op, (answer tables op).1⟩ (answer tables op).2 := by
  cases op with
  | getByEventId | getBySourceMessage | getConversation =>
    exact ⟨rfl, fun row heq => (Except.ok.inj heq).symm⟩
  | commit write event =>
    by_cases hviolates : tables.Violates write event
    · rw [answer, if_pos hviolates]
      exact ⟨hviolates, rfl⟩
    · rw [answer, if_neg hviolates]
      exact ⟨hviolates, rfl, fun other hmem => ne_freshId (List.mem_map_of_mem hmem), _,
        fun other hmem => ne_freshId (List.mem_map_of_mem hmem), rfl⟩

lemma unmentioned_private :
    (none : Option Bool) = none ↔ ConversationType.private_ = ConversationType.private_ :=
  iff_of_true rfl rfl

/-- A private text of a friend. -/
def friendEvent (eventId : String) : MessageEvent where
  eventId := eventId
  source := "wechat"
  sourceAccountId := "me"
  sourceMessageId := "7"
  conversationId := "friend"
  conversationType := .private_
  isMentioned := none
  isSelf := false
  conversationName := none
  senderType := .human
  senderId := some "friend"
  senderName := none
  messageType := "text"
  rawType := none
  content := "hello"
  timestamp := ⟨0, some 0⟩
  occurredAt := ⟨0, some 0⟩
  receivedAt := ⟨0, some 0⟩
  direction := .inbound
  sourceLocalId := none
  sourceServerId := none
  sourceMessageIdIsFallback := false
  replyContext := none
  replyToMessageId := none
  attachments := []
  rawPayload := none
  human_sender := fun _ => Option.some_ne_none _
  mention_iff := unmentioned_private

def noMessages : MessageTables := ⟨[], []⟩

lemma noMessages_valid : noMessages.Valid := by
  constructor <;> simp [noMessages, UniqueKeys]

/-- Calls one after the other, the first of these last. -/
def callsInTurn (events : Bool → MessageEvent) (turns : List Bool) :
    List (Moment Bool MessageTables StoreRequest StoreReply) :=
  inTurn (fun _ => answer) (fun k => create (events k)) noMessages turns

/-- Two calls for one source message. -/
def twoCalls (events : Bool → MessageEvent) :
    List (Moment Bool MessageTables StoreRequest StoreReply) :=
  callsInTurn events [false, true]

lemma twoCalls_interleaving (events : Bool → MessageEvent) :
    Interleaving MessageStep (fun k => create (events k)) noMessages (twoCalls events) :=
  interleaving_inTurn (by decide) fun _ => answer_step

/-- How a call ends that comes after these. -/
def resultAfter (events : Bool → MessageEvent) (earlier : List Bool) (k : Bool) :
    Except StoreError (Message × Bool) :=
  ((create (events k)).exec answer (stateAfter noMessages (callsInTurn events earlier))).2.2

lemma exists_of_created {result : Except StoreError (Message × Bool)} {created : Bool}
    (h : Prod.snd <$> result = .ok created) : ∃ message, result = .ok (message, created) := by
  obtain ⟨⟨message, _⟩, hresult, rfl⟩ := map_eq_ok.mp h
  exact ⟨message, hresult⟩

/-- Two events of one source message. -/
def twoEvents (eventId : String) (first : Bool) : MessageEvent :=
  friendEvent (if first then "event-1" else eventId)

/-- The first call creates the row and the second finds it, under whichever event id. -/
lemma twoEvents_created : ∀ eventId ∈ ["event-1", "event-2"],
    Prod.snd <$> resultAfter (twoEvents eventId) [] true = .ok true ∧
      Prod.snd <$> resultAfter (twoEvents eventId) [true] false = .ok false := by
  decide +kernel

lemma twoEvents_returned {eventId : String} (hmem : eventId ∈ ["event-1", "event-2"]) :
    (∃ message, Returned (twoEvents eventId) (twoCalls (twoEvents eventId)) true
      (.ok (message, true))) ∧
    ∃ message, Returned (twoEvents eventId) (twoCalls (twoEvents eventId)) false
      (.ok (message, false)) := by
  obtain ⟨hfirst, hsecond⟩ := twoEvents_created eventId hmem
  obtain ⟨message, hresult⟩ := exists_of_created hfirst
  obtain ⟨message', hresult'⟩ := exists_of_created hsecond
  refine ⟨⟨message, ?_⟩, message', ?_⟩
  · rw [← hresult, Returned, twoCalls, callsInTurn, eventsOf_inTurn_of_ne (by decide),
      eventsOf_inTurn List.not_mem_nil]
    exact exec_returns answer _ _
  · rw [← hresult', Returned, twoCalls, callsInTurn, eventsOf_inTurn (by decide)]
    exact exec_returns answer _ _

theorem same_event_twice :
    Idempotent (twoEvents "event-1") noMessages (twoCalls (twoEvents "event-1")) ∧
      ∃ message, Returned (twoEvents "event-1") (twoCalls (twoEvents "event-1")) false
        (.ok (message, false)) :=
  ⟨create_idempotent _ _ _ noMessages_valid (twoCalls_interleaving _),
    (twoEvents_returned List.mem_cons_self).2⟩

/-- Two calls that share the source message but not the event id: the second one succeeds with the
row of the first, so that no call for its event has created a row. -/
theorem other_event_id_not_created :
    ∃ (events : Bool → MessageEvent) (tables : MessageTables)
      (trace : List (Moment Bool MessageTables StoreRequest StoreReply)),
      tables.Valid ∧ Interleaving MessageStep (fun k => create (events k)) tables trace ∧
      (∀ row ∈ tables.messages, ¬ row.Matches (events false)) ∧
      (∃ message, Returned events trace false (.ok (message, false))) ∧
      ∀ k, events k = events false → ∀ message, ¬ Returned events trace k (.ok (message, true)) := by
  have htrace := twoCalls_interleaving (twoEvents "event-2")
  obtain ⟨⟨first, hfirst⟩, hsecond⟩ :=
    twoEvents_returned (List.mem_cons_of_mem "event-1" (List.mem_singleton_self "event-2"))
  refine ⟨twoEvents "event-2", noMessages, twoCalls (twoEvents "event-2"), noMessages_valid, htrace,
    fun row hmem => absurd hmem List.not_mem_nil, hsecond, ?_⟩
  intro k hk message hcreated
  have hsame : (twoEvents "event-2" true).sourceKey = (twoEvents "event-2" k).sourceKey := rfl
  obtain rfl := created_unique noMessages_valid htrace hfirst hcreated (Or.inr hsame)
  have hids : (twoEvents "event-2" true).eventId ≠ (twoEvents "event-2" false).eventId := by
    decide +kernel
  exact hids (congrArg MessageEvent.eventId hk)

end Concrete

end AgentGateway.Messages
