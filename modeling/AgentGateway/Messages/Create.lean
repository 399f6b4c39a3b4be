import AgentGateway.Messages.Store

/-!
# One call of `create` among others

Other calls may run between any two statements of a call. What a call can count on is that rows stay
and that the unique keys hold (`messageContract`). It follows how a call may end (`safe_create`), and
it is seen from the program alone that a call which has committed a row has nothing left to do
(`committing_create`).
-/

namespace AgentGateway.Messages

open Lib Lib.Table Lib.Program

/-! ## Statements -/

/-- Rows stay, but for the name of a conversation. -/
structure Grows (tables tables' : MessageTables) : Prop where
  messages : ∀ message ∈ tables.messages, message ∈ tables'.messages
  conversations : ∀ stored ∈ tables.conversations, ∃ stored' ∈ tables'.conversations,
    stored'.key = stored.key ∧ stored'.conversationType = stored.conversationType

lemma Grows.refl (tables : MessageTables) : Grows tables tables :=
  ⟨fun _ hmem => hmem, fun stored hmem => ⟨stored, hmem, rfl, rfl⟩⟩

lemma Grows.trans {a b c : MessageTables} (hab : Grows a b) (hbc : Grows b c) : Grows a c := by
  refine ⟨fun message hmem => hbc.messages message (hab.messages message hmem), ?_⟩
  intro stored hmem
  obtain ⟨stored', hmem', hkey, htype⟩ := hab.conversations stored hmem
  obtain ⟨stored'', hmem'', hkey', htype'⟩ := hbc.conversations stored' hmem'
  exact ⟨stored'', hmem'', hkey'.trans hkey, htype'.trans htype⟩

section Statements

variable {tables tables' : MessageTables} {event : MessageEvent} {write : ConversationWrite}
  {moment : StoreEvent} {id : ℕ}

/-- A write keeps the keys of all conversations … -/
lemma writeConversation_grows (id : ℕ) : ∀ stored ∈ tables.conversations,
    ∃ stored' ∈ writeConversation write event id tables.conversations,
      stored'.key = stored.key ∧ stored'.conversationType = stored.conversationType := by
  intro stored hmem
  cases write with
  | insert => exact ⟨stored, List.mem_append_left _ hmem, rfl, rfl⟩
  | rename id' name =>
    refine ⟨_, mem_updateWhere.mpr ⟨stored, hmem, rfl⟩, ?_⟩
    split_ifs
    · exact ⟨rfl, rfl⟩
    · exact ⟨rfl, rfl⟩
  | keep => exact ⟨stored, hmem, rfl, rfl⟩

/-- … and keeps them unique. -/
lemma writeConversation_unique (hvalid : tables.Valid) (hfits : ¬ tables.Violates write event)
    (hid : ∀ other ∈ tables.conversations, other.id ≠ id) :
    UniqueKeys Conversation.id (writeConversation write event id tables.conversations) ∧
      UniqueKeys Conversation.key (writeConversation write event id tables.conversations) := by
  cases write with
  | insert =>
    refine ⟨hvalid.conversationIds.append hid, hvalid.conversationKeys.append ?_⟩
    intro other hother hkey
    exact hfits (Or.inr (Or.inr ⟨fun _ => ⟨other, hother, hkey⟩, fun _ => rfl⟩))
  | rename id' name =>
    exact ⟨hvalid.conversationIds.updateWhere fun _ => rfl,
      hvalid.conversationKeys.updateWhere fun _ => rfl⟩
  | keep => exact ⟨hvalid.conversationIds, hvalid.conversationKeys⟩

/-- The conversation of a message that has been committed is there. -/
lemma writeConversation_has (hfits : ¬ tables.Violates write event) :
    ∃ stored ∈ writeConversation write event id tables.conversations,
      stored.key = event.conversationKey := by
  by_cases hinsert : write = .insert
  · subst hinsert
    exact ⟨_, List.mem_append_right _ (List.mem_singleton_self _), rfl⟩
  · have hstored : ∃ stored ∈ tables.conversations, stored.key = event.conversationKey := by
      by_contra hnone
      exact hfits (Or.inr (Or.inr (iff_of_false hinsert hnone)))
    obtain ⟨stored, hmem, hkey⟩ := hstored
    obtain ⟨stored', hmem', hkey', -⟩ := writeConversation_grows id stored hmem
    exact ⟨stored', hmem', hkey'.trans hkey⟩

/-- What a commit that succeeds does. -/
lemma committed_step {message : Message}
    (h : MessageStep tables ⟨.commit write event, .committed message⟩ tables') :
    message.event = event ∧ (∀ other ∈ tables.messages, ¬ other.Matches event) ∧
      tables'.messages = tables.messages ++ [message] := by
  obtain ⟨hfits, hevent, -, id, -, rfl⟩ := h
  refine ⟨hevent, fun other hother hmatch => ?_, rfl⟩
  exact hfits (Or.inr (Or.inl ⟨other, hother, hmatch⟩))

/-- Any other statement leaves the tables alone. -/
lemma tables_eq_of_step (h : MessageStep tables moment tables')
    (hnot : ∀ write event message, moment ≠ ⟨.commit write event, .committed message⟩) :
    tables' = tables := by
  obtain ⟨op, reply⟩ := moment
  cases op with
  | getByEventId => exact h.1
  | getBySourceMessage => exact h.1
  | getConversation => exact h.1
  | commit write event =>
    cases reply with
    | committed message => exact absurd rfl (hnot write event message)
    | integrityError => exact h.2
    | failed => exact h

/-- What a statement keeps. -/
lemma MessageStep.keeps (h : MessageStep tables moment tables') (hvalid : tables.Valid) :
    tables'.Valid ∧ Grows tables tables' := by
  by_cases hcommit : ∃ write event message, moment = ⟨.commit write event, .committed message⟩
  · obtain ⟨write, event, message, rfl⟩ := hcommit
    obtain ⟨hfits, rfl, hid, id, hconversation, rfl⟩ := h
    have hfresh : ∀ other ∈ tables.messages, ¬ other.Matches message.event :=
      fun other hother hmatch => hfits (Or.inr (Or.inl ⟨other, hother, hmatch⟩))
    obtain ⟨hids, hkeys⟩ := writeConversation_unique hvalid hfits hconversation
    refine ⟨⟨hvalid.ids.append hid,
      hvalid.eventIds.append fun other hother hkey => hfresh other hother (Or.inl hkey),
      hvalid.sourceKeys.append fun other hother hkey => hfresh other hother (Or.inr hkey),
      hids, hkeys, ?_, ?_⟩, fun _ hmem => List.mem_append_left _ hmem, writeConversation_grows id⟩
    all_goals
      intro other hother
      rcases List.mem_append.mp hother with hold | hnew
    · obtain ⟨stored, hmem, hkey⟩ := hvalid.conversation_exists other hold
      obtain ⟨stored', hmem', hkey', -⟩ := writeConversation_grows id stored hmem
      exact ⟨stored', hmem', hkey'.trans hkey⟩
    · rw [List.mem_singleton.mp hnew]
      exact writeConversation_has hfits
    · exact hvalid.checks other hold
    · rw [List.mem_singleton.mp hnew]
      exact not_not.mp fun hbroken => hfits (Or.inl hbroken)
  · have hsame := tables_eq_of_step h fun write event message heq =>
      hcommit ⟨write, event, message, heq⟩
    subst hsame
    exact ⟨hvalid, Grows.refl tables'⟩

end Statements

/-- What the calls keep together. -/
def messageContract : Contract MessageTables StoreRequest StoreReply where
  step := MessageStep
  inv := MessageTables.Valid
  rely := Grows
  refl := Grows.refl
  trans := Grows.trans

/-! ## One call among others -/

section Call

variable {event : MessageEvent} {tables tables' : MessageTables} {write : ConversationWrite}
  {stored : Conversation} {otherwise : Store (Message × Bool)}
  {post : Except StoreError (Message × Bool) → MessageTables → Prop}

/-- How a call may end: with the row of its event, with an error of the database, or because the
conversation is of another type or the row breaks a `CHECK`. -/
def Ends (event : MessageEvent) (result : Except StoreError (Message × Bool))
    (tables : MessageTables) : Prop :=
  match result with
  | .ok (message, _) => message ∈ tables.messages ∧ message.Matches event
  | .error .database => True
  | .error .integrity => ¬ event.Checks
  | .error (.conversationTypeConflict existing requested) =>
    requested = event.conversationType ∧ existing ≠ requested ∧
      ∃ stored ∈ tables.conversations, stored.key = event.conversationKey ∧
        stored.conversationType = existing

/-- What a call has ended with stays true. -/
lemma Ends.of_grows {result : Except StoreError (Message × Bool)} (h : Ends event result tables)
    (hgrows : Grows tables tables') : Ends event result tables' := by
  match result with
  | .ok (message, _) => exact ⟨hgrows.messages message h.1, h.2⟩
  | .error .database => exact trivial
  | .error .integrity => exact h
  | .error (.conversationTypeConflict existing requested) =>
    obtain ⟨hrequested, hne, stored, hmem, hkey, htype⟩ := h
    obtain ⟨stored', hmem', hkey', htype'⟩ := hgrows.conversations stored hmem
    exact ⟨hrequested, hne, stored', hmem', hkey'.trans hkey, htype'.trans htype⟩

/-- A statement of a call: what it finds, the rest of the call goes on with. -/
lemma safe_statement {op : StoreRequest} {next : StoreReply op → Store (Message × Bool)}
    (h : ∀ u reply u', Grows tables u → u.Valid → MessageStep u ⟨op, reply⟩ u' →
      messageContract.Safe post (next reply) u') :
    messageContract.Safe post (.call op next) tables := by
  refine Contract.safe_call.mpr fun u reply u' hu hvalid hstep => ?_
  obtain ⟨hvalid', hgrows⟩ := hstep.keeps hvalid
  exact ⟨hvalid', hgrows, h u reply u' hu hvalid hstep⟩

/-- A row that was there when the lookup began is found. -/
lemma safe_existingOr
    (hstored : ∀ message u, message ∈ u.messages → message.Matches event →
      post (.ok (message, false)) u) (hdatabase : ∀ u, post (.error .database) u)
    (hotherwise : (∀ message ∈ tables.messages, ¬ message.Matches event) →
      ∀ u, Grows tables u → messageContract.Safe post otherwise u) :
    messageContract.Safe post (existingOr event otherwise) tables := by
  have hfound : ∀ message u, message ∈ u.messages → message.Matches event →
      messageContract.Safe post (.done (.ok (message, false))) u := by
    intro message u hmem hmatch
    exact Contract.safe_done.mpr fun v hv _ => hstored message v (hv.messages message hmem) hmatch
  have hfailed : ∀ u, messageContract.Safe post (.done (.error .database)) u :=
    fun u => Contract.safe_done.mpr fun v _ _ => hdatabase v
  refine safe_statement fun u reply u' hu _ hstep => ?_
  obtain ⟨rfl, hfirst⟩ := hstep
  cases reply with
  | error => exact hfailed u'
  | ok row =>
    cases row with
    | some message =>
      have hfind := (hfirst _ rfl).symm
      refine hfound message u' (List.mem_of_find?_eq_some hfind) (Or.inl ?_)
      simpa using List.find?_some hfind
    | none =>
      have hnoEvent := List.find?_eq_none.mp (hfirst _ rfl).symm
      refine safe_statement fun v reply v' hv _ hstep => ?_
      obtain ⟨rfl, hsecond⟩ := hstep
      cases reply with
      | error => exact hfailed v'
      | ok row =>
        cases row with
        | some message =>
          have hfind := (hsecond _ rfl).symm
          refine hfound message v' (List.mem_of_find?_eq_some hfind) (Or.inr ?_)
          simpa using List.find?_some hfind
        | none =>
          have hnoSource := List.find?_eq_none.mp (hsecond _ rfl).symm
          refine hotherwise (fun message hmem hmatch => ?_) v' (hu.trans hv)
          -- the row was there for both lookups
          rcases hmatch with heventId | hsource
          · exact hnoEvent message (hu.messages message hmem) (decide_eq_true heventId)
          · exact hnoSource message (hv.messages message (hu.messages message hmem))
              (decide_eq_true hsource)

/-- The conversation of an event is there. -/
def HasConversation (event : MessageEvent) (tables : MessageTables) : Prop :=
  ∃ stored ∈ tables.conversations, stored.key = event.conversationKey

lemma HasConversation.of_grows (h : HasConversation event tables) (hgrows : Grows tables tables') :
    HasConversation event tables' := by
  obtain ⟨stored, hmem, hkey⟩ := h
  obtain ⟨stored', hmem', hkey', -⟩ := hgrows.conversations stored hmem
  exact ⟨stored', hmem', hkey'.trans hkey⟩

lemma hasConversation_of_find
    (h : some stored = tables.conversations.find? fun conversation =>
      conversation.key = event.conversationKey) :
    stored ∈ tables.conversations ∧ stored.key = event.conversationKey :=
  ⟨List.mem_of_find?_eq_some h.symm, by simpa using List.find?_some h.symm⟩

/-- An error of the database may end a call at any time. -/
lemma safe_database : messageContract.Safe (Ends event) (.done (.error .database)) tables :=
  Contract.safe_done.mpr fun _ _ _ => trivial

/-- So may a row that no table takes. -/
lemma safe_integrity (h : ¬ event.Checks) :
    messageContract.Safe (Ends event) (.done (.error .integrity)) tables :=
  Contract.safe_done.mpr fun _ _ _ => h

/-- A conversation of another type ends it as well. -/
lemma safe_conflict {error : StoreError} (h : validateConversationType stored event = .error error)
    (hmem : stored ∈ tables.conversations) (hkey : stored.key = event.conversationKey) :
    messageContract.Safe (Ends event) (.done (.error error)) tables := by
  obtain ⟨hne, rfl⟩ := raiseIf_eq_error.mp h
  have hends : Ends event (.error (.conversationTypeConflict stored.conversationType
      event.conversationType)) tables := ⟨rfl, hne, stored, hmem, hkey, rfl⟩
  exact Contract.safe_done.mpr fun u hu _ => hends.of_grows hu

/-- A commit hits the row of the event, which the call then returns, or it hits the conversation, or
the row is one that no table takes. -/
lemma safe_commit
    (h : ∀ u, Grows tables u → ¬ event.Checks ∨ (write = .insert ↔ HasConversation event u) →
      ∀ v, Grows u v → messageContract.Safe (Ends event) otherwise v) :
    messageContract.Safe (Ends event) (commit write event (existingOr event otherwise)) tables := by
  refine safe_statement fun u reply u' hu _ hstep => ?_
  cases reply with
  | committed message =>
    obtain ⟨rfl, -, hmessages⟩ := committed_step hstep
    refine Contract.safe_done.mpr fun v hv _ => ⟨hv.messages message ?_, Or.inl rfl⟩
    rw [hmessages]
    exact List.mem_append_right _ (List.mem_singleton_self message)
  | failed => exact safe_database
  | integrityError =>
    obtain ⟨hviolates, rfl⟩ := hstep
    refine safe_existingOr (fun message v hmem hmatch => ⟨hmem, hmatch⟩) (fun _ => trivial) ?_
    intro hnone
    rcases hviolates with hbroken | ⟨message, hmem, hmatch⟩ | hconversation
    · exact h u' hu (Or.inl hbroken)
    · exact absurd hmatch (hnone message hmem)
    · exact h u' hu (Or.inr hconversation)

/-- The second insert, once the conversation is there. -/
lemma safe_retryMessageInsert (hhas : HasConversation event tables) :
    messageContract.Safe (Ends event) (retryMessageInsert event) tables := by
  refine safe_commit fun u hu hviolated v _ => ?_
  rcases hviolated with hbroken | hconversation
  · exact safe_integrity hbroken
  · cases hconversation.mpr (hhas.of_grows hu)

lemma safe_useConcurrentConversation (hhas : ¬ event.Checks ∨ HasConversation event tables) :
    messageContract.Safe (Ends event) (useConcurrentConversation event) tables := by
  refine safe_statement fun u reply u' hu _ hstep => ?_
  obtain ⟨rfl, hfind⟩ := hstep
  cases reply with
  | error => exact safe_database
  | ok row =>
    cases row with
    | none =>
      -- a conversation that is there cannot be missed
      rcases hhas with hbroken | hhas
      · exact safe_integrity hbroken
      obtain ⟨stored, hmem, hkey⟩ := hhas.of_grows hu
      exact absurd (decide_eq_true hkey) (List.find?_eq_none.mp (hfind _ rfl).symm stored hmem)
    | some stored =>
      obtain ⟨hmem, hkey⟩ := hasConversation_of_find (hfind _ rfl)
      cases htype : validateConversationType stored event with
      | error error =>
        show messageContract.Safe (Ends event)
          ((Program.done (validateConversationType stored event)).bindOk _) u'
        rw [htype]
        exact safe_conflict htype hmem hkey
      | ok =>
        show messageContract.Safe (Ends event)
          ((Program.done (validateConversationType stored event)).bindOk _) u'
        rw [htype]
        exact safe_retryMessageInsert ⟨stored, hmem, hkey⟩

/-- The conversation that a call has found is not inserted again. -/
lemma pendingConversation_eq_ok (h : pendingConversation (some stored) event = .ok write) :
    write ≠ .insert := by
  obtain ⟨-, -, h⟩ := bind_eq_ok.mp h
  cases hname : event.conversationName with
  | none =>
    rw [hname] at h
    cases h
    exact ConversationWrite.noConfusion
  | some name =>
    rw [hname] at h
    cases h
    exact ConversationWrite.noConfusion

/-- Whatever the others do, a call ends as it should. -/
theorem safe_create (event : MessageEvent) (tables : MessageTables) :
    messageContract.Safe (Ends event) (create event) tables := by
  refine safe_existingOr (fun message v hmem hmatch => ⟨hmem, hmatch⟩) (fun _ => trivial) ?_
  intro _ u _
  refine safe_statement fun v reply v' _ _ hstep => ?_
  obtain ⟨rfl, hfind⟩ := hstep
  cases reply with
  | error => exact safe_database
  | ok row =>
    cases row with
    | none =>
      refine safe_commit fun w _ hconversation x hx => ?_
      exact safe_useConcurrentConversation
        (hconversation.imp_right fun hinsert => (hinsert.mp rfl).of_grows hx)
    | some stored =>
      obtain ⟨hmem, hkey⟩ := hasConversation_of_find (hfind _ rfl)
      show messageContract.Safe (Ends event)
        ((Program.done (pendingConversation (some stored) event)).bindOk _) v'
      cases hpending : pendingConversation (some stored) event with
      | error error =>
        rcases bind_eq_error.mp hpending with htype | ⟨-, -, hname⟩
        · exact safe_conflict htype hmem hkey
        · cases h : event.conversationName with
          | none =>
            rw [h] at hname
            cases hname
          | some name =>
            rw [h] at hname
            cases hname
      | ok write =>
        refine safe_commit fun w hw hviolated x _ => ?_
        rcases hviolated with hbroken | hconversation
        · exact safe_integrity hbroken
        have hstored : HasConversation event v' := ⟨stored, hmem, hkey⟩
        exact absurd (hconversation.mpr (hstored.of_grows hw)) (pendingConversation_eq_ok hpending)

end Call

/-! ## The commit of a call -/

/-- This event is a commit that has stored this row. -/
def Stores (message : Message) (moment : StoreEvent) : Prop :=
  ∃ write event, moment = ⟨.commit write event, .committed message⟩

/-- A program that stores the event at most once, with the last of its statements, and only then
says that it has created the row. -/
def Committing (event : MessageEvent) : Store (Message × Bool) → Prop
  | .done result => ∀ message, result ≠ .ok (message, true)
  | .call op next => ∀ reply,
    (∃ write message, (⟨op, reply⟩ : StoreEvent) = ⟨.commit write event, .committed message⟩ ∧
      next reply = .done (.ok (message, true))) ∨
    (∀ message, ¬ Stores message ⟨op, reply⟩) ∧ Committing event (next reply)

section Committing

variable {event : MessageEvent} {otherwise p q : Store (Message × Bool)} {events : List StoreEvent}
  {message : Message}

/-- A query commits nothing. -/
lemma Committing.query {op : StoreRequest} {next : StoreReply op → Store (Message × Bool)}
    (hop : ∀ write event', op ≠ .commit write event') (h : ∀ reply, Committing event (next reply)) :
    Committing event (.call op next) := by
  intro reply
  refine Or.inr ⟨?_, h reply⟩
  rintro message ⟨write, event', heq⟩
  exact hop write event' (congrArg Sigma.fst heq)

lemma committing_error {error : StoreError} : Committing event (.done (.error error)) :=
  fun _ => nofun

lemma committing_existingOr (h : Committing event otherwise) :
    Committing event (existingOr event otherwise) := by
  have hfound : ∀ message, Committing event (.done (.ok (message, false))) :=
    fun message other heq => by simp at heq
  refine Committing.query (fun _ _ => nofun) fun reply => ?_
  match reply with
  | .error _ => exact committing_error
  | .ok (some message) => exact hfound message
  | .ok none =>
    refine Committing.query (fun _ _ => nofun) fun reply => ?_
    match reply with
    | .error _ => exact committing_error
    | .ok (some message) => exact hfound message
    | .ok none => exact h

lemma committing_commit {write : ConversationWrite} (h : Committing event otherwise) :
    Committing event (commit write event otherwise) := by
  intro reply
  cases reply with
  | committed message => exact Or.inl ⟨write, message, rfl, rfl⟩
  | integrityError =>
    refine Or.inr ⟨?_, h⟩
    rintro message ⟨write', event', heq⟩
    cases heq
  | failed =>
    refine Or.inr ⟨?_, committing_error⟩
    rintro message ⟨write', event', heq⟩
    cases heq

/-- What may raise before the rest. -/
lemma committing_bindOk {α : Type} {result : Except StoreError α} {f : α → Store (Message × Bool)}
    (h : ∀ a, Committing event (f a)) : Committing event ((Program.done result).bindOk f) := by
  cases result with
  | ok a => exact h a
  | error error => exact committing_error

lemma committing_useConcurrentConversation :
    Committing event (useConcurrentConversation event) := by
  refine Committing.query (fun _ _ => nofun) fun reply => ?_
  match reply with
  | .error _ => exact committing_error
  | .ok none => exact committing_error
  | .ok (some stored) =>
    exact committing_bindOk fun _ => committing_commit (committing_existingOr committing_error)

/-- `create` commits rows of its own event only. -/
theorem committing_create (event : MessageEvent) : Committing event (create event) := by
  refine committing_existingOr (Committing.query (fun _ _ => nofun) fun reply => ?_)
  match reply with
  | .error _ => exact committing_error
  | .ok none =>
    exact committing_bindOk fun _ =>
      committing_commit (committing_existingOr committing_useConcurrentConversation)
  | .ok (some stored) =>
    exact committing_bindOk fun _ => committing_commit (committing_existingOr committing_error)

/-- Either nothing has been stored yet, or the last event has stored the row of the result. -/
lemma Committing.of_runs (h : Committing event p) (hruns : Runs p events q) :
    (Committing event q ∧ ∀ message, ∀ moment ∈ events, ¬ Stores message moment) ∨
      ∃ past write message, events = past ++ [⟨.commit write event, .committed message⟩] ∧
        q = .done (.ok (message, true)) ∧ ∀ message, ∀ moment ∈ past, ¬ Stores message moment := by
  induction hruns with
  | refl program => exact Or.inl ⟨h, fun _ _ => nofun⟩
  | @call op next reply events program hrest ih =>
    rcases h reply with ⟨write, message, heq, hnext⟩ | ⟨hnot, hnext⟩
    · rw [hnext] at hrest
      cases hrest
      exact Or.inr ⟨[], write, message, by rw [heq]; rfl, rfl, fun _ _ => nofun⟩
    · rcases ih hnext with ⟨hq, hnone⟩ | ⟨past, write, message, rfl, hq, hnone⟩
      · refine Or.inl ⟨hq, fun message moment hmem => ?_⟩
        rcases List.mem_cons.mp hmem with rfl | hmem
        · exact hnot message
        · exact hnone message moment hmem
      · refine Or.inr ⟨⟨op, reply⟩ :: past, write, message, rfl, hq, fun message moment hmem => ?_⟩
        rcases List.mem_cons.mp hmem with rfl | hmem
        · exact hnot message
        · exact hnone message moment hmem

/-- A call that says it has created a row has stored it with its last statement. -/
lemma Committing.of_created (h : Committing event p)
    (hreturns : Returns p events (.ok (message, true))) :
    ∃ past write, events = past ++ [⟨.commit write event, .committed message⟩] := by
  rcases h.of_runs hreturns with ⟨hdone, -⟩ | ⟨past, write, message', rfl, hq, -⟩
  · exact absurd rfl (hdone message)
  · cases hq
    exact ⟨past, write, rfl⟩

/-- A call that has stored a row says so, and the row is the one of its event. -/
lemma Committing.of_stores {moment : StoreEvent} (h : Committing event p) (hruns : Runs p events q)
    (hmem : moment ∈ events) (hstores : Stores message moment) :
    (∃ write, moment = ⟨.commit write event, .committed message⟩) ∧
      q = .done (.ok (message, true)) := by
  rcases h.of_runs hruns with ⟨-, hnone⟩ | ⟨past, write, message', rfl, rfl, hnone⟩
  · exact absurd hstores (hnone message moment hmem)
  · rcases mem_concat.mp hmem with hpast | rfl
    · exact absurd hstores (hnone message moment hpast)
    · obtain ⟨write', event', heq⟩ := hstores
      cases heq
      exact ⟨⟨write, rfl⟩, rfl⟩

end Committing

end AgentGateway.Messages
