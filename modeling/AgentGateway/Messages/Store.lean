import AgentGateway.Messages.Event
import AgentGateway.Lib.RelyGuarantee
import AgentGateway.Lib.Table

/-!
# The message store

`MessageStore.create` as a program of single statements. Nothing is written before the commit, which
flushes the conversation and the message together, so that a commit is one statement here: it writes
both, or breaks one of the constraints, or fails for a reason of its own.
-/

namespace AgentGateway.Messages

open Lib Lib.Table Lib.Program

/-! ## Rows -/

/-- A row of `conversations`. -/
structure Conversation where
  id : ℕ
  source : String
  sourceAccountId : String
  conversationId : String
  conversationType : ConversationType
  conversationName : Option String
  deriving DecidableEq, Repr

/-- A row of `messages`. `_build_message` takes its columns from an event. -/
structure Message where
  id : ℕ
  event : MessageEvent

/-- `uq_conversation_source_account_id`. -/
def Conversation.key (conversation : Conversation) : String × String × String :=
  (conversation.source, conversation.sourceAccountId, conversation.conversationId)

/-- The conversation of an event. -/
def MessageEvent.conversationKey (event : MessageEvent) : String × String × String :=
  (event.source, event.sourceAccountId, event.conversationId)

/-- `uq_message_source_account_conversation_message`. -/
def MessageEvent.sourceKey (event : MessageEvent) : (String × String × String) × String :=
  (event.conversationKey, event.sourceMessageId)

/-- What `_get_existing_message` takes for the row of an event. -/
def Message.Matches (message : Message) (event : MessageEvent) : Prop :=
  message.event.eventId = event.eventId ∨ message.event.sourceKey = event.sourceKey

instance (message : Message) (event : MessageEvent) : Decidable (message.Matches event) :=
  inferInstanceAs (Decidable (_ ∨ _))

/-! ## Requests -/

/-- What a commit does to the conversation. -/
inductive ConversationWrite
  | insert
  | rename (id : ℕ) (conversationName : String)
  | keep
  deriving DecidableEq

inductive StoreRequest
  | getByEventId (eventId : String)
  | getBySourceMessage (key : (String × String × String) × String)
  | getConversation (key : String × String × String)
  | commit (conversation : ConversationWrite) (message : MessageEvent)

/-- An error of the database other than an `IntegrityError`. -/
structure DatabaseError where
  deriving DecidableEq, Repr

/-- How a commit ends; the last two are rolled back. -/
inductive CommitReply
  | committed (message : Message)
  | integrityError
  | failed

/-- The replies. -/
@[reducible] def StoreReply : StoreRequest → Type
  | .getByEventId _ => Except DatabaseError (Option Message)
  | .getBySourceMessage _ => Except DatabaseError (Option Message)
  | .getConversation _ => Except DatabaseError (Option Conversation)
  | .commit _ _ => CommitReply

/-- What `create` raises. -/
inductive StoreError
  | database
  | integrity
  | conversationTypeConflict (existingType requestedType : ConversationType)
  deriving DecidableEq, Repr

abbrev Store (α : Type) := Program StoreRequest StoreReply (Except StoreError α)

abbrev StoreEvent := Program.Event StoreRequest StoreReply

/-- A statement that fails raises. -/
def reraise {α : Type} : Except DatabaseError α → Except StoreError α
  | .ok a => .ok a
  | .error _ => .error .database

/-! ## The calls -/

/-- `_get_by_event_id`. -/
def getByEventId (eventId : String) : Store (Option Message) :=
  .call (.getByEventId eventId) fun reply => .done (reraise reply)

/-- `_get_by_source_message`. -/
def getBySourceMessage (key : (String × String × String) × String) : Store (Option Message) :=
  .call (.getBySourceMessage key) fun reply => .done (reraise reply)

/-- `_get_conversation`. -/
def getConversation (key : String × String × String) : Store (Option Conversation) :=
  .call (.getConversation key) fun reply => .done (reraise reply)

/-- `_get_existing_message`. -/
def getExistingMessage (event : MessageEvent) : Store (Option Message) :=
  (getByEventId event.eventId).bindOk fun existing =>
    match existing with
    | some message => .done (.ok (some message))
    | none => getBySourceMessage event.sourceKey

/-- Return the row of the event if there is one, with `created` false, and go on otherwise. -/
def existingOr (event : MessageEvent) (otherwise : Store (Message × Bool)) :
    Store (Message × Bool) :=
  (getExistingMessage event).bindOk fun existing =>
    match existing with
    | some message => .done (.ok (message, false))
    | none => otherwise

/-- Commit, and recover from an `IntegrityError` after the rollback. -/
def commit (conversation : ConversationWrite) (event : MessageEvent)
    (recover : Store (Message × Bool)) : Store (Message × Bool) :=
  .call (.commit conversation event) fun reply =>
    match reply with
    | .committed message => .done (.ok (message, true))
    | .integrityError => recover
    | .failed => .done (.error .database)

/-- `_validate_conversation_type`. -/
def validateConversationType (conversation : Conversation) (event : MessageEvent) :
    Except StoreError Unit :=
  raiseIf (conversation.conversationType ≠ event.conversationType)
    (.conversationTypeConflict conversation.conversationType event.conversationType)

/-- `_retry_message_insert`. -/
def retryMessageInsert (event : MessageEvent) : Store (Message × Bool) :=
  commit .keep event (existingOr event (.done (.error .integrity)))

/-- What `create` does about a conversation that it could not insert and has not found a message
in: somebody else has inserted it in the meantime. -/
def useConcurrentConversation (event : MessageEvent) : Store (Message × Bool) :=
  (getConversation event.conversationKey).bindOk fun conversation =>
    match conversation with
    | none => .done (.error .integrity)
    | some conversation =>
      (Program.done (validateConversationType conversation event)).bindOk fun _ =>
        retryMessageInsert event

/-- What `create` has pending for the conversation when it commits. -/
def pendingConversation (conversation : Option Conversation) (event : MessageEvent) :
    Except StoreError ConversationWrite :=
  match conversation with
  | none => .ok .insert
  | some conversation => do
    validateConversationType conversation event
    match event.conversationName with
    | some name => return .rename conversation.id name
    | none => return .keep

/-- `MessageStore.create`: the row of the event, and whether this call has created it. -/
def create (event : MessageEvent) : Store (Message × Bool) :=
  existingOr event <|
    (getConversation event.conversationKey).bindOk fun conversation =>
      (Program.done (pendingConversation conversation event)).bindOk fun pending =>
        commit pending event <| existingOr event <|
          if conversation = none then useConcurrentConversation event
          else .done (.error .integrity)

/-! ## The tables -/

structure MessageTables where
  conversations : List Conversation
  messages : List Message

/-- SQL's `trim`, which takes spaces away. -/
def sqlTrim (value : String) : List Char :=
  (value.toList.dropWhile (· = ' ')).rdropWhile (· = ' ')

/-- The `length` of SQLite, which ends at the first NUL. PostgreSQL stores no text with a NUL. -/
def sqlLength (value : List Char) : ℕ := (value.takeWhile (·.toNat ≠ 0)).length

/-- The `CHECK` constraints of `messages`: `ck_message_conversation_mention` and
`ck_message_human_sender_id`. The types take care of `ck_message_sender_type` and
`ck_message_direction`. -/
def MessageEvent.Checks (event : MessageEvent) : Prop :=
  ((event.conversationType ≠ .private_ ∨ event.isMentioned = none) ∧
    (event.conversationType ≠ .group ∨ event.isMentioned ≠ none)) ∧
  (event.senderType = .system ∨ ∃ senderId ∈ event.senderId, 0 < sqlLength (sqlTrim senderId))

instance : DecidablePred MessageEvent.Checks :=
  fun _ => inferInstanceAs (Decidable ((_ ∧ _) ∧ _))

/-- The commit breaks a `CHECK` or hits a unique key of the messages, inserts a conversation that
exists, or adds a message to one that does not. -/
def MessageTables.Violates (tables : MessageTables) (conversation : ConversationWrite)
    (event : MessageEvent) : Prop :=
  ¬ event.Checks ∨ (∃ message ∈ tables.messages, message.Matches event) ∨
    (conversation = .insert ↔
      ∃ stored ∈ tables.conversations, stored.key = event.conversationKey)

instance (tables : MessageTables) (conversation : ConversationWrite) (event : MessageEvent) :
    Decidable (tables.Violates conversation event) :=
  inferInstanceAs (Decidable (_ ∨ _ ∨ (_ ↔ _)))

/-- The conversations after a commit; a new one gets the given id. -/
def writeConversation (conversation : ConversationWrite) (event : MessageEvent) (id : ℕ)
    (conversations : List Conversation) : List Conversation :=
  match conversation with
  | .insert => conversations ++ [{
      id := id
      source := event.source
      sourceAccountId := event.sourceAccountId
      conversationId := event.conversationId
      conversationType := event.conversationType
      conversationName := event.conversationName }]
  | .rename id' name => updateWhere (fun stored : Conversation => stored.id = id')
      (fun stored => { stored with conversationName := some name }) conversations
  | .keep => conversations

/-- The tables after a statement. -/
def MessageStep (tables : MessageTables) (event : StoreEvent) (tables' : MessageTables) : Prop :=
  match event with
  | ⟨.getByEventId eventId, reply⟩ => tables' = tables ∧ ∀ row, reply = .ok row →
      row = tables.messages.find? fun message => message.event.eventId = eventId
  | ⟨.getBySourceMessage key, reply⟩ => tables' = tables ∧ ∀ row, reply = .ok row →
      row = tables.messages.find? fun message => message.event.sourceKey = key
  | ⟨.getConversation key, reply⟩ => tables' = tables ∧ ∀ row, reply = .ok row →
      row = tables.conversations.find? fun conversation => conversation.key = key
  | ⟨.commit conversation event, .committed message⟩ =>
    ¬ tables.Violates conversation event ∧ message.event = event ∧
      (∀ other ∈ tables.messages, other.id ≠ message.id) ∧
      ∃ id, (∀ other ∈ tables.conversations, other.id ≠ id) ∧
        tables' = ⟨writeConversation conversation event id tables.conversations,
          tables.messages ++ [message]⟩
  | ⟨.commit conversation event, .integrityError⟩ =>
    tables.Violates conversation event ∧ tables' = tables
  | ⟨.commit _ _, .failed⟩ => tables' = tables

/-- The constraints of the two tables. -/
structure MessageTables.Valid (tables : MessageTables) : Prop where
  ids : UniqueKeys Message.id tables.messages
  eventIds : UniqueKeys (fun message : Message => message.event.eventId) tables.messages
  sourceKeys : UniqueKeys (fun message : Message => message.event.sourceKey) tables.messages
  conversationIds : UniqueKeys Conversation.id tables.conversations
  conversationKeys : UniqueKeys Conversation.key tables.conversations
  conversation_exists : ∀ message ∈ tables.messages, ∃ stored ∈ tables.conversations,
    stored.key = message.event.conversationKey
  checks : ∀ message ∈ tables.messages, message.event.Checks

end AgentGateway.Messages
