import AgentGateway.Polling.Identity
import AgentGateway.Lib.Pydantic

/-!
# Events of the message store

`MessageEvent` is the schema in front of the message store, for the HTTP route and for the poller
alike; `wechat_message_to_event` builds one from a normalized message. The schema trims its texts
and bounds them by the columns they end in, which the normalized model does not, and its fields with
constraints refuse a lone surrogate.
-/

namespace AgentGateway.Messages

open Lib Polling

/-! ## Payloads -/

/-- A `float` of a payload. -/
inductive PayloadFloat
  | finite (significand exponent : Int)
  | nan
  | infinity (negative : Bool)
  deriving DecidableEq, Repr

/-- A `JsonValue`, as Python holds it. -/
inductive PayloadValue
  | null
  | bool (value : Bool)
  | int (value : Int)
  | float (value : PayloadFloat)
  | str (value : String)
  | list (items : List PayloadValue)
  | dict (entries : List (String × PayloadValue))

/-- `raw_payload`. -/
abbrev RawPayload := List (String × PayloadValue)

/-- `str` of an integer, which gives up on long ones. -/
def convertible (value : Int) : Bool := (Nat.toDigits 10 value.natAbs).length ≤ maxIntDigits

mutual

/-- Whether `json.dumps(value, allow_nan=False)` returns. -/
def PayloadValue.dumps : PayloadValue → Bool
  | .int value => convertible value
  | .float (.finite ..) => true
  | .float _ => false
  | .list items => dumpsItems items
  | .dict entries => dumpsEntries entries
  | _ => true

/-- The same for the items of a list. -/
def dumpsItems : List PayloadValue → Bool
  | [] => true
  | item :: items => item.dumps && dumpsItems items

/-- The same for the entries of a dictionary, the payload itself being one. -/
def dumpsEntries : List (String × PayloadValue) → Bool
  | [] => true
  | (_, value) :: entries => value.dumps && dumpsEntries entries

end

/-- `validate_raw_payload`. -/
def validateRawPayload (payload : Option RawPayload) : Except ModelError (Option RawPayload) := do
  raiseIf (∃ entries ∈ payload, dumpsEntries entries = false) ⟨⟩
  return payload

/-! ## Fields -/

/-- A text field with a `max_length` only. A field with constraints reads its text as UTF-8 first, and
one without takes any `str`. -/
def boundedStr (encoding : TextEncoding) (maxLength : ℕ) (value : String) :
    Except ModelError String := do
  raiseIf (encoding.encodes value = false) ⟨⟩
  raiseIf (maxLength < (trim value).length) ⟨⟩
  return trim value

/-- A text field with a `min_length` of 1 as well. -/
def filledStr (encoding : TextEncoding) (maxLength : ℕ) (value : String) :
    Except ModelError String := do
  raiseIf (encoding.encodes value = false) ⟨⟩
  constrStr maxLength value

/-- A field that may be `None`. -/
def optionalField {α β : Type} (field : α → Except ModelError β) :
    Option α → Except ModelError (Option β)
  | none => .ok none
  | some value => some <$> field value

inductive ConversationType
  | private_
  | group
  deriving DecidableEq, Repr

inductive SenderType
  | human
  | system
  deriving DecidableEq, Repr

inductive MessageDirection
  | inbound
  | outbound
  | assistant
  | system
  deriving DecidableEq, Repr

/-- `AttachmentMetadata`. -/
structure AttachmentMetadata where
  filename : String
  fileType : String
  mimeType : String
  fileSize : Int
  storagePath : String
  hash : String
  deriving DecidableEq, Repr

/-- `ReplyContext`. -/
structure ReplyContext where
  sourceLocalId : Option String
  sourceServerId : Option String
  senderId : Option String
  senderName : Option String
  rawType : Option Int
  content : Option String
  deriving DecidableEq, Repr

/-- The ids and names are trimmed and bounded, the quoted text is kept as it is. -/
def ReplyContext.validate (encoding : TextEncoding) (data : ReplyContext) :
    Except ModelError ReplyContext := do
  let sourceLocalId ← optionalField (filledStr encoding 255) data.sourceLocalId
  let sourceServerId ← optionalField (filledStr encoding 255) data.sourceServerId
  let senderId ← optionalField (filledStr encoding 255) data.senderId
  let senderName ← optionalField (filledStr encoding 255) data.senderName
  return ⟨sourceLocalId, sourceServerId, senderId, senderName, data.rawType, data.content⟩

/-! ## Events -/

/-- The arguments of `MessageEvent`; nested models are instances, which are taken as they are. -/
structure MessageEventData where
  eventId : String
  source : String
  sourceAccountId : String
  sourceMessageId : String
  conversationId : String
  conversationType : ConversationType
  isMentioned : Option Bool := none
  isSelf : Bool
  conversationName : Option String := none
  senderType : SenderType := .human
  senderId : Option String := none
  senderName : Option String := none
  messageType : String
  rawType : Option Int := none
  content : String
  timestamp : Option PyDatetime := none
  occurredAt : Option PyDatetime := none
  receivedAt : Option PyDatetime := none
  direction : Option MessageDirection := none
  sourceLocalId : Option String := none
  sourceServerId : Option String := none
  sourceMessageIdIsFallback : Bool := false
  replyContext : Option ReplyContext := none
  replyToMessageId : Option String := none
  attachments : List AttachmentMetadata := []
  rawPayload : Option RawPayload := none

/-- A `MessageEvent`. -/
structure MessageEvent where
  eventId : String
  source : String
  sourceAccountId : String
  sourceMessageId : String
  conversationId : String
  conversationType : ConversationType
  isMentioned : Option Bool
  isSelf : Bool
  conversationName : Option String
  senderType : SenderType
  senderId : Option String
  senderName : Option String
  messageType : String
  rawType : Option Int
  content : String
  timestamp : PyDatetime
  occurredAt : PyDatetime
  receivedAt : PyDatetime
  direction : MessageDirection
  sourceLocalId : Option String
  sourceServerId : Option String
  sourceMessageIdIsFallback : Bool
  replyContext : Option ReplyContext
  replyToMessageId : Option String
  attachments : List AttachmentMetadata
  rawPayload : Option RawPayload
  /-- a human has an id -/
  human_sender : senderType = .human → senderId ≠ none
  /-- a group message is a mention or is none, a private one is neither -/
  mention_iff : isMentioned = none ↔ conversationType = .private_

/-- `==` of two `datetime` values: a naive one equals no aware one. -/
def equalDatetime (a b : PyDatetime) : Bool :=
  match a.utcoffset, b.utcoffset with
  | none, none => a.wall = b.wall
  | some offset, some offset' => a.wall - offset = b.wall - offset'
  | _, _ => false

/-- The sender check of `validate_envelope`. -/
def validateSender (senderType : SenderType) (senderId : Option String) :
    Except ModelError (PLift (senderType = .human → senderId ≠ none)) :=
  if h : senderType = .human → senderId ≠ none then .ok ⟨h⟩ else .error ⟨⟩

/-- The mention check of `validate_envelope`. -/
def validateMention (conversationType : ConversationType) (isMentioned : Option Bool) :
    Except ModelError { flag : Option Bool // flag = none ↔ conversationType = .private_ } :=
  match conversationType, isMentioned with
  | .private_, none => .ok ⟨none, by simp⟩
  | .private_, some _ => .error ⟨⟩
  | .group, none => .ok ⟨some false, by simp⟩
  | .group, some flag => .ok ⟨some flag, by simp⟩

/-- The time check of `validate_envelope`: `timestamp` and `occurred_at`. -/
def validateTimes (timestamp occurredAt : Option PyDatetime) :
    Except ModelError (PyDatetime × PyDatetime) :=
  match timestamp, occurredAt with
  | none, none => .error ⟨⟩
  | none, some occurred => .ok (occurred, occurred)
  | some time, none => .ok (time, time)
  | some time, some occurred => if equalDatetime time occurred then .ok (time, occurred) else .error ⟨⟩

/-- The direction that `validate_envelope` fills in. -/
def defaultDirection (senderType : SenderType) (isSelf : Bool) : MessageDirection :=
  match senderType, isSelf with
  | .system, _ => .system
  | .human, true => .outbound
  | .human, false => .inbound

/-- `MessageEvent(...)` at a time: the fields, then `validate_envelope`. -/
def MessageEvent.validate (encoding : TextEncoding) (now : PyDatetime) (data : MessageEventData) :
    Except ModelError MessageEvent := do
  let eventId ← filledStr encoding 255 data.eventId
  let source ← filledStr encoding 64 data.source
  let sourceAccountId ← filledStr encoding 255 data.sourceAccountId
  let sourceMessageId ← filledStr encoding 255 data.sourceMessageId
  let conversationId ← filledStr encoding 255 data.conversationId
  let conversationName ← optionalField (boundedStr encoding 255) data.conversationName
  let senderId ← optionalField (filledStr encoding 255) data.senderId
  let senderName ← optionalField (boundedStr encoding 255) data.senderName
  let messageType ← filledStr encoding 64 data.messageType
  let sourceLocalId ← optionalField (filledStr encoding 255) data.sourceLocalId
  let sourceServerId ← optionalField (filledStr encoding 255) data.sourceServerId
  let replyToMessageId ← optionalField (boundedStr encoding 255) data.replyToMessageId
  let rawPayload ← validateRawPayload data.rawPayload
  let sender ← validateSender data.senderType senderId
  let mention ← validateMention data.conversationType data.isMentioned
  let times ← validateTimes data.timestamp data.occurredAt
  return {
    eventId := eventId
    source := source
    sourceAccountId := sourceAccountId
    sourceMessageId := sourceMessageId
    conversationId := conversationId
    conversationType := data.conversationType
    isMentioned := mention.1
    isSelf := data.isSelf
    conversationName := conversationName
    senderType := data.senderType
    senderId := senderId
    senderName := senderName
    messageType := messageType
    rawType := data.rawType
    content := data.content
    timestamp := times.1
    occurredAt := times.2
    receivedAt := data.receivedAt.getD now
    direction := data.direction.getD (defaultDirection data.senderType data.isSelf)
    sourceLocalId := sourceLocalId
    sourceServerId := sourceServerId
    sourceMessageIdIsFallback := data.sourceMessageIdIsFallback
    replyContext := data.replyContext
    replyToMessageId := replyToMessageId
    attachments := data.attachments
    rawPayload := rawPayload
    human_sender := sender.down
    mention_iff := mention.2 }

/-! ## From the poller -/

/-- The `value` of a conversation type. -/
def conversationTypeValue : WechatConversationType → ConversationType
  | .group => .group
  | .private_ => .private_

/-- The `value` of a sender type. -/
def senderTypeValue : WechatSenderType → SenderType
  | .human => .human
  | .system => .system

/-- The `value` of a message type. -/
def messageTypeValue : WechatMessageType → String
  | .app => "app"
  | .file => "file"
  | .forward => "forward"
  | .image => "image"
  | .reply => "reply"
  | .system => "system"
  | .text => "text"
  | .unknown => "unknown"

/-- The arguments of the `ReplyContext` that `wechat_message_to_event` builds. -/
def replyContextData (reply : WechatReplySummary) : ReplyContext :=
  { sourceLocalId := reply.localId
    sourceServerId := reply.serverId
    senderId := reply.senderId
    senderName := reply.senderName
    rawType := reply.rawType
    content := reply.content }

/-- `wechat_message_to_event`. The payload, which the normalizer hands through, comes beside the
message. -/
def wechatMessageToEvent (encoding : TextEncoding) (now : PyDatetime)
    (message : NormalizedWechatMessage) (rawPayload : Option RawPayload) :
    Except ModelError MessageEvent := do
  let replyContext ←
    optionalField (ReplyContext.validate encoding) (message.reply.map replyContextData)
  MessageEvent.validate encoding now
    { source := "wechat"
      sourceAccountId := message.sourceAccountId
      sourceMessageId := message.sourceMessageId
      eventId := message.eventId
      conversationId := message.conversationId
      conversationType := conversationTypeValue message.conversationType
      conversationName := message.conversationName
      senderType := senderTypeValue message.senderType
      senderId := message.senderId
      senderName := message.senderName
      messageType := messageTypeValue message.messageType
      rawType := some message.rawType
      content := message.content
      timestamp := some message.timestamp
      isMentioned := message.isMentioned
      isSelf := message.isSelf
      sourceLocalId := message.sourceLocalId
      sourceServerId := message.sourceServerId
      sourceMessageIdIsFallback := message.sourceMessageIdIsFallback
      replyContext := replyContext
      replyToMessageId := none
      attachments := []
      rawPayload := rawPayload }

end AgentGateway.Messages
