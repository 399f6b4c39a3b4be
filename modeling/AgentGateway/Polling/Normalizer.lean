import AgentGateway.Polling.Messages

/-!
# The normalizer

`normalize_wechat_message` and the two digests it shares with the poller: the event id of a message
and the continuity fingerprint of a checkpoint. A digest is the SHA-256 of a canonical JSON object;
the objects that are ever digested are the cases of `DigestFields`.
-/

namespace AgentGateway.Polling

open Lib Polling.Checkpoint

/-! ## Digests -/

/-- The JSON objects `_digest` is called with. -/
inductive DigestFields
  /-- the anchor of a message with a server id, `CHECKPOINT_FINGERPRINT_VERSION` 1 -/
  | serverAnchor (serverId : String)
  /-- the anchor of any other message, `FALLBACK_CHECKPOINT_FINGERPRINT_VERSION` 1 -/
  | fallbackAnchor (chatId : String) (isSelf : Bool) (localId : String) (messageType : Int)
      (senderId : Option String) (timestamp : Timestamp)
  /-- the event id, `EVENT_ID_VERSION` 1 -/
  | event (accountId chatId sourceMessageId : String)
  /-- the identity of a message without a server id, `LOCAL_MESSAGE_ID_VERSION` 1 -/
  | localMessage (accountId chatId localId : String)
  /-- the same in a later generation, `GENERATION_LOCAL_MESSAGE_ID_VERSION` 2 -/
  | generationMessage (accountId chatId localId : String) (generation : Int)
  deriving DecidableEq, Repr

/-- What the normalizer takes from libraries. -/
structure Codecs where
  /-- `_digest`: SHA-256 over canonical JSON -/
  digest : DigestFields → String
  /-- `_app_message_subtype`: an XML parser looks for the subtype -/
  appMessageSubtype : String → Except Raised (Option Int)

/-! ## Normalized messages -/

inductive WechatConversationType
  | group
  | private_
  deriving DecidableEq, Repr

inductive WechatMessageType
  | app
  | file
  | forward
  | image
  | reply
  | system
  | text
  | unknown
  deriving DecidableEq, Repr

inductive WechatSenderType
  | human
  | system
  deriving DecidableEq, Repr

/-- `WechatReplySummary`. -/
structure WechatReplySummary where
  localId : Option String
  serverId : Option String
  senderId : Option String
  senderName : Option String
  rawType : Option Int
  content : Option String
  deriving DecidableEq, Repr

/-- `NormalizedWechatMessage`. -/
structure NormalizedWechatMessage where
  sourceAccountId : String
  sourceMessageId : String
  sourceLocalId : Option String
  sourceServerId : Option String
  sourceMessageIdIsFallback : Bool
  eventId : String
  conversationId : String
  conversationType : WechatConversationType
  conversationName : Option String
  senderType : WechatSenderType
  senderId : Option String
  senderName : Option String
  messageType : WechatMessageType
  rawType : Int
  content : String
  timestamp : PyDatetime
  isMentioned : Option Bool
  isSelf : Bool
  reply : Option WechatReplySummary
  deriving DecidableEq, Repr

/-! ## Pieces -/

/-- `_raw_message`. -/
def rawMessage (raw : WechatMessage) : Except Raised RawWechatMessage :=
  match raw.validated with
  | some message => .ok message
  | none => .error .normalization

/-- `_optional_string` of a declared `str | None` field. -/
def optionalString (value : Option String) : Option String :=
  value.bind fun text => nonemptyString (.str text)

/-- `_required`. -/
def required (value : Option String) : Except Raised String :=
  match optionalString value with
  | some text => .ok text
  | none => .error .normalization

/-- `_validated_generation`. -/
def validatedGeneration (value : Int) : Except Raised Int := do
  raiseIf (¬ (0 ≤ value ∧ value ≤ maxCheckpointLocalId)) Raised.normalization
  return value

/-- `_source_message_id`: the server id, or else a digest of where the message was seen. The flag
says which. -/
def sourceMessageId (codecs : Codecs) (serverId localId : Option String)
    (accountId chatId : String) (generation : Int) : Except Raised (String × Bool) :=
  match serverId, localId with
  | some stableId, _ => .ok (stableId, false)
  | none, none => .error .normalization
  | none, some fallbackLocalId =>
    if 0 < generation then
      .ok ("local:v2:" ++
        codecs.digest (.generationMessage accountId chatId fallbackLocalId generation), true)
    else
      .ok ("local:v1:" ++ codecs.digest (.localMessage accountId chatId fallbackLocalId), true)

/-- `build_wechat_event_id`. -/
def buildWechatEventId (codecs : Codecs) (accountId chatId messageId : String) :
    Except Raised String := do
  let account ← required (some accountId)
  let chat ← required (some chatId)
  let message ← required (some messageId)
  return "v1:wechat:" ++ codecs.digest (.event account chat message)

/-- `_reply_summary`. -/
def replySummary : PyReply → Option WechatReplySummary
  | .text value => (nonemptyString (.str value)).map fun content =>
      ⟨none, none, none, none, none, some content⟩
  | .mapping entries =>
    let summary : WechatReplySummary :=
      { localId := usableId entries.localId
        serverId := usableId entries.serverId
        senderId := nonemptyString entries.sender
        senderName := nonemptyString entries.senderName
        rawType := entries.type.asInt?
        content := nonemptyString entries.content }
    if summary = ⟨none, none, none, none, none, none⟩ then none else some summary
  | _ => none

/-- `_message_type`. -/
def messageType (codecs : Codecs) (message : RawWechatMessage)
    (reply : Option WechatReplySummary) : Except Raised WechatMessageType :=
  if message.type = 10000 then .ok .system
  else if message.type = 1 then .ok .text
  else if message.type = 3 then .ok .image
  else if message.type ≠ 49 then .ok .unknown
  else if reply ≠ none then .ok .reply
  else
    (codecs.appMessageSubtype message.content).map fun subtype =>
      if subtype = some 6 then .file else if subtype = some 19 then .forward else .app

/-- `chat_id.endswith("@chatroom")`. -/
def conversationType (chatId : String) : WechatConversationType :=
  if "@chatroom".toList <:+ chatId.toList then .group else .private_

/-- The sender of a message; only a system message may do without. -/
def senderId (message : RawWechatMessage) : Except Raised (Option String) :=
  if message.type = 10000 then .ok (optionalString message.sender)
  else some <$> required message.sender

/-- `normalize_wechat_message`. -/
def normalizeWechatMessage (codecs : Codecs) (raw : WechatMessage) (sourceAccountId : String)
    (conversationName : Option String) (regressionGeneration : Int) :
    Except Raised NormalizedWechatMessage := do
  let message ← rawMessage raw
  let accountId ← required (some sourceAccountId)
  let chatId ← required (some message.chatId)
  let sender ← senderId message
  let generation ← validatedGeneration regressionGeneration
  let identity ← sourceMessageId codecs (usableId message.serverId) (usableId message.localId)
    accountId chatId generation
  let eventId ← buildWechatEventId codecs accountId chatId identity.1
  let kind ← messageType codecs message (replySummary message.reply)
  return {
    sourceAccountId := accountId
    sourceMessageId := identity.1
    sourceLocalId := usableId message.localId
    sourceServerId := usableId message.serverId
    sourceMessageIdIsFallback := identity.2
    eventId := eventId
    conversationId := chatId
    conversationType := conversationType chatId
    conversationName := conversationName
    senderType := if message.type = 10000 then .system else .human
    senderId := sender
    senderName := message.senderName
    messageType := kind
    rawType := message.type
    content := message.content
    timestamp := message.timestamp
    isMentioned := match conversationType chatId with
      | .group => some (decide (message.isMentioned = .bool true))
      | .private_ => none
    isSelf := decide (message.isSelf = .bool true)
    reply := replySummary message.reply }

/-- `build_wechat_checkpoint_fingerprint`. -/
def buildWechatCheckpointFingerprint (codecs : Codecs) (raw : WechatMessage) :
    Except Raised (Option String) := do
  let message ← rawMessage raw
  match usableId message.serverId, usableId message.localId,
      optionalString (some message.chatId) with
  | some serverId, _, _ => return some (codecs.digest (.serverAnchor serverId))
  | none, some localId, some chatId =>
    let timestamp ← message.timestamp.toUtc
    return some (codecs.digest (.fallbackAnchor chatId (decide (message.isSelf = .bool true))
      localId message.type (optionalString message.sender) timestamp))
  | none, _, _ => return none

end AgentGateway.Polling
