import AgentGateway.Polling.Checkpoint

/-!
# Messages as agent-wechat hands them over

A window is a list of messages, each a validated `RawWechatMessage` or a mapping that nobody has
validated yet. This file has the two kinds, the Python values and times inside them, and the small
functions by which the poller reads them: which conversation, which local id, whose message.

What `RawWechatMessage.model_validate` makes of a mapping is decided by pydantic; a mapping carries
the result, with what the declared fields guarantee about it.
-/

namespace AgentGateway.Polling

open Lib Polling.Checkpoint

/-! ## Errors and times -/

/-- An exception, as far as a poll result tells: the `code` of a `WechatAdapterError` or
`WechatPollingError`, or nothing for any other class. -/
structure Raised where
  code : Option String
  deriving DecidableEq, Repr

namespace Raised

def other : Raised := ⟨none⟩
def normalization : Raised := ⟨some "wechat_normalization_error"⟩
def chatIdentity : Raised := ⟨some "wechat_chat_identity_error"⟩
def localId : Raised := ⟨some "wechat_local_id_error"⟩
def conversationMismatch : Raised := ⟨some "wechat_conversation_mismatch"⟩
def stateConflict : Raised := ⟨some "wechat_checkpoint_state_conflict"⟩
def continuity : Raised := ⟨some "wechat_checkpoint_continuity_unverified"⟩

/-- An error of the checkpoint store. -/
def ofCheckpoint (error : WechatCheckpointError) : Raised := ⟨some error.code⟩

end Raised

/-- A Python `datetime`: the wall clock in microseconds from the first representable instant, and
the offset from UTC of an aware one. -/
structure PyDatetime where
  wall : Int
  utcoffset : Option Int
  deriving DecidableEq, Repr

/-- `datetime.max`. -/
def maxWall : Int := 315537897599999999

/-- `replace(tzinfo=UTC)` of a naive value, `astimezone(UTC)` of an aware one; the latter raises
an `OverflowError` at the ends of the calendar. -/
def PyDatetime.toUtc (value : PyDatetime) : Except Raised Timestamp :=
  match value.utcoffset with
  | none => .ok value.wall
  | some offset =>
    if 0 ≤ value.wall - offset ∧ value.wall - offset ≤ maxWall then .ok (value.wall - offset)
    else .error .other

/-- `_aware_utc`; `none` for a value that is not a `datetime`. -/
def awareUtc (value : Option PyDatetime) : Option Timestamp :=
  match value with
  | none => none
  | some datetime =>
    match datetime.utcoffset with
    | none => none
    | some _ => datetime.toUtc.toOption

/-! ## Messages -/

/-- The entries of a reply mapping that are read. -/
structure ReplyMapping where
  localId : PyValue
  serverId : PyValue
  sender : PyValue
  senderName : PyValue
  type : PyValue
  content : PyValue
  deriving DecidableEq, Repr

/-- The `reply` of a message, which is not validated. -/
inductive PyReply
  | none
  | text (value : String)
  | mapping (entries : ReplyMapping)
  | other
  deriving DecidableEq, Repr

/-- `RawWechatMessage`. -/
structure RawWechatMessage where
  localId : PyValue
  serverId : PyValue
  chatId : String
  sender : Option String
  senderName : Option String
  type : Int
  content : String
  timestamp : PyDatetime
  isMentioned : PyValue
  isSelf : PyValue
  reply : PyReply
  deriving DecidableEq, Repr

/-- A mapping: the entries the poller looks up itself, and what `model_validate` returns. The
declared fields take their values from the aliased entries when these are present. -/
structure MessageMapping where
  localId : PyValue
  serverId : PyValue
  chatId : PyValue
  isSelf : PyValue
  validated : Option RawWechatMessage
  localId_kept : ∀ message ∈ validated, localId ≠ .none → message.localId = localId
  serverId_kept : ∀ message ∈ validated, serverId ≠ .none → message.serverId = serverId
  chatId_kept : ∀ message ∈ validated, ∀ value, chatId = .str value → message.chatId = value
  isSelf_kept : ∀ message ∈ validated, isSelf ≠ .none → message.isSelf = isSelf
  deriving DecidableEq

/-- One element of a window. -/
inductive WechatMessage
  | raw (message : RawWechatMessage)
  | mapping (entries : MessageMapping)
  | other
  deriving DecidableEq

namespace WechatMessage

/-- The entry under `localId`. -/
def localId : WechatMessage → PyValue
  | .raw message => message.localId
  | .mapping entries => entries.localId
  | .other => .none

/-- The entry under `serverId`. -/
def serverId : WechatMessage → PyValue
  | .raw message => message.serverId
  | .mapping entries => entries.serverId
  | .other => .none

/-- The entry under `chatId`. -/
def chatId : WechatMessage → PyValue
  | .raw message => .str message.chatId
  | .mapping entries => entries.chatId
  | .other => .none

/-- The entry under `isSelf`. -/
def isSelf : WechatMessage → PyValue
  | .raw message => message.isSelf
  | .mapping entries => entries.isSelf
  | .other => .none

/-- `RawWechatMessage.model_validate`, for what is not one already. -/
def validated : WechatMessage → Option RawWechatMessage
  | .raw message => some message
  | .mapping entries => entries.validated
  | .other => none

end WechatMessage

/-! ## Identifiers -/

/-- `_nonempty_string`, and `_optional_string` of the normalizer. -/
def nonemptyString : PyValue → Option String
  | .str value => if strip value = "" then none else some (strip value)
  | _ => none

/-- `_usable_id`. -/
def usableId : PyValue → Option String
  | .int value => if 0 < value then some (toString value) else none
  | .str value => if strip value = "" ∨ strip value = "0" then none else some (strip value)
  | _ => none

/-- `_message_has_usable_server_id`. -/
def messageHasUsableServerId (message : WechatMessage) : Bool := (usableId message.serverId).isSome

/-- `_is_self_message`: only the literal `True` counts. -/
def isSelfMessage (message : WechatMessage) : Bool := message.isSelf = .bool true

/-- The ASCII digits. -/
def isAsciiDigit (c : Char) : Bool := 48 ≤ c.toNat && c.toNat ≤ 57

/-- The number a string of digits denotes. -/
def digitsValue (digits : List Char) : Int :=
  digits.foldl (fun value c => value * 10 + (c.toNat - 48 : ℕ)) 0

/-- The longest string of digits that `int` converts. -/
def maxIntDigits : ℕ := 4300

/-- `int` of a string of ASCII digits. -/
def parseDigits (text : List Char) : Except Raised Int :=
  if text = [] ∨ ¬ text.all isAsciiDigit then .error .localId
  else if maxIntDigits < text.length then .error .other
  else .ok (digitsValue text)

/-- The integer an entry stands for. -/
def asLocalId : PyValue → Except Raised Int
  | .int value => .ok value
  | .str value => parseDigits (strip value).toList
  | _ => .error .localId

/-- `_numeric_local_id`. -/
def numericLocalId (message : WechatMessage) : Except Raised Int := do
  let localId ← asLocalId message.localId
  raiseIf (¬ (0 < localId ∧ localId ≤ maxCheckpointLocalId)) Raised.localId
  return localId

/-- A message and the local id it was read under. -/
abbrev Numbered := Int × WechatMessage

/-- The order of a window, which leaves messages of one local id as they came. -/
def LocalIdLe (a b : Numbered) : Prop := a.1 ≤ b.1

instance : DecidableRel LocalIdLe := fun a b => inferInstanceAs (Decidable (a.1 ≤ b.1))

instance : Std.Total LocalIdLe := ⟨fun a b => le_total a.1 b.1⟩

instance : IsTrans Numbered LocalIdLe := ⟨fun _ _ _ hab hbc => le_trans hab hbc⟩

/-- The check of one message of a window. -/
def validatedMessage (conversationId : String) (message : WechatMessage) :
    Except Raised Numbered := do
  raiseIf (nonemptyString message.chatId ≠ some conversationId) Raised.conversationMismatch
  let localId ← numericLocalId message
  return (localId, message)

/-- `_validated_ordered_messages`. -/
def validatedOrderedMessages (conversationId : String) (messages : List WechatMessage) :
    Except Raised (List Numbered) := do
  let numbered ← messages.mapM (validatedMessage conversationId)
  return numbered.insertionSort LocalIdLe

/-- `_message_timestamp`. -/
def messageTimestamp (message : WechatMessage) : Option Timestamp :=
  message.validated.bind fun raw => awareUtc (some raw.timestamp)

/-! ## Chats -/

/-- An element of the chat list: the entries that are read, or something that is no mapping. -/
inductive ChatEntry
  | mapping (id chatId chat_id userName username name : PyValue)
  | other
  deriving DecidableEq, Repr

/-- `_parse_chat`. -/
def parseChat : ChatEntry → Except Raised (String × Option String)
  | .other => .error .chatIdentity
  | .mapping id chatId chat_id userName username name =>
    match ([id, chatId, chat_id, userName, username].filterMap nonemptyString).dedup with
    | [conversationId] => .ok (conversationId, nonemptyString name)
    | _ => .error .chatIdentity

/-! ## What a validated window guarantees -/

section Validated

variable {conversationId : String} {messages : List WechatMessage} {window : List Numbered}
  {message : WechatMessage} {numbered : Numbered}

lemma validatedMessage_eq_ok (h : validatedMessage conversationId message = .ok numbered) :
    numbered.2 = message ∧ nonemptyString message.chatId = some conversationId ∧
      numericLocalId message = .ok numbered.1 := by
  simp only [validatedMessage, bind_eq_ok, raiseIf_eq_ok, not_not] at h
  obtain ⟨-, hchat, localId, hlocal, h⟩ := h
  cases h
  exact ⟨rfl, hchat, hlocal⟩

lemma numericLocalId_eq_ok {localId : Int} (h : numericLocalId message = .ok localId) :
    0 < localId ∧ localId ≤ maxCheckpointLocalId := by
  simp only [numericLocalId, bind_eq_ok, raiseIf_eq_ok, not_not] at h
  obtain ⟨value, -, -, hrange, h⟩ := h
  cases h
  exact hrange

/-- A window is in the order of the local ids. -/
lemma validatedOrderedMessages_sorted
    (h : validatedOrderedMessages conversationId messages = .ok window) :
    window.Pairwise LocalIdLe := by
  obtain ⟨numbered, -, hsorted⟩ := bind_eq_ok.mp h
  cases hsorted
  exact List.pairwise_insertionSort LocalIdLe numbered

/-- Distinct local ids increase. -/
lemma validatedOrderedMessages_increasing
    (h : validatedOrderedMessages conversationId messages = .ok window)
    (hids : (window.map Prod.fst).Nodup) : window.Pairwise fun a b => a.1 < b.1 := by
  have hdistinct : window.Pairwise fun a b => a.1 ≠ b.1 := List.pairwise_map.mp hids
  exact (validatedOrderedMessages_sorted h).imp₂ (fun _ _ => lt_of_le_of_ne) hdistinct

/-- A window without equal local ids has one message of each. -/
lemma eq_of_localId_eq (h : window.Pairwise fun a b => a.1 < b.1) {x y : Numbered}
    (hx : x ∈ window) (hy : y ∈ window) (hid : x.1 = y.1) : x = y := by
  by_contra hne
  have hids : window.Pairwise fun a b => a.1 ≠ b.1 := h.imp ne_of_lt
  have : Std.Symm fun a b : Numbered => a.1 ≠ b.1 := ⟨fun _ _ => Ne.symm⟩
  exact hids.forall hx hy hne hid

/-- Every message of a window is one that was listed, and has passed its check. -/
lemma validatedOrderedMessages_mem
    (h : validatedOrderedMessages conversationId messages = .ok window) (hmem : numbered ∈ window) :
    numbered.2 ∈ messages ∧ validatedMessage conversationId numbered.2 = .ok numbered := by
  obtain ⟨all, hall, hsorted⟩ := bind_eq_ok.mp h
  cases hsorted
  have hmem' := (List.perm_insertionSort LocalIdLe all).mem_iff.mp hmem
  clear hmem h
  induction messages generalizing all with
  | nil =>
    cases hall
    cases hmem'
  | cons message messages ih =>
    simp only [List.mapM_cons, bind_eq_ok] at hall
    obtain ⟨first, hfirst, rest, hrest, hall⟩ := hall
    cases hall
    rcases List.mem_cons.mp hmem' with rfl | htail
    · have hsame := (validatedMessage_eq_ok hfirst).1
      rw [hsame]
      exact ⟨List.mem_cons_self, hfirst⟩
    · obtain ⟨hlisted, hchecked⟩ := ih rest hrest htail
      exact ⟨List.mem_cons_of_mem _ hlisted, hchecked⟩

end Validated

end AgentGateway.Polling
