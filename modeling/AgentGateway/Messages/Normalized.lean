import AgentGateway.Messages.Event

/-!
# What the schema makes of a normalized message

The normalizer strips every identifier, so the schema, which trims less, finds nothing left to trim:
what it accepts it keeps. It bounds texts that the normalizer does not, though, the names and the
payload among them, and those decide whether a normalized message becomes an event at all.
-/

namespace AgentGateway.Messages

open Lib Polling Polling.Checkpoint

/-! ## Identifiers -/

/-- A text the normalizer lets through as an identifier. -/
structure Identifier (text : String) : Prop where
  stripped : strip text = text
  nonempty : text ≠ ""

lemma identifier_strip {value : String} (h : strip value ≠ "") : Identifier (strip value) :=
  ⟨strip_strip value, h⟩

variable {text : String} {value : Option String}

lemma identifier_of_nonemptyString {value : PyValue} (h : nonemptyString value = some text) :
    Identifier text := by
  cases value with
  | str value =>
    simp only [nonemptyString] at h
    split_ifs at h with hempty
    cases h
    exact identifier_strip hempty
  | none | bool | int | object => cases h

lemma identifier_of_optionalString (h : optionalString value = some text) : Identifier text := by
  cases value with
  | none => cases h
  | some value =>
    have hvalue : nonemptyString (.str value) = some text := h
    exact identifier_of_nonemptyString hvalue

lemma identifier_of_required (h : required value = .ok text) : Identifier text := by
  unfold required at h
  split at h
  · rename_i heq
    cases h
    exact identifier_of_optionalString heq
  · cases h

/-- An id that can be used is an identifier. -/
lemma identifier_of_usableId {value : PyValue} {id : String} (h : usableId value = some id) :
    Identifier id := by
  refine ⟨strip_usableId h, ?_⟩
  rintro rfl
  cases value with
  | int value =>
    simp only [usableId] at h
    split_ifs at h with hpos
    obtain ⟨n, rfl⟩ := Int.eq_ofNat_of_zero_le hpos.le
    have hdigits := toList_toString_int n
    rw [Option.some.inj h] at hdigits
    exact Nat.toDigits_ne_nil hdigits.symm
  | str value =>
    simp only [usableId] at h
    split_ifs at h with hunusable
    exact hunusable (Or.inl (Option.some.inj h))
  | none | bool | object => cases h

/-- Text without white space, and not empty. -/
lemma identifier_of_not_space (h : ∀ c ∈ text.toList, isSpace c = false) (hnonempty : text ≠ "") :
    Identifier text :=
  ⟨strip_eq_self h, hnonempty⟩

variable {encoding : TextEncoding} {maxLength : ℕ}

/-- The field takes a text that can be encoded and fits. -/
lemma filledStr_eq_ok {value : String} :
    filledStr encoding maxLength value = .ok text ↔ encoding.encodes value = true ∧
      1 ≤ text.length ∧ text.length ≤ maxLength ∧ text = trim value := by
  simp only [filledStr, bind_eq_ok, raiseIf_eq_ok, Bool.not_eq_false, exists_const,
    constrStr_eq_ok]

/-- The schema keeps an identifier that fits. -/
lemma Identifier.filledStr (h : Identifier text) (hencodes : encoding.encodes text = true)
    (hlength : text.length ≤ maxLength) : filledStr encoding maxLength text = .ok text := by
  have hpos : 1 ≤ text.length := by
    refine Nat.one_le_iff_ne_zero.mpr fun hzero => h.nonempty ?_
    exact String.length_eq_zero_iff.mp hzero
  exact filledStr_eq_ok.mpr ⟨hencodes, hpos, hlength, (trim_eq_self h.stripped).symm⟩

lemma optionalField_filledStr (h : ∀ text ∈ value, Identifier text ∧ text.length ≤ maxLength)
    (hencodes : ∀ text ∈ value, encoding.encodes text = true) :
    optionalField (filledStr encoding maxLength) value = .ok value := by
  cases value with
  | none => rfl
  | some text =>
    obtain ⟨hidentifier, hlength⟩ := h text rfl
    rw [optionalField, hidentifier.filledStr (hencodes text rfl) hlength]
    rfl

/-- What passes an optional field passes the field. -/
lemma optionalField_eq_ok {α β : Type} {field : α → Except ModelError β} {value : Option α}
    {result : Option β} :
    optionalField field value = .ok result ↔
      Option.Rel (fun a b => field a = .ok b) value result := by
  cases value with
  | none =>
    constructor
    · intro h
      cases h
      exact Option.Rel.none
    · intro h
      cases h
      rfl
  | some a =>
    rw [optionalField, map_eq_ok]
    constructor
    · rintro ⟨b, hb, rfl⟩
      exact Option.Rel.some hb
    · intro h
      cases h with
      | some hb => exact ⟨_, hb, rfl⟩

/-- A bounded text is trimmed and fits. -/
lemma boundedStr_eq_ok {value : String} :
    boundedStr encoding maxLength value = .ok text ↔
      encoding.encodes value = true ∧ text.length ≤ maxLength ∧ text = trim value := by
  simp only [boundedStr, bind_eq_ok, raiseIf_eq_ok, Bool.not_eq_false, exists_const, not_lt,
    and_congr_right_iff]
  intro _
  constructor
  · rintro ⟨hlength, h⟩
    cases h
    exact ⟨hlength, rfl⟩
  · rintro ⟨hlength, rfl⟩
    exact ⟨hlength, rfl⟩

/-- What passes an optional field can be encoded. -/
lemma encodes_of_optionalField {field : String → Except ModelError String}
    (hfield : ∀ {value text}, field value = .ok text → encoding.encodes value = true)
    {result : Option String} (h : Option.Rel (fun a b => field a = .ok b) value result) :
    ∀ text ∈ value, encoding.encodes text = true := by
  intro text hmem
  cases h with
  | none => cases hmem
  | some hvalid =>
    cases hmem
    exact hfield hvalid

/-! ## Normalized messages -/

/-- What the normalizer guarantees about the identifiers of a message. -/
structure Normal (message : NormalizedWechatMessage) : Prop where
  account : Identifier message.sourceAccountId
  conversation : Identifier message.conversationId
  sender : ∀ id ∈ message.senderId, Identifier id
  localId : ∀ id ∈ message.sourceLocalId, Identifier id
  serverId : ∀ id ∈ message.sourceServerId, Identifier id
  reply : ∀ reply ∈ message.reply, (∀ id ∈ reply.localId, Identifier id) ∧
    (∀ id ∈ reply.serverId, Identifier id) ∧ (∀ id ∈ reply.senderId, Identifier id) ∧
      ∀ name ∈ reply.senderName, Identifier name
  human_sender : message.senderType = .human → message.senderId ≠ none
  mention_iff : message.isMentioned = none ↔ message.conversationType = .private_

/-- The identifiers of a message have at most 255 characters. -/
structure IdentifiersFit (message : NormalizedWechatMessage) : Prop where
  account : message.sourceAccountId.length ≤ 255
  conversation : message.conversationId.length ≤ 255
  sender : ∀ id ∈ message.senderId, id.length ≤ 255
  localId : ∀ id ∈ message.sourceLocalId, id.length ≤ 255
  serverId : ∀ id ∈ message.sourceServerId, id.length ≤ 255
  reply : ∀ reply ∈ message.reply, (∀ id ∈ reply.localId, id.length ≤ 255) ∧
    (∀ id ∈ reply.serverId, id.length ≤ 255) ∧ ∀ id ∈ reply.senderId, id.length ≤ 255

/-- The names of a message fit in their columns: of the chat, of the sender, and of the sender of
the message replied to. -/
structure NamesFit (message : NormalizedWechatMessage) : Prop where
  conversation : ∀ name ∈ message.conversationName, (trim name).length ≤ 255
  sender : ∀ name ∈ message.senderName, (trim name).length ≤ 255
  reply : ∀ reply ∈ message.reply, ∀ name ∈ reply.senderName, name.length ≤ 255

/-- The texts that the schema constrains hold no lone surrogate. The content and the quoted text may
hold some. -/
structure TextsEncode (encoding : TextEncoding) (message : NormalizedWechatMessage) : Prop where
  account : encoding.encodes message.sourceAccountId = true
  conversation : encoding.encodes message.conversationId = true
  conversationName : ∀ name ∈ message.conversationName, encoding.encodes name = true
  sender : ∀ id ∈ message.senderId, encoding.encodes id = true
  senderName : ∀ name ∈ message.senderName, encoding.encodes name = true
  localId : ∀ id ∈ message.sourceLocalId, encoding.encodes id = true
  serverId : ∀ id ∈ message.sourceServerId, encoding.encodes id = true
  reply : ∀ reply ∈ message.reply, (∀ id ∈ reply.localId, encoding.encodes id = true) ∧
    (∀ id ∈ reply.serverId, encoding.encodes id = true) ∧
    (∀ id ∈ reply.senderId, encoding.encodes id = true) ∧
      ∀ name ∈ reply.senderName, encoding.encodes name = true

section Normalize

variable {codecs : Codecs} {raw : WechatMessage} {account tag : String} {name : Option String}
  {generation : Int} {normalized : NormalizedWechatMessage}

lemma replySummary_identifiers {reply : PyReply} {summary : WechatReplySummary}
    (h : replySummary reply = some summary) : (∀ id ∈ summary.localId, Identifier id) ∧
    (∀ id ∈ summary.serverId, Identifier id) ∧ (∀ id ∈ summary.senderId, Identifier id) ∧
      ∀ name ∈ summary.senderName, Identifier name := by
  cases reply with
  | text value =>
    obtain ⟨content, -, rfl⟩ := Option.map_eq_some_iff.mp h
    simp
  | mapping entries =>
    simp only [replySummary] at h
    split_ifs at h
    cases h
    exact ⟨fun _ => identifier_of_usableId, fun _ => identifier_of_usableId,
      fun _ => identifier_of_nonemptyString, fun _ => identifier_of_nonemptyString⟩
  | none | other => cases h

lemma senderId_eq_ok {message : RawWechatMessage} {sender : Option String}
    (h : senderId message = .ok sender) :
    (∀ id ∈ sender, Identifier id) ∧ (message.type ≠ 10000 → sender ≠ none) := by
  unfold senderId at h
  split_ifs at h with hsystem
  · cases h
    exact ⟨fun _ => identifier_of_optionalString, fun hhuman => absurd hsystem hhuman⟩
  · obtain ⟨id, hid, rfl⟩ := map_eq_ok.mp h
    refine ⟨fun id' hid' => ?_, fun _ => Option.some_ne_none id⟩
    cases hid'
    exact identifier_of_required hid

/-- The normalizer makes its texts identifiers. -/
lemma normal_of_normalize
    (h : normalizeWechatMessage codecs raw account name generation = .ok normalized) :
    Normal normalized := by
  simp only [normalizeWechatMessage, bind_eq_ok] at h
  obtain ⟨message, -, accountId, haccount, chatId, hchat, sender, hsender, gen, -, identity, -,
    eventId, -, kind, -, h⟩ := h
  obtain ⟨hsenders, hhuman⟩ := senderId_eq_ok hsender
  cases h
  refine ⟨identifier_of_required haccount, identifier_of_required hchat, hsenders,
    fun _ => identifier_of_usableId, fun _ => identifier_of_usableId,
    fun _ => replySummary_identifiers, ?_, ?_⟩
  · intro htype
    refine hhuman fun hsystem => ?_
    rw [if_pos hsystem] at htype
    cases htype
  · dsimp only
    cases conversationType chatId with
    | group => simp
    | private_ => simp

/-- So is a digest behind its tag. -/
lemma identifier_tagged (hhex : codecs.Hexadecimal) (fields : DigestFields)
    (htag : ∀ c ∈ tag.toList, isSpace c = false) (hnonempty : tag ≠ "") :
    Identifier (tag ++ codecs.digest fields) := by
  refine identifier_of_not_space (fun c hc => ?_) fun hempty => ?_
  · rw [String.toList_append, List.mem_append] at hc
    rcases hc with hc | hc
    · exact htag c hc
    · exact hexDigit_not_space (hhex fields c hc)
  · have hlists := congrArg String.toList hempty
    rw [String.toList_append, String.toList_empty] at hlists
    exact hnonempty (String.toList_injective (List.append_eq_nil_iff.mp hlists).1)

/-- A tagged digest is ASCII text. -/
lemma encodes_tagged (encoding : TextEncoding) (hhex : codecs.Hexadecimal) (fields : DigestFields)
    (htag : ∀ c ∈ tag.toList, c.toNat < 128) :
    encoding.encodes (tag ++ codecs.digest fields) = true := by
  refine encoding.ascii _ fun c hc => ?_
  rw [String.toList_append, List.mem_append] at hc
  rcases hc with hc | hc
  · exact htag c hc
  · have hall : ∀ c ∈ hexDigits, c.toNat < 128 := by decide +kernel
    exact hall c (hhex fields c hc)

/-- The event id is an identifier that fits in its column. -/
lemma eventId_fits (hsha : codecs.Sha256)
    (h : normalizeWechatMessage codecs raw account name generation = .ok normalized) :
    filledStr encoding 255 normalized.eventId = .ok normalized.eventId := by
  obtain ⟨message, -, hidentified⟩ := normalizeWechatMessage_eq_ok h
  rw [hidentified.event]
  refine (identifier_tagged hsha.hexadecimal _ (by decide +kernel) (by decide)).filledStr
    (encodes_tagged encoding hsha.hexadecimal _ (by decide +kernel)) ?_
  rw [String.length_append, hsha.length]
  decide +kernel

/-- So is the source message id, a server id or a digest. -/
lemma sourceMessageId_fits (hsha : codecs.Sha256)
    (h : normalizeWechatMessage codecs raw account name generation = .ok normalized)
    (hfit : IdentifiersFit normalized)
    (hencodes : ∀ id ∈ normalized.sourceServerId, encoding.encodes id = true) :
    filledStr encoding 255 normalized.sourceMessageId = .ok normalized.sourceMessageId := by
  have hserver := hfit.serverId
  simp only [normalizeWechatMessage, bind_eq_ok] at h
  obtain ⟨message, -, accountId, -, chatId, -, sender, -, gen, -, identity, hidentity, eventId, -,
    kind, -, h⟩ := h
  cases h
  show filledStr encoding 255 identity.1 = .ok identity.1
  have hserver' : ∀ id ∈ usableId message.serverId, id.length ≤ 255 := hserver
  have hencodes' : ∀ id ∈ usableId message.serverId, encoding.encodes id = true := hencodes
  cases hstable : usableId message.serverId with
  | some stableId =>
    rw [hstable] at hidentity
    have heq : identity.1 = stableId := sourceMessageId_of_server hidentity
    rw [heq]
    exact (identifier_of_usableId hstable).filledStr (hencodes' stableId hstable)
      (hserver' stableId hstable)
  | none =>
    rw [hstable] at hidentity
    obtain ⟨usable, -, heq⟩ := sourceMessageId_of_fallback hidentity
    have hlength : (fallbackTag gen).length ≤ 9 ∧ fallbackTag gen ≠ "" ∧
        ∀ c ∈ (fallbackTag gen).toList, c.toNat < 128 := by
      unfold fallbackTag
      split_ifs <;> decide +kernel
    rw [heq]
    refine (identifier_tagged hsha.hexadecimal _ (fun _ => tag_not_space) hlength.2.1).filledStr
      (encodes_tagged encoding hsha.hexadecimal _ hlength.2.2) ?_
    rw [String.length_append, hsha.length]
    have : checkpointFingerprintLength = 64 := rfl
    omega

end Normalize

/-! ## Events -/

section Event

variable {now : PyDatetime} {message : NormalizedWechatMessage} {rawPayload : Option RawPayload}
  {event : MessageEvent}

/-- The event says what the message says: who wrote what, where, when, and whether to whom. -/
structure Keeps (message : NormalizedWechatMessage) (event : MessageEvent) : Prop where
  eventId : event.eventId = message.eventId
  sourceMessageId : event.sourceMessageId = message.sourceMessageId
  account : event.sourceAccountId = message.sourceAccountId
  conversation : event.conversationId = message.conversationId
  conversationType : event.conversationType = conversationTypeValue message.conversationType
  senderType : event.senderType = senderTypeValue message.senderType
  sender : event.senderId = message.senderId
  content : event.content = message.content
  timestamp : event.timestamp = message.timestamp
  mention : event.isMentioned = message.isMentioned

/-- `json.dumps` takes the payload. -/
def Dumps (rawPayload : Option RawPayload) : Prop :=
  ∀ entries ∈ rawPayload, dumpsEntries entries = true

lemma validateRawPayload_eq_ok {payload : Option RawPayload} :
    validateRawPayload rawPayload = .ok payload ↔ Dumps rawPayload ∧ payload = rawPayload := by
  simp only [validateRawPayload, bind_eq_ok, raiseIf_eq_ok, Dumps]
  push Not
  simp only [ne_eq, Bool.not_eq_false]
  constructor
  · rintro ⟨-, hdumps, h⟩
    exact ⟨hdumps, (Except.ok.inj h).symm⟩
  · rintro ⟨hdumps, rfl⟩
    exact ⟨(), hdumps, rfl⟩

/-- A message that becomes an event has texts and a payload that fit. -/
lemma fits_of_event (h : wechatMessageToEvent encoding now message rawPayload = .ok event)
    (hnormal : Normal message) :
    NamesFit message ∧ TextsEncode encoding message ∧ Dumps rawPayload := by
  simp only [wechatMessageToEvent, MessageEvent.validate, bind_eq_ok, optionalField_eq_ok,
    validateRawPayload_eq_ok] at h
  obtain ⟨reply, hreply, _, -, _, -, _, haccount, _, -, _, hchat, _, hconversation, _, hsenderId, _,
    hsender, _, -, _, hlocal, _, hserver, _, -, payload, ⟨hdumps, -⟩, -⟩ := h
  have hname : ∀ {value result : Option String},
      Option.Rel (fun a b => boundedStr encoding 255 a = .ok b) value result →
        ∀ name ∈ value, (trim name).length ≤ 255 := by
    intro value result hrel name hmem
    cases hrel with
    | none => cases hmem
    | some hbounded =>
      cases hmem
      obtain ⟨-, hlength, rfl⟩ := boundedStr_eq_ok.mp hbounded
      exact hlength
  have hfilled : ∀ {value text}, filledStr encoding 255 value = .ok text →
      encoding.encodes value = true := fun hvalid => (filledStr_eq_ok.mp hvalid).1
  have hbounded : ∀ {value text}, boundedStr encoding 255 value = .ok text →
      encoding.encodes value = true := fun hvalid => (boundedStr_eq_ok.mp hvalid).1
  have hquoted : ∀ summary ∈ message.reply,
      ∃ context, (replyContextData summary).validate encoding = .ok context := by
    intro summary hsummary
    rw [show message.reply = some summary from hsummary, Option.map_some] at hreply
    cases hreply with
    | some hvalid => exact ⟨_, hvalid⟩
  simp only [ReplyContext.validate, bind_eq_ok, optionalField_eq_ok] at hquoted
  refine ⟨⟨hname hconversation, hname hsender, fun summary hsummary name hmem => ?_⟩,
    ⟨hfilled haccount, hfilled hchat, encodes_of_optionalField hbounded hconversation,
      encodes_of_optionalField hfilled hsenderId, encodes_of_optionalField hbounded hsender,
      encodes_of_optionalField hfilled hlocal, encodes_of_optionalField hfilled hserver,
      fun summary hsummary => ?_⟩, hdumps⟩
  · obtain ⟨_, _, -, _, -, _, -, quoted, hquoted, -⟩ := hquoted summary hsummary
    have hidentifier := (hnormal.reply summary hsummary).2.2.2 name hmem
    rw [show (replyContextData summary).senderName = some name from hmem] at hquoted
    cases hquoted with
    | some hconstr =>
      obtain ⟨-, -, hlength, rfl⟩ := filledStr_eq_ok.mp hconstr
      rwa [trim_eq_self hidentifier.stripped] at hlength
  · obtain ⟨_, _, hid, _, hid', _, hid'', _, hname, -⟩ := hquoted summary hsummary
    exact ⟨encodes_of_optionalField hfilled hid, encodes_of_optionalField hfilled hid',
      encodes_of_optionalField hfilled hid'', encodes_of_optionalField hfilled hname⟩

/-- A message that becomes an event keeps its identity. -/
lemma identity_of_event {codecs : Codecs} {raw : WechatMessage} {account : String}
    {name : Option String} {generation : Int} (hhex : codecs.Hexadecimal)
    (hnormalize : normalizeWechatMessage codecs raw account name generation = .ok message)
    (h : wechatMessageToEvent encoding now message rawPayload = .ok event) :
    event.eventId = message.eventId ∧ event.sourceAccountId = message.sourceAccountId ∧
      event.conversationId = message.conversationId ∧
      event.sourceMessageId = message.sourceMessageId := by
  have hnormal := normal_of_normalize hnormalize
  obtain ⟨_, -, hidentified⟩ := normalizeWechatMessage_eq_ok hnormalize
  obtain ⟨_, hid⟩ := hidentified.source
  have heventId : Identifier message.eventId := by
    rw [hidentified.event]
    exact identifier_tagged hhex _ (by decide +kernel) (by decide)
  simp only [wechatMessageToEvent, MessageEvent.validate, bind_eq_ok, filledStr_eq_ok] at h
  obtain ⟨_, -, eventId, ⟨-, -, -, rfl⟩, _, -, accountId, ⟨-, -, -, rfl⟩, sourceId, ⟨-, -, -, rfl⟩,
    chatId, ⟨-, -, -, rfl⟩, _, -, _, -, _, -, _, -, _, -, _, -, _, -, _, -, _, -, _, -, _, -, h⟩ := h
  cases h
  exact ⟨trim_eq_self heventId.stripped, trim_eq_self hnormal.account.stripped,
    trim_eq_self hnormal.conversation.stripped, trim_eq_self (strip_sourceMessageId hhex hid)⟩

/-- The reply of a message is kept as it is. -/
lemma replyContext_kept (hnormal : Normal message) (hfit : IdentifiersFit message)
    (hnames : NamesFit message) (hencodes : TextsEncode encoding message) :
    optionalField (ReplyContext.validate encoding) (message.reply.map replyContextData) =
      .ok (message.reply.map replyContextData) := by
  refine optionalField_eq_ok.mpr ?_
  cases hreply : message.reply with
  | none => exact Option.Rel.none
  | some summary =>
    obtain ⟨hlocal, hserver, hsender, hname⟩ := hnormal.reply summary hreply
    obtain ⟨hlocalFit, hserverFit, hsenderFit⟩ := hfit.reply summary hreply
    have hnameFit := hnames.reply summary hreply
    obtain ⟨hlocalUtf, hserverUtf, hsenderUtf, hnameUtf⟩ := hencodes.reply summary hreply
    refine Option.Rel.some ?_
    simp only [ReplyContext.validate, replyContextData]
    rw [optionalField_filledStr (fun id hid => ⟨hlocal id hid, hlocalFit id hid⟩) hlocalUtf,
      optionalField_filledStr (fun id hid => ⟨hserver id hid, hserverFit id hid⟩) hserverUtf,
      optionalField_filledStr (fun id hid => ⟨hsender id hid, hsenderFit id hid⟩) hsenderUtf,
      optionalField_filledStr (fun name hmem => ⟨hname name hmem, hnameFit name hmem⟩) hnameUtf]
    rfl

lemma boundedStr_fits (h : ∀ name ∈ value, (trim name).length ≤ 255)
    (hencodes : ∀ name ∈ value, encoding.encodes name = true) :
    optionalField (boundedStr encoding 255) value = .ok (value.map trim) := by
  refine optionalField_eq_ok.mpr ?_
  cases value with
  | none => exact Option.Rel.none
  | some name => exact Option.Rel.some (boundedStr_eq_ok.mpr ⟨hencodes name rfl, h name rfl, rfl⟩)

/-- The mention of a normalized message passes unchanged. -/
lemma validateMention_kept (hnormal : Normal message) :
    ∃ flag, validateMention (conversationTypeValue message.conversationType)
      message.isMentioned = .ok flag ∧ flag.1 = message.isMentioned := by
  have hmention := hnormal.mention_iff
  cases htype : message.conversationType with
  | private_ =>
    rw [hmention.mpr htype]
    exact ⟨_, rfl, rfl⟩
  | group =>
    cases hflag : message.isMentioned with
    | none =>
      rw [hmention.mp hflag] at htype
      cases htype
    | some flag => exact ⟨_, rfl, rfl⟩

lemma validateSender_ok (hnormal : Normal message) :
    ∃ proof, validateSender (senderTypeValue message.senderType) message.senderId = .ok proof := by
  have hhuman : senderTypeValue message.senderType = .human → message.senderId ≠ none := by
    intro htype
    refine hnormal.human_sender ?_
    cases hsender : message.senderType with
    | human => rfl
    | system =>
      rw [hsender] at htype
      cases htype
  exact ⟨⟨hhuman⟩, dif_pos hhuman⟩

lemma filledStr_const (h : constrStr 64 text = .ok text) (hascii : ∀ c ∈ text.toList, c.toNat < 128) :
    filledStr encoding 64 text = .ok text :=
  filledStr_eq_ok.mpr ⟨encoding.ascii text hascii, constrStr_eq_ok.mp h⟩

lemma messageTypeValue_kept (kind : WechatMessageType) :
    filledStr encoding 64 (messageTypeValue kind) = .ok (messageTypeValue kind) := by
  cases kind <;> exact filledStr_const (by decide +kernel) (by decide +kernel)

/-- Texts and payload that fit are all it takes. -/
lemma event_of_fits (hnormal : Normal message) (hfit : IdentifiersFit message)
    (hevent : filledStr encoding 255 message.eventId = .ok message.eventId)
    (hsource : filledStr encoding 255 message.sourceMessageId = .ok message.sourceMessageId)
    (hnames : NamesFit message) (hencodes : TextsEncode encoding message)
    (hdumps : Dumps rawPayload) :
    ∃ event, wechatMessageToEvent encoding now message rawPayload = .ok event ∧ Keeps message event := by
  obtain ⟨proof, hproof⟩ := validateSender_ok hnormal
  obtain ⟨flag, hflag, hsame⟩ := validateMention_kept hnormal
  have hwechat : filledStr encoding 64 "wechat" = .ok "wechat" :=
    filledStr_const (by decide +kernel) (by decide +kernel)
  simp only [wechatMessageToEvent, MessageEvent.validate, bind_eq_ok]
  refine ⟨_, ⟨_, replyContext_kept hnormal hfit hnames hencodes, _, hevent, _, hwechat,
    _, hnormal.account.filledStr hencodes.account hfit.account, _, hsource,
    _, hnormal.conversation.filledStr hencodes.conversation hfit.conversation,
    _, boundedStr_fits hnames.conversation hencodes.conversationName,
    _, optionalField_filledStr (fun id hid => ⟨hnormal.sender id hid, hfit.sender id hid⟩)
      hencodes.sender,
    _, boundedStr_fits hnames.sender hencodes.senderName, _, messageTypeValue_kept _,
    _, optionalField_filledStr (fun id hid => ⟨hnormal.localId id hid, hfit.localId id hid⟩)
      hencodes.localId,
    _, optionalField_filledStr (fun id hid => ⟨hnormal.serverId id hid, hfit.serverId id hid⟩)
      hencodes.serverId,
    _, rfl, _, validateRawPayload_eq_ok.mpr ⟨hdumps, rfl⟩, proof, hproof, flag, hflag, _, rfl,
    rfl⟩, ?_⟩
  exact ⟨rfl, rfl, rfl, rfl, rfl, rfl, rfl, rfl, rfl, hsame⟩

end Event

/-- A message that is normalized, with identifiers that fit, becomes an event exactly if its names
fit as well, none of the texts that the schema constrains holds a lone surrogate, and its payload can
be written as JSON; and then the event keeps what the message says. -/
theorem normalized_message_accepted_iff (codecs : Codecs) (hsha : codecs.Sha256)
    (encoding : TextEncoding) (raw : WechatMessage) (sourceAccountId : String) (conversationName : Option String)
    (regressionGeneration : Int) (normalized : NormalizedWechatMessage)
    (rawPayload : Option RawPayload) (now : PyDatetime)
    (hnormalize : normalizeWechatMessage codecs raw sourceAccountId conversationName
      regressionGeneration = .ok normalized)
    (hfit : IdentifiersFit normalized) :
    (∃ event, wechatMessageToEvent encoding now normalized rawPayload = .ok event ∧
      Keeps normalized event) ↔
      NamesFit normalized ∧ TextsEncode encoding normalized ∧ Dumps rawPayload := by
  have hnormal := normal_of_normalize hnormalize
  constructor
  · rintro ⟨event, hevent, -⟩
    exact fits_of_event hevent hnormal
  · rintro ⟨hnames, hencodes, hdumps⟩
    exact event_of_fits hnormal hfit (eventId_fits hsha hnormalize)
      (sourceMessageId_fits hsha hnormalize hfit hencodes.serverId) hnames hencodes hdumps

/-- The name the sender shows is handed through. -/
lemma normalize_senderName (codecs : Codecs) (message : RawWechatMessage) (senderName : Option String)
    (account : String) (name : Option String) (generation : Int) :
    normalizeWechatMessage codecs (.raw { message with senderName := senderName }) account name
        generation =
      (fun normalized => { normalized with senderName := senderName }) <$>
        normalizeWechatMessage codecs (.raw message) account name generation := by
  simp only [normalizeWechatMessage, map_bind]
  rfl

section Concrete

/-- A digest of zeros. -/
def zeroDigest : String := String.ofList (List.replicate 64 '0')

def zeroCodecs : Codecs := ⟨fun _ => zeroDigest, fun _ => .ok none⟩

lemma zeroCodecs_sha256 : zeroCodecs.Sha256 := by
  have hlength : zeroDigest.length = checkpointFingerprintLength := by decide +kernel
  refine ⟨fun _ c hc => ?_, fun _ => hlength⟩
  rw [show (zeroCodecs.digest _).toList = List.replicate 64 '0' from String.toList_ofList] at hc
  rw [List.eq_of_mem_replicate hc]
  decide +kernel

/-- A message of a friend who shows this name. -/
def namedMessage (senderName : String) : RawWechatMessage :=
  { friendMessage 1 (.int 7) with senderName := some senderName }

/-- The same, normalized. -/
def namedNormalized (senderName : String) : NormalizedWechatMessage where
  sourceAccountId := "me"
  sourceMessageId := "7"
  sourceLocalId := some "1"
  sourceServerId := some "7"
  sourceMessageIdIsFallback := false
  eventId := "v1:wechat:" ++ zeroDigest
  conversationId := "friend"
  conversationType := .private_
  conversationName := some "Friend"
  senderType := .human
  senderId := some "friend"
  senderName := some senderName
  messageType := .text
  rawType := 1
  content := "hello"
  timestamp := ⟨0, some 0⟩
  isMentioned := none
  isSelf := false
  reply := none

/-- A display name of so many characters. -/
def nameOfLength (n : ℕ) : String := String.ofList (List.replicate n 'x')

lemma length_nameOfLength (n : ℕ) : (nameOfLength n).length = n := by
  rw [nameOfLength, String.length_ofList, List.length_replicate]

lemma trim_nameOfLength (n : ℕ) : trim (nameOfLength n) = nameOfLength n := by
  refine trim_eq_self (strip_eq_self fun c hc => ?_)
  rw [nameOfLength, String.toList_ofList] at hc
  rw [List.eq_of_mem_replicate hc]
  decide +kernel

lemma namedMessage_normalize (senderName : String) :
    normalizeWechatMessage zeroCodecs (.raw (namedMessage senderName)) "me" (some "Friend") 0 =
      .ok (namedNormalized senderName) := by
  have hnone : normalizeWechatMessage zeroCodecs (.raw (friendMessage 1 (.int 7))) "me"
      (some "Friend") 0 = .ok { namedNormalized "" with senderName := none } := by
    decide +kernel
  rw [namedMessage, normalize_senderName, hnone]
  rfl

lemma namedNormalized_fits (senderName : String) : IdentifiersFit (namedNormalized senderName) := by
  constructor
  · show "me".length ≤ 255
    decide +kernel
  · show "friend".length ≤ 255
    decide +kernel
  · rintro id ⟨⟩
    decide +kernel
  · rintro id ⟨⟩
    decide +kernel
  · rintro id ⟨⟩
    decide +kernel
  · rintro reply ⟨⟩

/-- The encoding of a Lean `String`, which holds no lone surrogates. -/
def encodesAll : TextEncoding := ⟨fun _ => true, fun _ _ => rfl⟩

lemma namedNormalized_encodes (senderName : String) :
    TextsEncode encodesAll (namedNormalized senderName) :=
  ⟨rfl, rfl, fun _ _ => rfl, fun _ _ => rfl, fun _ _ => rfl, fun _ _ => rfl, fun _ _ => rfl,
    fun _ _ => ⟨fun _ _ => rfl, fun _ _ => rfl, fun _ _ => rfl, fun _ _ => rfl⟩⟩

theorem short_name_accepted :
    ∃ event, wechatMessageToEvent encodesAll ⟨0, some 0⟩ (namedNormalized "Friend") none = .ok event ∧
      Keeps (namedNormalized "Friend") event := by
  refine (normalized_message_accepted_iff zeroCodecs zeroCodecs_sha256 encodesAll _ _ _ _ _ none _
    (namedMessage_normalize "Friend") (namedNormalized_fits _)).mpr
      ⟨?_, namedNormalized_encodes _, nofun⟩
  have hname : (trim "Friend").length ≤ 255 := by decide +kernel
  constructor
  · rintro name ⟨⟩
    exact hname
  · rintro name ⟨⟩
    exact hname
  · rintro reply ⟨⟩

/-- The normalizer lets the name a sender shows through whatever its length; the event schema does
not, in this poll or a later one. -/
theorem long_name_rejected :
    normalizeWechatMessage zeroCodecs (.raw (namedMessage (nameOfLength 256))) "me" (some "Friend") 0 =
        .ok (namedNormalized (nameOfLength 256)) ∧
      IdentifiersFit (namedNormalized (nameOfLength 256)) ∧
      ∀ encoding now event, wechatMessageToEvent encoding now (namedNormalized (nameOfLength 256)) none ≠ .ok event := by
  have hnormalize := namedMessage_normalize (nameOfLength 256)
  refine ⟨hnormalize, namedNormalized_fits _, fun encoding now event hevent => ?_⟩
  have hlength := (fits_of_event hevent (normal_of_normalize hnormalize)).1.sender _ rfl
  rw [trim_nameOfLength, length_nameOfLength] at hlength
  omega

end Concrete

end AgentGateway.Messages
