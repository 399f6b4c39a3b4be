import AgentGateway.Polling.Normalizer

/-!
# Message identity

Which messages share an `event_id`. The identity is a digest over a digest, so the two facts behind
it are that a digest determines what was digested, and that nothing is lost on the way to it: the
text that goes into the outer digest is stripped once more, which changes neither a server id nor a
hexadecimal digest.
-/

namespace AgentGateway.Polling

open Lib Polling.Checkpoint

/-- A digest is written in lowercase hexadecimal. -/
def Codecs.Hexadecimal (codecs : Codecs) : Prop :=
  ∀ fields, ∀ c ∈ (codecs.digest fields).toList, c ∈ hexDigits

/-- Digests look like those of SHA-256. -/
structure Codecs.Sha256 (codecs : Codecs) : Prop where
  hexadecimal : codecs.Hexadecimal
  length : ∀ fields, (codecs.digest fields).length = checkpointFingerprintLength

section Text

lemma required_eq_ok {value result : String} (h : required (some value) = .ok result) :
    result = strip value := by
  simp only [required, optionalString, Option.bind_some, nonemptyString] at h
  split_ifs at h
  all_goals cases h
  rfl

lemma toList_toString_int (n : ℕ) : (toString (n : Int)).toList = Nat.toDigits 10 n := by
  rw [show toString (n : Int) = n.repr from rfl, Nat.repr_eq_ofList_toDigits]
  exact String.toList_ofList

/-- The decimal digits of a number are no white space. -/
lemma strip_toString_int {value : Int} (h : 0 < value) :
    strip (toString value) = toString value := by
  obtain ⟨n, rfl⟩ := Int.eq_ofNat_of_zero_le h.le
  refine strip_eq_self fun c hc => ?_
  rw [toList_toString_int] at hc
  have hdigit := Nat.isDigit_of_mem_toDigits (by decide) (by decide) hc
  simp only [Char.isDigit, Bool.and_eq_true, decide_eq_true_eq, ge_iff_le] at hdigit
  have hlow : 48 ≤ c.toNat := hdigit.1
  have hhigh : c.toNat ≤ 57 := hdigit.2
  simp [isSpace]
  omega

/-- A usable id is already stripped. -/
lemma strip_usableId {value : PyValue} {id : String} (h : usableId value = some id) :
    strip id = id := by
  cases value with
  | int value =>
    simp only [usableId] at h
    split_ifs at h with hpos
    rw [← Option.some.inj h]
    exact strip_toString_int hpos
  | str value =>
    simp only [usableId] at h
    split_ifs at h
    rw [← Option.some.inj h]
    exact strip_strip value
  | none => cases h
  | bool value => cases h
  | object => cases h

/-- Digits are read as they are written. -/
lemma digitsValue_toDigits (n : ℕ) : digitsValue (Nat.toDigits 10 n) = n := by
  have hfold : ∀ (digits : List Char) (m : ℕ),
      digits.foldl (fun (value : Int) c => value * 10 + (c.toNat - 48 : ℕ)) m =
        (Nat.ofDigitChars 10 digits m : ℕ) := by
    intro digits
    induction digits with
    | nil => exact fun m => rfl
    | cons c digits ih =>
      intro m
      rw [List.foldl_cons, Nat.ofDigitChars, List.foldl_cons, ← Nat.ofDigitChars, ← ih]
      congr 1
      push_cast
      ring
  rw [digitsValue]
  exact (hfold _ 0).trans (congrArg _ (Nat.ofDigitChars_toDigits (by decide) (by decide)))

/-- The usable form of a numeric local id determines the number. -/
lemma usableId_of_numericLocalId {message : WechatMessage} {localId : Int}
    (h : numericLocalId message = .ok localId) :
    ∃ text, usableId message.localId = some text ∧ digitsValue text.toList = localId := by
  have hpos := (numericLocalId_eq_ok h).1
  simp only [numericLocalId, bind_eq_ok, raiseIf_eq_ok] at h
  obtain ⟨value, hvalue, -, -, h⟩ := h
  cases h
  cases hentry : message.localId with
  | int n =>
    rw [hentry] at hvalue
    cases hvalue
    obtain ⟨m, rfl⟩ := Int.eq_ofNat_of_zero_le hpos.le
    refine ⟨_, if_pos hpos, ?_⟩
    rw [toList_toString_int, digitsValue_toDigits]
  | str text =>
    rw [hentry] at hvalue
    simp only [asLocalId, parseDigits] at hvalue
    split_ifs at hvalue with hbad hlong
    cases hvalue
    -- a text without a value, or with the value 0, is no local id
    have hempty : strip text ≠ "" := fun hempty => hbad (Or.inl (congrArg String.toList hempty))
    have hzero : strip text ≠ "0" := by
      intro hzero
      rw [hzero] at hpos
      exact absurd hpos (by decide +kernel)
    exact ⟨_, if_neg (not_or.mpr ⟨hempty, hzero⟩), rfl⟩
  | none | bool | object =>
    rw [hentry] at hvalue
    cases hvalue

end Text

/-! ## The identity of a normalized message -/

section Identity

variable {codecs : Codecs} {raw : WechatMessage} {account id accountId : String}
  {name localId : Option String} {generation g g' : Int} {normalized : NormalizedWechatMessage}
  {message : RawWechatMessage} {chatId : String} {c : Char} {fallback : Bool}

lemma rawMessage_eq_ok (h : rawMessage raw = .ok message) :
    raw.validated = some message := by
  unfold rawMessage at h
  split at h
  · cases h
    assumption
  · cases h

/-- What a normalized message says about where it comes from. -/
structure Identified (codecs : Codecs) (account : String) (generation : Int)
    (message : RawWechatMessage) (normalized : NormalizedWechatMessage) : Prop where
  sourceAccount : normalized.sourceAccountId = strip account
  chat : normalized.conversationId = strip message.chatId
  nonneg : 0 ≤ generation
  source : ∃ fallback, sourceMessageId codecs (usableId message.serverId) (usableId message.localId)
    (strip account) (strip message.chatId) generation = .ok (normalized.sourceMessageId, fallback)
  event : normalized.eventId = "v1:wechat:" ++ codecs.digest (.event (strip account)
    (strip message.chatId) (strip normalized.sourceMessageId))

lemma normalizeWechatMessage_eq_ok
    (h : normalizeWechatMessage codecs raw account name generation = .ok normalized) :
    ∃ message, raw.validated = some message ∧
      Identified codecs account generation message normalized := by
  simp only [normalizeWechatMessage, bind_eq_ok] at h
  obtain ⟨message, hraw, accountId, haccount, chatId, hchat, sender, -, gen, hgen, identity,
    hidentity, eventId, hevent, kind, -, h⟩ := h
  simp only [validatedGeneration, bind_eq_ok, raiseIf_eq_ok, not_not] at hgen
  obtain ⟨-, hrange, hgen⟩ := hgen
  obtain rfl := Except.ok.inj hgen
  obtain rfl := required_eq_ok haccount
  obtain rfl := required_eq_ok hchat
  simp only [buildWechatEventId, bind_eq_ok] at hevent
  obtain ⟨account', haccount', chat', hchat', message', hmessage', hevent⟩ := hevent
  obtain rfl := required_eq_ok haccount'
  obtain rfl := required_eq_ok hchat'
  obtain rfl := required_eq_ok hmessage'
  rw [strip_strip, strip_strip] at hevent
  cases h
  exact ⟨message, rawMessage_eq_ok hraw, rfl, rfl, hrange.1, ⟨identity.2, hidentity⟩,
    (Except.ok.inj hevent).symm⟩

lemma Identified.of_normalize (hmessage : raw.validated = some message)
    (h : normalizeWechatMessage codecs raw account name generation = .ok normalized) :
    Identified codecs account generation message normalized := by
  obtain ⟨_, hmessage', hidentified⟩ := normalizeWechatMessage_eq_ok h
  cases hmessage.symm.trans hmessage'
  exact hidentified

/-- Validation keeps a usable local id. -/
lemma usableId_of_validated {text : String} (h : raw.validated = some message)
    (htext : usableId raw.localId = some text) :
    usableId message.localId = some text := by
  have hentry : raw.localId ≠ .none := by
    intro hnone
    rw [hnone] at htext
    cases htext
  have hsame : message.localId = raw.localId := by
    cases raw with
    | raw message' =>
      cases h
      rfl
    | mapping entries => exact entries.localId_kept message h hentry
    | other => exact absurd rfl hentry
  exact (congrArg usableId hsame).trans htext

/-- A normalized message has the local id that the window was ordered by. -/
lemma sourceLocalId_of_normalize {localId : Int}
    (h : normalizeWechatMessage codecs raw account name generation = .ok normalized)
    (hid : numericLocalId raw = .ok localId) :
    ∃ text, normalized.sourceLocalId = some text ∧ digitsValue text.toList = localId := by
  obtain ⟨text, htext, hvalue⟩ := usableId_of_numericLocalId hid
  refine ⟨text, ?_, hvalue⟩
  simp only [normalizeWechatMessage, bind_eq_ok] at h
  obtain ⟨message, hraw, _, -, _, -, _, -, _, -, _, -, _, -, _, -, h⟩ := h
  cases h
  exact usableId_of_validated (rawMessage_eq_ok hraw) htext

/-- A server id is the identity. -/
lemma sourceMessageId_of_server {serverId : String}
    (h : sourceMessageId codecs (some serverId) localId accountId chatId generation =
      .ok (id, fallback)) : id = serverId := by
  cases h
  rfl

/-- The fields of a fallback identity. -/
def fallbackFields (accountId chatId localId : String) (generation : Int) : DigestFields :=
  if 0 < generation then .generationMessage accountId chatId localId generation
  else .localMessage accountId chatId localId

/-- The version in front of a fallback identity. -/
def fallbackTag (generation : Int) : String := if 0 < generation then "local:v2:" else "local:v1:"

/-- Without one, it is a digest of account, chat, local id and generation. -/
lemma sourceMessageId_of_fallback
    (h : sourceMessageId codecs none localId accountId chatId generation = .ok (id, fallback)) :
    ∃ usable, localId = some usable ∧
      id = fallbackTag generation ++
        codecs.digest (fallbackFields accountId chatId usable generation) := by
  cases localId with
  | none => cases h
  | some usable =>
    refine ⟨usable, rfl, ?_⟩
    simp only [sourceMessageId] at h
    unfold fallbackTag fallbackFields
    split_ifs at h ⊢
    all_goals
      cases h
      rfl

lemma fallbackFields_inj {a a' c c' l l' : String} (hg : 0 ≤ g) (hg' : 0 ≤ g')
    (h : fallbackFields a c l g = fallbackFields a' c' l' g') :
    a = a' ∧ c = c' ∧ l = l' ∧ g = g' := by
  unfold fallbackFields at h
  split_ifs at h with hpos hpos' hpos'
  · obtain ⟨rfl, rfl, rfl, rfl⟩ := DigestFields.generationMessage.inj h
    exact ⟨rfl, rfl, rfl, rfl⟩
  · obtain ⟨rfl, rfl, rfl⟩ := DigestFields.localMessage.inj h
    refine ⟨rfl, rfl, rfl, ?_⟩
    omega

lemma toList_fallbackTag (generation : Int) :
    "local:v".toList <+: (fallbackTag generation).toList := by
  unfold fallbackTag
  split_ifs
  all_goals decide +kernel

/-- The version separates the two kinds of fallback digests. -/
lemma append_fallbackTag_inj {d d' : String} (h : fallbackTag g ++ d = fallbackTag g' ++ d') :
    fallbackTag g = fallbackTag g' ∧ d = d' := by
  have hlists := congrArg String.toList h
  rw [String.toList_append, String.toList_append] at hlists
  have hlength : (fallbackTag g).toList.length = (fallbackTag g').toList.length := by
    unfold fallbackTag
    split_ifs <;> decide +kernel
  obtain ⟨htag, hdigest⟩ := List.append_inj hlists hlength
  exact ⟨String.toList_injective htag, String.toList_injective hdigest⟩

lemma hexDigit_not_space (h : c ∈ hexDigits) : isSpace c = false := by
  have hall : hexDigits.all (fun c => !isSpace c) = true := by decide +kernel
  simpa using List.all_eq_true.mp hall c h

lemma tag_not_space (h : c ∈ (fallbackTag generation).toList) : isSpace c = false := by
  have hall : (fallbackTag generation).toList.all (fun c => !isSpace c) = true := by
    unfold fallbackTag
    split_ifs <;> decide +kernel
  simpa using List.all_eq_true.mp hall c h

/-- The outer digest strips the identity once more, which does nothing to it. -/
lemma strip_sourceMessageId (hhex : codecs.Hexadecimal) {serverId localId : PyValue}
    (h : sourceMessageId codecs (usableId serverId) (usableId localId) accountId chatId generation =
      .ok (id, fallback)) : strip id = id := by
  cases hserver : usableId serverId with
  | some stable =>
    rw [hserver] at h
    rw [sourceMessageId_of_server h]
    exact strip_usableId hserver
  | none =>
    rw [hserver] at h
    obtain ⟨usable, -, rfl⟩ := sourceMessageId_of_fallback h
    refine strip_eq_self fun c hc => ?_
    rw [String.toList_append, List.mem_append] at hc
    rcases hc with htag | hdigest
    · exact tag_not_space htag
    · exact hexDigit_not_space (hhex _ c hdigest)

end Identity

/-! ## Identity is injective and stable -/

section Injective

variable {codecs : Codecs} {account₁ account₂ : String} {generation₁ generation₂ : Int}
  {normalized₁ normalized₂ : NormalizedWechatMessage} {message₁ message₂ : RawWechatMessage}
  (h₁ : Identified codecs account₁ generation₁ message₁ normalized₁)

include h₁

/-- An event id stands for account, chat and source message id. -/
lemma eventId_eq_iff (hinj : Function.Injective codecs.digest) (hhex : codecs.Hexadecimal)
    (h₂ : Identified codecs account₂ generation₂ message₂ normalized₂) :
    normalized₁.eventId = normalized₂.eventId ↔
      strip account₁ = strip account₂ ∧ strip message₁.chatId = strip message₂.chatId ∧
        normalized₁.sourceMessageId = normalized₂.sourceMessageId := by
  obtain ⟨_, hid₁⟩ := h₁.source
  obtain ⟨_, hid₂⟩ := h₂.source
  rw [h₁.event, h₂.event, strip_sourceMessageId hhex hid₁, strip_sourceMessageId hhex hid₂]
  constructor
  · intro heq
    have hdigest := String.append_right_inj _ |>.mp heq
    obtain ⟨haccount, hchat, hid⟩ := DigestFields.event.inj (hinj hdigest)
    exact ⟨haccount, hchat, hid⟩
  · rintro ⟨haccount, hchat, hid⟩
    rw [haccount, hchat, hid]

/-- A fallback identity is a digest behind its version. -/
lemma fallbackId_eq (hnone : usableId message₁.serverId = none) :
    ∃ usable, usableId message₁.localId = some usable ∧
      normalized₁.sourceMessageId = fallbackTag generation₁ ++ codecs.digest
        (fallbackFields (strip account₁) (strip message₁.chatId) usable generation₁) := by
  obtain ⟨_, hid⟩ := h₁.source
  rw [hnone] at hid
  exact sourceMessageId_of_fallback hid

/-- It stands for account, chat, local id and generation. -/
lemma fallbackId_eq_iff (hinj : Function.Injective codecs.digest)
    (h₂ : Identified codecs account₂ generation₂ message₂ normalized₂)
    (hnone₁ : usableId message₁.serverId = none) (hnone₂ : usableId message₂.serverId = none) :
    normalized₁.sourceMessageId = normalized₂.sourceMessageId ↔
      strip account₁ = strip account₂ ∧ strip message₁.chatId = strip message₂.chatId ∧
        usableId message₁.localId = usableId message₂.localId ∧ generation₁ = generation₂ := by
  obtain ⟨local₁, hlocal₁, hid₁⟩ := fallbackId_eq h₁ hnone₁
  obtain ⟨local₂, hlocal₂, hid₂⟩ := fallbackId_eq h₂ hnone₂
  rw [hid₁, hid₂, hlocal₁, hlocal₂, Option.some.injEq]
  constructor
  · intro heq
    exact fallbackFields_inj h₁.nonneg h₂.nonneg (hinj (append_fallbackTag_inj heq).2)
  · rintro ⟨haccount, hchat, hlocal, hgeneration⟩
    rw [haccount, hchat, hlocal, hgeneration]

/-- The identity of a message with a server id is that id. -/
lemma serverId_eq {serverId : String} (hserver : usableId message₁.serverId = some serverId) :
    normalized₁.sourceMessageId = serverId := by
  obtain ⟨_, hid⟩ := h₁.source
  rw [hserver] at hid
  exact sourceMessageId_of_server hid

/-- A fallback identity is never the server id of another message. -/
lemma fallbackId_ne_serverId
    (h₂ : Identified codecs account₂ generation₂ message₂ normalized₂)
    (hserver₂ : ∀ id, usableId message₂.serverId = some id → ¬ "local:v".toList <+: id.toList)
    (hnone : usableId message₁.serverId = none) (hsome : usableId message₂.serverId ≠ none) :
    normalized₁.sourceMessageId ≠ normalized₂.sourceMessageId := by
  intro heq
  obtain ⟨id, hid⟩ := Option.ne_none_iff_exists'.mp hsome
  obtain ⟨usable, -, hfallback⟩ := fallbackId_eq h₁ hnone
  refine hserver₂ id hid ?_
  rw [← serverId_eq h₂ hid, ← heq, hfallback, String.toList_append]
  exact (toList_fallbackTag generation₁).trans (List.prefix_append _ _)

/-- The same message read again in the same generation has the same identity. -/
lemma sourceMessageId_stable (hinj : Function.Injective codecs.digest)
    (h₂ : Identified codecs account₂ generation₁ message₁ normalized₂)
    (haccount : strip account₁ = strip account₂) :
    normalized₁.sourceMessageId = normalized₂.sourceMessageId := by
  cases hserver : usableId message₁.serverId with
  | some id => rw [serverId_eq h₁ hserver, serverId_eq h₂ hserver]
  | none =>
    apply (fallbackId_eq_iff h₁ hinj h₂ hserver hserver).mpr
    exact ⟨haccount, rfl, rfl, rfl⟩

end Injective

/-- **Message identity is injective and stable**, when digests do not collide and no server id
looks like a fallback identity once it is stripped. Two messages share an event id exactly when
they agree on account, chat and source message id; without server ids, that id stands for account,
chat, local id and generation; with one, it is the server id, whatever the generation and the local
id; and no fallback identity is a server id. So reading a message again in the same generation
gives the same event id, and in one generation only messages with one server id, or with one local
id and no server id, share it. -/
theorem message_identity (codecs : Codecs) (hinj : Function.Injective codecs.digest)
    (hhex : codecs.Hexadecimal) (raw₁ raw₂ : WechatMessage) (account₁ account₂ : String)
    (name₁ name₂ : Option String) (generation₁ generation₂ : Int)
    (normalized₁ normalized₂ : NormalizedWechatMessage) (message₁ message₂ : RawWechatMessage)
    (h₁ : normalizeWechatMessage codecs raw₁ account₁ name₁ generation₁ = .ok normalized₁)
    (h₂ : normalizeWechatMessage codecs raw₂ account₂ name₂ generation₂ = .ok normalized₂)
    (hm₁ : raw₁.validated = some message₁) (hm₂ : raw₂.validated = some message₂)
    (hserver₁ : ∀ id, usableId message₁.serverId = some id → ¬ "local:v".toList <+: id.toList)
    (hserver₂ : ∀ id, usableId message₂.serverId = some id → ¬ "local:v".toList <+: id.toList) :
    (normalized₁.eventId = normalized₂.eventId ↔
      strip account₁ = strip account₂ ∧ strip message₁.chatId = strip message₂.chatId ∧
        normalized₁.sourceMessageId = normalized₂.sourceMessageId) ∧
    (usableId message₁.serverId = none → usableId message₂.serverId = none →
      (normalized₁.sourceMessageId = normalized₂.sourceMessageId ↔
        strip account₁ = strip account₂ ∧ strip message₁.chatId = strip message₂.chatId ∧
          usableId message₁.localId = usableId message₂.localId ∧ generation₁ = generation₂)) ∧
    (∀ id, usableId message₁.serverId = some id → normalized₁.sourceMessageId = id) ∧
    (usableId message₁.serverId = none → usableId message₂.serverId ≠ none →
      normalized₁.sourceMessageId ≠ normalized₂.sourceMessageId) ∧
    (raw₁ = raw₂ → strip account₁ = strip account₂ → generation₁ = generation₂ →
      normalized₁.eventId = normalized₂.eventId) ∧
    (generation₁ = generation₂ → normalized₁.eventId = normalized₂.eventId →
      strip account₁ = strip account₂ ∧ strip message₁.chatId = strip message₂.chatId ∧
        usableId message₁.serverId = usableId message₂.serverId ∧
        (usableId message₁.serverId = none →
          usableId message₁.localId = usableId message₂.localId)) := by
  have hid₁ := Identified.of_normalize hm₁ h₁
  have hid₂ := Identified.of_normalize hm₂ h₂
  have hevent := eventId_eq_iff hid₁ hinj hhex hid₂
  refine ⟨hevent, fallbackId_eq_iff hid₁ hinj hid₂, fun id hid => serverId_eq hid₁ hid,
    fallbackId_ne_serverId hid₁ hid₂ hserver₂, ?_, ?_⟩
  · rintro rfl haccount rfl
    obtain rfl := Option.some.inj (hm₁.symm.trans hm₂)
    exact hevent.mpr ⟨haccount, rfl, sourceMessageId_stable hid₁ hinj hid₂ haccount⟩
  · intro hgeneration heq
    obtain ⟨haccount, hchat, hid⟩ := hevent.mp heq
    refine ⟨haccount, hchat, ?_⟩
    cases hs₁ : usableId message₁.serverId with
    | some id₁ =>
      cases hs₂ : usableId message₂.serverId with
      | some id₂ =>
        rw [serverId_eq hid₁ hs₁, serverId_eq hid₂ hs₂] at hid
        exact ⟨congrArg some hid, fun hnone => by cases hnone⟩
      | none =>
        have hsome : usableId message₁.serverId ≠ none := by
          rw [hs₁]
          exact Option.some_ne_none id₁
        exact absurd hid.symm (fallbackId_ne_serverId hid₂ hid₁ hserver₁ hs₂ hsome)
    | none =>
      cases hs₂ : usableId message₂.serverId with
      | some id₂ =>
        have hsome : usableId message₂.serverId ≠ none := by
          rw [hs₂]
          exact Option.some_ne_none id₂
        exact absurd hid (fallbackId_ne_serverId hid₁ hid₂ hserver₂ hs₁ hsome)
      | none =>
        exact ⟨rfl, fun _ => ((fallbackId_eq_iff hid₁ hinj hid₂ hs₁ hs₂).mp hid).2.2.1⟩

/-! A digest without collisions, to run the normalizer with: unary numbers, with one short one. -/

/-- The code points of a text. -/
def codePoints (text : String) : List ℕ := text.toList.map Char.toNat

lemma codePoints_injective : Function.Injective codePoints := fun _ _ h =>
  String.toList_injective (List.map_injective_iff.mpr (fun _ _ => Char.toNat_inj.mp) h)

/-- The digested object as a tuple. -/
def DigestFields.tuple : DigestFields →
    ℕ × List ℕ × List ℕ × Option (List ℕ) × ℤ × ℤ × Bool
  | .serverAnchor serverId => (0, codePoints serverId, [], none, 0, 0, false)
  | .fallbackAnchor chatId isSelf localId messageType senderId timestamp =>
    (1, codePoints chatId, codePoints localId, senderId.map codePoints, messageType, timestamp,
      isSelf)
  | .event accountId chatId messageId =>
    (2, codePoints accountId, codePoints chatId, some (codePoints messageId), 0, 0, false)
  | .localMessage accountId chatId localId =>
    (3, codePoints accountId, codePoints chatId, some (codePoints localId), 0, 0, false)
  | .generationMessage accountId chatId localId generation =>
    (4, codePoints accountId, codePoints chatId, some (codePoints localId), generation, 0, false)

lemma DigestFields.tuple_injective : Function.Injective DigestFields.tuple := by
  intro a b h
  cases a <;> cases b <;> simp only [DigestFields.tuple, Prod.mk.injEq, Option.some.injEq] at h <;>
    simp_all [codePoints_injective.eq_iff, (Option.map_injective codePoints_injective).eq_iff]

/-- Number the objects and write the number in unary; one object gets the digest `0`. -/
def plainCodecs (short : DigestFields) : Codecs where
  digest := fun fields => if fields = short then "0"
    else String.ofList (List.replicate (Encodable.encode fields.tuple) 'a')
  appMessageSubtype := fun _ => .ok none

lemma plainCodecs_injective (short : DigestFields) :
    Function.Injective (plainCodecs short).digest := by
  have hzero : ∀ n, "0" ≠ String.ofList (List.replicate n 'a') := by
    intro n h
    have hmem : '0' ∈ List.replicate n 'a' := by
      rw [← String.toList_ofList (l := List.replicate n 'a'), ← h]
      decide +kernel
    exact absurd (List.eq_of_mem_replicate hmem) (by decide)
  intro a b h
  simp only [plainCodecs] at h
  split_ifs at h with ha hb hb
  · rw [ha, hb]
  · exact absurd h (hzero _)
  · exact absurd h.symm (hzero _)
  · have hlists := String.ofList_injective h
    have hlength := congrArg List.length hlists
    rw [List.length_replicate, List.length_replicate] at hlength
    exact DigestFields.tuple_injective (Encodable.encode_injective hlength)

lemma plainCodecs_hexadecimal (short : DigestFields) : (plainCodecs short).Hexadecimal := by
  intro fields c hc
  simp only [plainCodecs] at hc
  split_ifs at hc
  · have hzero : "0".toList.all (fun c => hexDigits.contains c) = true := by decide +kernel
    simpa using List.all_eq_true.mp hzero c hc
  · rw [String.toList_ofList] at hc
    rw [List.eq_of_mem_replicate hc]
    have ha : hexDigits.contains 'a' = true := by decide +kernel
    simpa using ha

/-- A text message of a friend. -/
def friendMessage (localId : Int) (serverId : PyValue) : RawWechatMessage where
  localId := .int localId
  serverId := serverId
  chatId := "friend"
  sender := some "friend"
  senderName := none
  type := 1
  content := "hello"
  timestamp := ⟨0, some 0⟩
  isMentioned := .none
  isSelf := .none
  reply := .none

theorem message_identity_two_servers :
    ∃ first second,
      normalizeWechatMessage (plainCodecs (.serverAnchor "")) (.raw (friendMessage 1 (.int 7)))
        "me" none 0 = .ok first ∧
      normalizeWechatMessage (plainCodecs (.serverAnchor "")) (.raw (friendMessage 1 (.int 8)))
        "me" none 0 = .ok second ∧ first.eventId ≠ second.eventId := by
  have hrun : ∀ n ∈ [7, 8], (normalizeWechatMessage (plainCodecs (.serverAnchor ""))
      (.raw (friendMessage 1 (.int n))) "me" none 0).isOk = true := by decide +kernel
  obtain ⟨first, hfirst⟩ := exists_of_isOk (hrun 7 (by decide))
  obtain ⟨second, hsecond⟩ := exists_of_isOk (hrun 8 (by decide))
  have hserver : ∀ n ∈ [(7 : Int), 8], ∀ id,
      usableId (friendMessage 1 (.int n)).serverId = some id → ¬ "local:v".toList <+: id.toList := by
    have hall : ∀ n ∈ [(7 : Int), 8], ¬ ∃ id ∈ usableId (friendMessage 1 (.int n)).serverId,
        "local:v".toList <+: id.toList := by decide +kernel
    exact fun n hn id hid htagged => hall n hn ⟨id, hid, htagged⟩
  refine ⟨first, second, hfirst, hsecond, fun heq => ?_⟩
  have h := message_identity _ (plainCodecs_injective _) (plainCodecs_hexadecimal _) _ _ _ _ _ _ _ _
    first second _ _ hfirst hsecond rfl rfl (hserver 7 (by decide)) (hserver 8 (by decide))
  obtain ⟨-, -, hids, -⟩ := h.2.2.2.2.2 rfl heq
  revert hids
  decide +kernel

/-- The server id of the second message does not start as a fallback identity does; stripped, it is
the fallback identity of the first. -/
theorem padded_serverId_collides :
    ∃ codecs : Codecs, Function.Injective codecs.digest ∧ codecs.Hexadecimal ∧
      ∃ normalized₁ normalized₂,
        usableId (friendMessage 1 .none).serverId = none ∧
        ¬ "local:v".toList <+: " local:v1:0".toList ∧
        normalizeWechatMessage codecs (.raw (friendMessage 1 .none)) "me" none 0
          = .ok normalized₁ ∧
        normalizeWechatMessage codecs (.raw (friendMessage 2 (.str " local:v1:0"))) "me" none 0
          = .ok normalized₂ ∧
        normalized₁.sourceMessageId = normalized₂.sourceMessageId ∧
        normalized₁.eventId = normalized₂.eventId := by
  set codecs := plainCodecs (.localMessage "me" "friend" "1") with hcodecs
  have hinj : Function.Injective codecs.digest := plainCodecs_injective _
  have hhex : codecs.Hexadecimal := plainCodecs_hexadecimal _
  have hrun : ∀ message ∈ [friendMessage 1 .none, friendMessage 2 (.str " local:v1:0")],
      ∃ normalized, normalizeWechatMessage codecs (.raw message) "me" none 0 = .ok normalized ∧
        normalized.sourceMessageId = "local:v1:0" := by
    have hids : ∀ message ∈ [friendMessage 1 .none, friendMessage 2 (.str " local:v1:0")],
        NormalizedWechatMessage.sourceMessageId <$>
          (normalizeWechatMessage codecs (.raw message) "me" none 0) = .ok "local:v1:0" := by
      decide +kernel
    exact fun message hmessage => map_eq_ok.mp (hids message hmessage)
  obtain ⟨normalized₁, h₁, hid₁⟩ := hrun _ List.mem_cons_self
  obtain ⟨normalized₂, h₂, hid₂⟩ := hrun _ (List.mem_cons_of_mem _ List.mem_cons_self)
  have hsame : normalized₁.sourceMessageId = normalized₂.sourceMessageId := hid₁.trans hid₂.symm
  have hevent := eventId_eq_iff (.of_normalize rfl h₁) hinj hhex (.of_normalize rfl h₂)
  exact ⟨codecs, hinj, hhex, normalized₁, normalized₂, rfl, by decide +kernel, h₁, h₂, hsame,
    hevent.mpr ⟨rfl, rfl, hsame⟩⟩

end AgentGateway.Polling
