import AgentGateway.Dispatch.Tables
import AgentGateway.Lib.Encoding

/-!
# Thread keys

`build_thread_key` names the thread of a conversation, in a readable form if that is short enough
and by a digest otherwise; `build_v2_thread_key` always takes the digest. A key is a list of
segments joined by colons, and no segment contains one, so two keys are equal only if their segments
are.

`casefold` and the digest of the canonical JSON are parameters. No injective digest of a fixed
length exists, so that a digest tells two values apart is an assumption about those two values.
-/

namespace AgentGateway.Workspace

open AgentGateway.Lib
open AgentGateway.Dispatch (ThreadType ThreadPolicy)

/-- The `ValueError`s of this module, by what they say. -/
inductive KeyError
  | empty (fieldName : String)
  | notMember (enumName value : String)
  | wrongType (policy : ThreadPolicy)
  deriving DecidableEq, Repr

/-- A value in the JSON that is digested. -/
inductive JsonScalar
  | null
  | string (value : String)
  | number (value : Int)
  deriving DecidableEq, Repr

/-- `str.casefold`, and the SHA-256 hex digest of the canonical JSON of some fields. -/
structure KeyCodec where
  casefold : String → String
  sha256 : List (String × JsonScalar) → String
  length_sha256 : ∀ fields, (sha256 fields).length = 64
  hex_sha256 : ∀ fields, ∀ c ∈ (sha256 fields).toList, c ∈ "0123456789abcdef".toList

/-- `_required`. -/
def required (value : Option String) (fieldName : String) : Except KeyError String :=
  match value with
  | none => .error (.empty fieldName)
  | some value => do
    raiseIf (IsBlank value) (.empty fieldName)
    return strip value

/-- An argument of type `ThreadType | str`, or of another enumeration. -/
inductive EnumArgument (ε : Type)
  | member (value : ε)
  | text (value : String)
  deriving DecidableEq, Repr

/-- `_thread_type` and `_thread_policy`. -/
def KeyCodec.enumMember {ε : Type} (codec : KeyCodec) (ofValue? : String → Option ε)
    (enumName fieldName : String) : EnumArgument ε → Except KeyError ε
  | .member value => .ok value
  | .text value => do
    let normalized ← required (some value) fieldName
    match ofValue? (codec.casefold normalized) with
    | some member => .ok member
    | none => .error (.notMember enumName (codec.casefold normalized))

/-- `_thread_type`. -/
def KeyCodec.threadType (codec : KeyCodec) : EnumArgument ThreadType → Except KeyError ThreadType :=
  codec.enumMember ThreadType.ofValue? "ThreadType" "conversation_type"

/-- `_thread_policy`. -/
def KeyCodec.threadPolicy (codec : KeyCodec) :
    EnumArgument ThreadPolicy → Except KeyError ThreadPolicy :=
  codec.enumMember ThreadPolicy.ofValue? "ThreadPolicy" "thread_policy"

/-- `_encode_segment`: besides the bytes that are always safe, `@` is left as it is. -/
def encodeSegment (value : String) : String :=
  quote (fun b => isAlwaysSafe b || b == 0x40) value

def threadKeyMaxLength : ℕ := 96

/-! ## The first version -/

/-- The arguments of `build_thread_key` that it uses. -/
structure ThreadKeyInput where
  platform : String
  accountId : String
  physicalConversationId : String
  conversationType : EnumArgument ThreadType
  deriving DecidableEq, Repr

/-- The normalized arguments. -/
structure ThreadKeyFields where
  platform : String
  accountId : String
  conversationId : String
  threadType : ThreadType
  deriving DecidableEq, Repr

/-- The fields that are digested, in the order of `sort_keys`. -/
def ThreadKeyFields.json (fields : ThreadKeyFields) : List (String × JsonScalar) :=
  [("account_id", .string fields.accountId),
    ("conversation_id", .string fields.conversationId),
    ("platform", .string fields.platform),
    ("thread_type", .string fields.threadType.value),
    ("version", .number 1)]

/-- The first half of `build_thread_key`. -/
def KeyCodec.threadKeyFields (codec : KeyCodec) (input : ThreadKeyInput) :
    Except KeyError ThreadKeyFields := do
  let threadType ← codec.threadType input.conversationType
  let platform ← required (some input.platform) "platform"
  let accountId ← required (some input.accountId) "account_id"
  let conversationId ← required (some input.physicalConversationId) "physical_conversation_id"
  return ⟨codec.casefold platform, accountId, conversationId, threadType⟩

/-- The segments of the readable key. -/
def ThreadKeyFields.readable (fields : ThreadKeyFields) : List String :=
  ["v1", encodeSegment fields.platform, fields.threadType.value, encodeSegment fields.accountId,
    encodeSegment fields.conversationId]

/-- The segments of the digested key. -/
def KeyCodec.digested (codec : KeyCodec) (fields : ThreadKeyFields) : List String :=
  ["v1", "sha256", fields.threadType.value, codec.sha256 fields.json]

/-- The segments of the key. -/
def KeyCodec.segments (codec : KeyCodec) (fields : ThreadKeyFields) : List String :=
  if (joinWith ':' fields.readable).length ≤ threadKeyMaxLength then fields.readable
  else codec.digested fields

/-- `build_thread_key`. -/
def KeyCodec.buildThreadKey (codec : KeyCodec) (input : ThreadKeyInput) :
    Except KeyError String := do
  let fields ← codec.threadKeyFields input
  return joinWith ':' (codec.segments fields)

/-! ## The second version -/

/-- `agent_profile_revision: str | int`. -/
inductive Revision
  | text (value : String)
  | number (value : Int)
  deriving DecidableEq, Repr

/-- `str(agent_profile_revision)`. -/
def Revision.str : Revision → String
  | .text value => value
  | .number value => toString value

/-- The arguments of `build_v2_thread_key`. -/
structure V2ThreadKeyInput where
  platform : String
  accountId : String
  physicalConversationId : String
  conversationType : EnumArgument ThreadType
  senderIdentityId : Option String
  agentProfileId : String
  agentProfileRevision : Option Revision
  threadPolicy : EnumArgument ThreadPolicy
  deriving DecidableEq, Repr

/-- The normalized arguments. -/
structure V2ThreadKeyFields where
  accountId : String
  agentProfileId : String
  agentProfileRevision : String
  conversationId : String
  conversationType : ThreadType
  platform : String
  senderIdentityId : Option String
  threadPolicy : ThreadPolicy
  deriving DecidableEq, Repr

/-- The fields that are digested, in the order of `sort_keys`. -/
def V2ThreadKeyFields.json (fields : V2ThreadKeyFields) : List (String × JsonScalar) :=
  [("account_id", .string fields.accountId),
    ("agent_profile_id", .string fields.agentProfileId),
    ("agent_profile_revision", .string fields.agentProfileRevision),
    ("conversation_id", .string fields.conversationId),
    ("conversation_type", .string fields.conversationType.value),
    ("platform", .string fields.platform),
    ("sender_identity_id", (fields.senderIdentityId.map JsonScalar.string).getD .null),
    ("thread_policy", .string fields.threadPolicy.value),
    ("version", .number 2)]

/-- `_validate_policy`. -/
def validatePolicy (policy : ThreadPolicy) (threadType : ThreadType) : Except KeyError Unit := do
  raiseIf (policy = .privateSender ∧ threadType ≠ .privateThread) (.wrongType policy)
  raiseIf (policy ≠ .privateSender ∧ threadType ≠ .groupThread) (.wrongType policy)

/-- The sender is part of the key unless the policy shares the thread. -/
def normalizedSender (policy : ThreadPolicy) (senderIdentityId : Option String) :
    Except KeyError (Option String) :=
  if policy = .groupShared then .ok none
  else some <$> required senderIdentityId "sender_identity_id"

/-- The first half of `build_v2_thread_key`. -/
def KeyCodec.v2ThreadKeyFields (codec : KeyCodec) (input : V2ThreadKeyInput) :
    Except KeyError V2ThreadKeyFields := do
  let threadType ← codec.threadType input.conversationType
  let policy ← codec.threadPolicy input.threadPolicy
  validatePolicy policy threadType
  let senderIdentityId ← match input.agentProfileRevision with
    | none => .error (.empty "agent_profile_revision")
    | some _ => normalizedSender policy input.senderIdentityId
  let accountId ← required (some input.accountId) "account_id"
  let agentProfileId ← required (some input.agentProfileId) "agent_profile_id"
  let revision ← required (input.agentProfileRevision.map Revision.str) "agent_profile_revision"
  let conversationId ← required (some input.physicalConversationId) "physical_conversation_id"
  let platform ← required (some input.platform) "platform"
  return {
    accountId := accountId
    agentProfileId := agentProfileId
    agentProfileRevision := revision
    conversationId := conversationId
    conversationType := threadType
    platform := codec.casefold platform
    senderIdentityId := senderIdentityId
    threadPolicy := policy }

/-- The segments of the key. -/
def KeyCodec.v2Segments (codec : KeyCodec) (fields : V2ThreadKeyFields) : List String :=
  ["v2", "sha256", fields.threadPolicy.value, codec.sha256 fields.json]

/-- `build_v2_thread_key`. -/
def KeyCodec.buildV2ThreadKey (codec : KeyCodec) (input : V2ThreadKeyInput) :
    Except KeyError String := do
  let fields ← codec.v2ThreadKeyFields input
  return joinWith ':' (codec.v2Segments fields)

/-! ## Segments -/

/-- No segment contains the separator. -/
def ColonFree (segments : List String) : Prop := ∀ s ∈ segments, ':' ∉ s.toList

lemma colon_not_mem_encodeSegment (value : String) : ':' ∉ (encodeSegment value).toList :=
  not_mem_quote (b := 0x3A) rfl (by decide) (by decide) value

lemma encodeSegment_inj {value other : String} :
    encodeSegment value = encodeSegment other ↔ value = other :=
  quote_inj rfl

/-- Nor does a digest have a colon. -/
lemma colon_not_mem_sha256 (codec : KeyCodec) (fields : List (String × JsonScalar)) :
    ':' ∉ (codec.sha256 fields).toList := by
  intro h
  have hhex := codec.hex_sha256 fields _ h
  revert hhex
  decide

lemma threadType_value_inj {a b : ThreadType} : a.value = b.value ↔ a = b := by
  cases a <;> cases b <;> decide

lemma threadPolicy_value_inj {a b : ThreadPolicy} : a.value = b.value ↔ a = b := by
  cases a <;> cases b <;> decide

lemma colon_not_mem_threadType (threadType : ThreadType) : ':' ∉ threadType.value.toList := by
  cases threadType <;> decide

lemma colon_not_mem_threadPolicy (policy : ThreadPolicy) : ':' ∉ policy.value.toList := by
  cases policy <;> decide

/-- The segments of a key have no colons, so the key can be split again. -/
lemma colonFree_readable (fields : ThreadKeyFields) : ColonFree fields.readable := by
  simp only [ColonFree, ThreadKeyFields.readable, List.forall_mem_cons, List.not_mem_nil,
    IsEmpty.forall_iff, implies_true, and_true]
  exact ⟨by decide, colon_not_mem_encodeSegment _, colon_not_mem_threadType _,
    colon_not_mem_encodeSegment _, colon_not_mem_encodeSegment _⟩

lemma colonFree_digested (codec : KeyCodec) (fields : ThreadKeyFields) :
    ColonFree (codec.digested fields) := by
  simp only [ColonFree, KeyCodec.digested, List.forall_mem_cons, List.not_mem_nil,
    IsEmpty.forall_iff, implies_true, and_true]
  exact ⟨by decide, by decide, colon_not_mem_threadType _, colon_not_mem_sha256 _ _⟩

lemma colonFree_v2Segments (codec : KeyCodec) (fields : V2ThreadKeyFields) :
    ColonFree (codec.v2Segments fields) := by
  simp only [ColonFree, KeyCodec.v2Segments, List.forall_mem_cons, List.not_mem_nil,
    IsEmpty.forall_iff, implies_true, and_true]
  exact ⟨by decide, by decide, colon_not_mem_threadPolicy _, colon_not_mem_sha256 _ _⟩

/-- The two forms of a key. -/
lemma segments_cases (codec : KeyCodec) (fields : ThreadKeyFields) :
    codec.segments fields = fields.readable ∨ codec.segments fields = codec.digested fields := by
  unfold KeyCodec.segments
  split
  · exact Or.inl rfl
  · exact Or.inr rfl

lemma colonFree_segments (codec : KeyCodec) (fields : ThreadKeyFields) :
    ColonFree (codec.segments fields) := by
  rcases segments_cases codec fields with h | h
  · rw [h]
    exact colonFree_readable fields
  · rw [h]
    exact colonFree_digested codec fields

/-- Both versions begin with their number. -/
lemma head?_segments (codec : KeyCodec) (fields : ThreadKeyFields) :
    (codec.segments fields).head? = some "v1" := by
  rcases segments_cases codec fields with h | h <;> rw [h] <;> rfl

lemma segments_ne_nil (codec : KeyCodec) (fields : ThreadKeyFields) :
    codec.segments fields ≠ [] := by
  intro h
  have hhead := head?_segments codec fields
  rw [h] at hhead
  cases hhead

/-! ## Fields -/

/-- The digest tells these two values apart. -/
def NoCollision (codec : KeyCodec) (a b : List (String × JsonScalar)) : Prop :=
  codec.sha256 a = codec.sha256 b → a = b

variable {a b : ThreadKeyFields} {codec : KeyCodec}

/-- The digested object says all fields. -/
lemma ThreadKeyFields.json_inj : a.json = b.json ↔ a = b := by
  refine ⟨fun h => ?_, fun h => by rw [h]⟩
  simp only [json, List.cons.injEq, Prod.mk.injEq, JsonScalar.string.injEq, true_and, and_true,
    threadType_value_inj] at h
  obtain ⟨haccount, hconversation, hplatform, htype⟩ := h
  cases a
  cases b
  simp_all

/-- So do the readable segments. -/
lemma readable_inj : a.readable = b.readable ↔ a = b := by
  refine ⟨fun h => ?_, fun h => by rw [h]⟩
  simp only [ThreadKeyFields.readable, List.cons.injEq, true_and, and_true, encodeSegment_inj,
    threadType_value_inj] at h
  obtain ⟨hplatform, htype, haccount, hconversation⟩ := h
  cases a
  cases b
  simp_all

/-- Equal segments come from equal fields: a readable key and a digest differ in their number of
segments. -/
lemma segments_inj (hcollision : NoCollision codec a.json b.json) :
    codec.segments a = codec.segments b ↔ a = b := by
  refine ⟨fun h => ?_, fun h => by rw [h]⟩
  rcases segments_cases codec a with ha | ha <;> rcases segments_cases codec b with hb | hb <;>
    rw [ha, hb] at h
  · exact readable_inj.mp h
  · cases congrArg List.length h
  · cases congrArg List.length h
  · simp only [KeyCodec.digested, List.cons.injEq, true_and, and_true] at h
    exact ThreadKeyFields.json_inj.mp (hcollision h.2)

/-- Keys are equal exactly when their fields are, unless digests collide. -/
lemma joinSegments_inj (hcollision : NoCollision codec a.json b.json) :
    joinWith ':' (codec.segments a) = joinWith ':' (codec.segments b) ↔ a = b :=
  (joinWith_inj (segments_ne_nil codec a) (segments_ne_nil codec b) (colonFree_segments codec a)
    (colonFree_segments codec b)).trans (segments_inj hcollision)

/-- The first segments differ. -/
lemma joinSegments_ne_v2 (codec : KeyCodec) (fields : ThreadKeyFields)
    (v2 : V2ThreadKeyFields) :
    joinWith ':' (codec.segments fields) ≠ joinWith ':' (codec.v2Segments v2) := by
  intro hkeys
  have h : codec.segments fields = codec.v2Segments v2 :=
    (joinWith_inj (segments_ne_nil codec fields) (List.cons_ne_nil _ _)
      (colonFree_segments codec fields) (colonFree_v2Segments codec v2)).mp hkeys
  have hhead := head?_segments codec fields
  rw [h] at hhead
  revert hhead
  simp [KeyCodec.v2Segments]

/-! ## Lengths -/

lemma length_joinWith_four (a b c d : String) :
    (joinWith ':' [a, b, c, d]).length = a.length + b.length + c.length + d.length + 3 := by
  simp only [joinWith, List.intercalate, List.map_cons, List.map_nil, List.intersperse,
    List.flatten_cons, List.flatten_nil, String.length_ofList, List.length_append,
    String.length_toList, List.length_cons, List.length_nil]
  omega

/-- A key fits in its column. -/
lemma length_joinSegments_le (codec : KeyCodec) (fields : ThreadKeyFields) :
    (joinWith ':' (codec.segments fields)).length ≤ 96 := by
  unfold KeyCodec.segments
  split
  · assumption
  · rw [KeyCodec.digested, length_joinWith_four, codec.length_sha256]
    cases fields.threadType <;> decide

lemma length_joinV2Segments_le (codec : KeyCodec) (fields : V2ThreadKeyFields) :
    (joinWith ':' (codec.v2Segments fields)).length ≤ 96 := by
  rw [KeyCodec.v2Segments, length_joinWith_four, codec.length_sha256]
  cases fields.threadPolicy <;> decide

/-! ## Isolation -/

/-- A required text is not blank, and stripped. -/
lemma required_eq_ok {value fieldName normalized : String} :
    required (some value) fieldName = .ok normalized ↔
      ¬ IsBlank value ∧ strip value = normalized := by
  simp only [required, bind_eq_ok, raiseIf_eq_ok]
  constructor
  · rintro ⟨-, hblank, h⟩
    cases h
    exact ⟨hblank, rfl⟩
  · rintro ⟨hblank, rfl⟩
    exact ⟨(), hblank, rfl⟩

/-- The arguments that have to name something do. -/
def ThreadKeyInput.NonBlank (input : ThreadKeyInput) : Prop :=
  ¬ IsBlank input.platform ∧ ¬ IsBlank input.accountId ∧ ¬ IsBlank input.physicalConversationId

instance : DecidablePred ThreadKeyInput.NonBlank := fun input =>
  inferInstanceAs (Decidable (¬ IsBlank input.platform ∧ ¬ IsBlank input.accountId ∧
    ¬ IsBlank input.physicalConversationId))

/-- What the arguments are normalized to. -/
def KeyCodec.normalized (codec : KeyCodec) (input : ThreadKeyInput) (threadType : ThreadType) :
    ThreadKeyFields :=
  ⟨codec.casefold (strip input.platform), strip input.accountId,
    strip input.physicalConversationId, threadType⟩

/-- A key that can be built is the join of its segments. -/
lemma buildThreadKey_eq_ok {input : ThreadKeyInput} {threadType : ThreadType}
    (hinput : input.NonBlank) (htype : codec.threadType input.conversationType = .ok threadType) :
    codec.buildThreadKey input =
      .ok (joinWith ':' (codec.segments (codec.normalized input threadType))) := by
  obtain ⟨hplatform, haccount, hconversation⟩ := hinput
  have hfields : codec.threadKeyFields input = .ok (codec.normalized input threadType) := by
    simp only [KeyCodec.threadKeyFields, bind_eq_ok, required_eq_ok]
    exact ⟨threadType, htype, _, ⟨hplatform, rfl⟩, _, ⟨haccount, rfl⟩, _, ⟨hconversation, rfl⟩,
      rfl⟩
  rw [KeyCodec.buildThreadKey, hfields]
  rfl

lemma buildV2ThreadKey_eq_ok {input : V2ThreadKeyInput} {key : String}
    (h : codec.buildV2ThreadKey input = .ok key) :
    ∃ fields, codec.v2ThreadKeyFields input = .ok fields ∧
      key = joinWith ':' (codec.v2Segments fields) := by
  simp only [KeyCodec.buildV2ThreadKey, bind_eq_ok] at h
  obtain ⟨fields, hfields, h⟩ := h
  cases h
  exact ⟨fields, hfields, rfl⟩

/-- The arguments of the second version that have to name something do. -/
def V2ThreadKeyInput.NonBlank (input : V2ThreadKeyInput) (policy : ThreadPolicy) : Prop :=
  ¬ IsBlank input.platform ∧ ¬ IsBlank input.accountId ∧ ¬ IsBlank input.physicalConversationId ∧
    ¬ IsBlank input.agentProfileId ∧
    (∃ revision ∈ input.agentProfileRevision, ¬ IsBlank revision.str) ∧
    (policy ≠ .groupShared → ∃ sender ∈ input.senderIdentityId, ¬ IsBlank sender)

/-- What the arguments of the second version are normalized to. -/
def KeyCodec.v2Normalized (codec : KeyCodec) (input : V2ThreadKeyInput) (threadType : ThreadType)
    (policy : ThreadPolicy) : V2ThreadKeyFields where
  accountId := strip input.accountId
  agentProfileId := strip input.agentProfileId
  agentProfileRevision := strip ((input.agentProfileRevision.map Revision.str).getD "")
  conversationId := strip input.physicalConversationId
  conversationType := threadType
  platform := codec.casefold (strip input.platform)
  senderIdentityId :=
    if policy = .groupShared then none else some (strip (input.senderIdentityId.getD ""))
  threadPolicy := policy

/-- The sender is dropped under the shared policy, and required under the others. -/
lemma normalizedSender_eq_ok {policy : ThreadPolicy} {sender : Option String}
    {normalized : Option String} :
    normalizedSender policy sender = .ok normalized ↔
      (policy ≠ .groupShared → ∃ id ∈ sender, ¬ IsBlank id) ∧
        normalized = if policy = .groupShared then none else some (strip (sender.getD "")) := by
  unfold normalizedSender
  by_cases hpolicy : policy = .groupShared
  · simp [hpolicy, eq_comm]
  · rw [if_neg hpolicy, if_neg hpolicy, map_eq_ok]
    cases sender with
    | none => simp [required, hpolicy]
    | some id =>
      constructor
      · rintro ⟨_, hrequired, rfl⟩
        obtain ⟨hblank, rfl⟩ := required_eq_ok.mp hrequired
        exact ⟨fun _ => ⟨id, rfl, hblank⟩, rfl⟩
      · rintro ⟨hsender, rfl⟩
        obtain ⟨_, hmem, hblank⟩ := hsender hpolicy
        cases hmem
        exact ⟨_, required_eq_ok.mpr ⟨hblank, rfl⟩, rfl⟩

/-- When the second version has a key, and which. -/
lemma buildV2ThreadKey_iff {input : V2ThreadKeyInput} {key : String} :
    codec.buildV2ThreadKey input = .ok key ↔ ∃ threadType policy,
      codec.threadType input.conversationType = .ok threadType ∧
      codec.threadPolicy input.threadPolicy = .ok policy ∧
      validatePolicy policy threadType = .ok () ∧ input.NonBlank policy ∧
      key = joinWith ':' (codec.v2Segments (codec.v2Normalized input threadType policy)) := by
  obtain ⟨platform, account, conversation, conversationType, sender, profile, revision, policy⟩ :=
    input
  cases revision with
  | none =>
    constructor
    · intro h
      simp only [KeyCodec.buildV2ThreadKey, KeyCodec.v2ThreadKeyFields, bind_eq_ok] at h
      obtain ⟨fields, ⟨threadType, -, member, -, -, -, sender, hsender, -⟩, -⟩ := h
      cases hsender
    · rintro ⟨threadType, member, -, -, -, ⟨-, -, -, -, ⟨revision, hrevision, -⟩, -⟩, -⟩
      cases hrevision
  | some revision =>
    simp only [KeyCodec.buildV2ThreadKey, KeyCodec.v2ThreadKeyFields, bind_eq_ok,
      Option.map_some, required_eq_ok, normalizedSender_eq_ok]
    constructor
    · rintro ⟨fields, ⟨threadType, htype, member, hpolicy, _, hvalid, _, ⟨hsender, rfl⟩,
        _, ⟨haccount, rfl⟩, _, ⟨hprofile, rfl⟩, _, ⟨hrevision, rfl⟩, _, ⟨hconversation, rfl⟩,
        _, ⟨hplatform, rfl⟩, hfields⟩, hkey⟩
      cases hfields
      cases hkey
      exact ⟨threadType, member, htype, hpolicy, hvalid, ⟨hplatform, haccount, hconversation,
        hprofile, ⟨revision, rfl, hrevision⟩, hsender⟩, rfl⟩
    · rintro ⟨threadType, member, htype, hpolicy, hvalid, ⟨hplatform, haccount, hconversation,
        hprofile, ⟨_, hrev, hrevision⟩, hsender⟩, rfl⟩
      cases hrev
      exact ⟨_, ⟨threadType, htype, member, hpolicy, (), hvalid, _, ⟨hsender, rfl⟩,
        _, ⟨haccount, rfl⟩, _, ⟨hprofile, rfl⟩, _, ⟨hrevision, rfl⟩, _, ⟨hconversation, rfl⟩,
        _, ⟨hplatform, rfl⟩, rfl⟩, rfl⟩

/-- The same for the keys of routed threads. -/
lemma V2ThreadKeyFields.json_inj {a b : V2ThreadKeyFields} : a.json = b.json ↔ a = b := by
  refine ⟨fun h => ?_, fun h => by rw [h]⟩
  simp only [json, List.cons.injEq, Prod.mk.injEq, JsonScalar.string.injEq, true_and, and_true,
    threadType_value_inj, threadPolicy_value_inj] at h
  obtain ⟨haccount, hprofile, hrevision, hconversation, htype, hplatform, hsender, hpolicy⟩ := h
  have hsender' : a.senderIdentityId = b.senderIdentityId := by
    cases ha : a.senderIdentityId <;> cases hb : b.senderIdentityId <;> simp_all
  cases a
  cases b
  simp_all

lemma joinV2Segments_inj {a b : V2ThreadKeyFields} (hcollision : NoCollision codec a.json b.json) :
    joinWith ':' (codec.v2Segments a) = joinWith ':' (codec.v2Segments b) ↔ a = b := by
  refine ⟨fun hkeys => ?_, fun h => by rw [h]⟩
  have h : codec.v2Segments a = codec.v2Segments b :=
    (joinWith_inj (List.cons_ne_nil _ _) (List.cons_ne_nil _ _) (colonFree_v2Segments codec a)
      (colonFree_v2Segments codec b)).mp hkeys
  simp only [KeyCodec.v2Segments, List.cons.injEq, true_and, and_true] at h
  exact V2ThreadKeyFields.json_inj.mp (hcollision h.2)

/-- Two conversations have the same key if and only if they agree on platform, account,
conversation and type after normalization, whichever form their keys take; no key is longer than 96
characters, and no key of the first version is one of the second. -/
theorem thread_keys_isolate_conversations (codec : KeyCodec) (a b : ThreadKeyInput)
    (aType bType : ThreadType) (ha : a.NonBlank) (hb : b.NonBlank)
    (haType : codec.threadType a.conversationType = .ok aType)
    (hbType : codec.threadType b.conversationType = .ok bType)
    (hcollision : NoCollision codec (codec.normalized a aType).json
      (codec.normalized b bType).json) :
    ∃ aKey bKey, codec.buildThreadKey a = .ok aKey ∧ codec.buildThreadKey b = .ok bKey ∧
      (aKey = bKey ↔ codec.casefold (strip a.platform) = codec.casefold (strip b.platform) ∧
        strip a.accountId = strip b.accountId ∧
        strip a.physicalConversationId = strip b.physicalConversationId ∧ aType = bType) ∧
      aKey.length ≤ 96 ∧
      ∀ input key, codec.buildV2ThreadKey input = .ok key → aKey ≠ key ∧ key.length ≤ 96 := by
  refine ⟨_, _, buildThreadKey_eq_ok ha haType, buildThreadKey_eq_ok hb hbType, ?_,
    length_joinSegments_le codec _, ?_⟩
  · rw [joinSegments_inj hcollision]
    simp only [KeyCodec.normalized, ThreadKeyFields.mk.injEq]
  · intro input key hkey
    obtain ⟨fields, -, rfl⟩ := buildV2ThreadKey_eq_ok hkey
    exact ⟨joinSegments_ne_v2 codec _ fields, length_joinV2Segments_le codec fields⟩

/-- A codec that digests everything to the same text. -/
def constantCodec : KeyCodec where
  casefold := id
  sha256 _ := String.ofList (List.replicate 64 'a')
  length_sha256 _ := by rw [String.length_ofList, List.length_replicate]
  hex_sha256 _ c hc := by
    rw [String.toList_ofList] at hc
    rw [List.eq_of_mem_replicate hc]
    decide

/-- Two names of one conversation. -/
theorem thread_keys_of_padded_names :
    ∃ aKey bKey, constantCodec.buildThreadKey ⟨"wechat", "a", "room", .member .groupThread⟩ = .ok aKey ∧
      constantCodec.buildThreadKey ⟨" wechat", "a ", "room", .text "group"⟩ = .ok bKey ∧
      (aKey = bKey ↔ "wechat" = strip " wechat" ∧ "a" = strip "a " ∧ "room" = strip "room" ∧
        ThreadType.groupThread = ThreadType.groupThread) ∧
      aKey.length ≤ 96 ∧
      ∀ input key, constantCodec.buildV2ThreadKey input = .ok key →
        aKey ≠ key ∧ key.length ≤ 96 :=
  thread_keys_isolate_conversations constantCodec _ _ .groupThread .groupThread (by decide) (by decide) rfl
    (by decide) (fun _ => by decide)

end AgentGateway.Workspace
