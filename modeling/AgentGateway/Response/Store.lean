import AgentGateway.Delivery.Tables

/-!
# The response store

`save_generated` persists the response of a dispatch together with its delivery job, once per
message. The digests are parameters: the store only compares them. Rows other transactions could
have inserted in between are covered by the same lookups, so the retry after an `IntegrityError`
finds what the first lookup would have found.
-/

namespace AgentGateway.Response

open Lib Hermes Delivery

/-- `DeliveryTarget`. -/
structure DeliveryTarget where
  channel : String
  accountId : String
  conversationId : String
  deriving DecidableEq, Repr

/-- The SHA-256 digests of the store: `_content_sha256`, `_target_key` and the digest inside
`_delivery_idempotency_key`. -/
structure Digests where
  contentSha256 : ResponseEnvelope → String
  targetKey : DeliveryTarget → String
  deliveryDigest : String → String → String

/-- Digests that tell nothing apart, for runs on fixed inputs. -/
def constantDigests : Digests := ⟨fun _ => "content", fun _ => "target", fun _ _ => "delivery"⟩

/-- What `save_generated` raises. `integrity` is an `IntegrityError` that no stored response
explains. -/
inductive ResponsePersistenceError
  | validation (reason : String)
  | conflict (idempotencyKey : String)
  | integrity
  deriving DecidableEq, Repr

/-- `_positive_message_id`. -/
def positiveMessageId (value : Int) : Except ResponsePersistenceError Int := do
  raiseIf (value ≤ 0) (.validation "invalid_message_id")
  return value

/-- `build_response_idempotency_key`. -/
def buildResponseIdempotencyKey (messageId : Int) : Except ResponsePersistenceError String := do
  let messageId ← positiveMessageId messageId
  return "v1:hermes-response:message:" ++ toString messageId

/-- `build_stable_response_id`. -/
def buildStableResponseId (messageId : Int) : Except ResponsePersistenceError String := do
  let messageId ← positiveMessageId messageId
  return "legacy-response:message:" ++ toString messageId

/-- `_response_envelope`. -/
def responseEnvelope (outcome : HermesDispatchOutcome) :
    Except ResponsePersistenceError ResponseEnvelope :=
  match outcome.response with
  | some envelope => .ok envelope
  | none => do
    raiseIf (outcome.assistantContent = "") (.validation "empty_response")
    let responseId ← buildStableResponseId outcome.messageId
    return ⟨responseId, [.text outcome.assistantContent], List.cons_ne_nil _ _⟩

/-- `_delivery_idempotency_key`. -/
def Digests.deliveryIdempotencyKey (digests : Digests) (responseKey targetKey : String) : String :=
  "v1:response-delivery:" ++ digests.deliveryDigest responseKey targetKey

/-- `_require_compatible_delivery`. -/
def requireCompatibleDelivery (delivery : DeliveryOutboxRecord) (target : DeliveryTarget)
    (targetKey : String) : Except ResponsePersistenceError Unit :=
  raiseIf (delivery.channel ≠ target.channel ∨ delivery.accountId ≠ target.accountId ∨
      delivery.conversationId ≠ target.conversationId ∨ delivery.targetKey ≠ targetKey)
    (.conflict delivery.idempotencyKey)

/-- `_new_delivery`, with the generated id and the column defaults. -/
def newDelivery (id : ℕ) (responseId deliveryKey : String) (target : DeliveryTarget)
    (targetKey : String) (now : Timestamp) : DeliveryOutboxRecord where
  id := id
  idempotencyKey := deliveryKey
  responseId := responseId
  channel := target.channel
  accountId := target.accountId
  conversationId := target.conversationId
  targetKey := targetKey
  status := .queued
  nextPartOrdinal := 0
  attemptCount := 0
  availableAt := now
  claimToken := none
  claimedAt := none
  completedAt := none
  lastErrorCode := none
  createdAt := now

/-- The response row of `save_generated`. -/
def newResponseRecord (envelope : ResponseEnvelope) (outcome : HermesDispatchOutcome)
    (idempotencyKey contentSha256 : String) (now : Timestamp) : ResponseRecord where
  responseId := envelope.responseId
  idempotencyKey := idempotencyKey
  messageId := outcome.messageId
  workspaceId := outcome.workspaceId
  aiThreadId := outcome.aiThreadId
  contentSha256 := contentSha256
  partCount := envelope.parts.length
  status := .generated
  generatedAt := some now
  deliveringAt := none
  deliveredAt := none
  failedAt := none
  uncertainAt := none
  lastErrorCode := none
  parts := envelope.parts

/-- The unique keys of the outbox. -/
def DeliveryClashesWith (delivery other : DeliveryOutboxRecord) : Prop :=
  other.id = delivery.id ∨ other.idempotencyKey = delivery.idempotencyKey ∨
    other.responseId = delivery.responseId ∧ other.channel = delivery.channel ∧
      other.targetKey = delivery.targetKey

instance : DecidableRel DeliveryClashesWith := fun delivery other =>
  inferInstanceAs (Decidable (other.id = delivery.id ∨
    other.idempotencyKey = delivery.idempotencyKey ∨
    other.responseId = delivery.responseId ∧ other.channel = delivery.channel ∧
      other.targetKey = delivery.targetKey))

/-- The unique keys of the responses. -/
def ResponseClashesWith (response other : ResponseRecord) : Prop :=
  other.responseId = response.responseId ∨ other.idempotencyKey = response.idempotencyKey ∨
    other.messageId = response.messageId

instance : DecidableRel ResponseClashesWith := fun response other =>
  inferInstanceAs (Decidable (other.responseId = response.responseId ∨
    other.idempotencyKey = response.idempotencyKey ∨ other.messageId = response.messageId))

/-- What `save_generated` computes before it looks at the tables. -/
structure SaveRequest where
  outcome : HermesDispatchOutcome
  envelope : ResponseEnvelope
  target : DeliveryTarget
  idempotencyKey : String
  contentSha256 : String
  targetKey : String
  deliveryKey : String

/-- The first lines of `save_generated`. -/
def Digests.saveRequest (digests : Digests) (outcome : HermesDispatchOutcome)
    (target : DeliveryTarget) : Except ResponsePersistenceError SaveRequest := do
  let envelope ← responseEnvelope outcome
  let idempotencyKey ← buildResponseIdempotencyKey outcome.messageId
  return {
    outcome := outcome
    envelope := envelope
    target := target
    idempotencyKey := idempotencyKey
    contentSha256 := digests.contentSha256 envelope
    targetKey := digests.targetKey target
    deliveryKey := digests.deliveryIdempotencyKey idempotencyKey (digests.targetKey target) }

/-- A stored response with another content, origin or id than the requested one. -/
def Differs (existing : ResponseRecord) (request : SaveRequest) : Prop :=
  existing.responseId ≠ request.envelope.responseId ∨
    existing.messageId ≠ request.outcome.messageId ∨
    existing.workspaceId ≠ request.outcome.workspaceId ∨
    existing.aiThreadId ≠ request.outcome.aiThreadId ∨
    existing.contentSha256 ≠ request.contentSha256 ∨
    existing.partCount ≠ request.envelope.parts.length ∨ existing.parts ≠ request.envelope.parts

instance : DecidableRel Differs := fun _ _ => inferInstanceAs (Decidable (_ ∨ _))

/-- `_require_compatible_response`. -/
def requireCompatibleResponse (response : ResponseRecord) (request : SaveRequest) :
    Except ResponsePersistenceError Unit :=
  raiseIf (Differs response request) (.conflict response.idempotencyKey)

/-- The response row of a request. -/
def SaveRequest.newResponse (request : SaveRequest) (now : Timestamp) : ResponseRecord :=
  newResponseRecord request.envelope request.outcome request.idempotencyKey request.contentSha256
    now

/-- The delivery row of a request. -/
def SaveRequest.newDelivery (request : SaveRequest) (id : ℕ) (responseId : String)
    (now : Timestamp) : DeliveryOutboxRecord :=
  Response.newDelivery id responseId request.deliveryKey request.target request.targetKey now

/-- `_create_missing_delivery`: the delivery and whether it is new. -/
def createMissingDelivery (request : SaveRequest) (response : ResponseRecord) (deliveryId : ℕ)
    (now : Timestamp) (tables : DeliveryTables) :
    Except ResponsePersistenceError (DeliveryTables × DeliveryOutboxRecord × Bool) :=
  match tables.deliveries.find? fun delivery => delivery.responseId = response.responseId with
  | some unexpected => do
    requireCompatibleDelivery unexpected request.target request.targetKey
    return (tables, unexpected, false)
  | none => do
    let delivery := request.newDelivery deliveryId response.responseId now
    raiseIf (∃ other ∈ tables.deliveries, DeliveryClashesWith delivery other) .integrity
    return ({ tables with deliveries := tables.deliveries ++ [delivery] }, delivery, true)

/-- `save_generated` for a message that has a response already. -/
def saveExisting (request : SaveRequest) (existing : ResponseRecord) (deliveryId : ℕ)
    (now : Timestamp) (tables : DeliveryTables) :
    Except ResponsePersistenceError (DeliveryTables × DeliveryOutboxRecord × Bool) := do
  requireCompatibleResponse existing request
  match tables.deliveries.find? fun delivery => delivery.responseId = existing.responseId ∧
      delivery.channel = request.target.channel ∧ delivery.targetKey = request.targetKey with
  | none => createMissingDelivery request existing deliveryId now tables
  | some delivery => do
    requireCompatibleDelivery delivery request.target request.targetKey
    return (tables, delivery, false)

/-- `save_generated` for a message without a response: both rows in one transaction. -/
def saveNew (request : SaveRequest) (deliveryId : ℕ) (now : Timestamp)
    (tables : DeliveryTables) :
    Except ResponsePersistenceError (DeliveryTables × DeliveryOutboxRecord × Bool) := do
  let response := request.newResponse now
  let delivery := request.newDelivery deliveryId request.envelope.responseId now
  raiseIf ((∃ other ∈ tables.responses, ResponseClashesWith response other) ∨
    ∃ other ∈ tables.deliveries, DeliveryClashesWith delivery other) .integrity
  return ({ tables with
      responses := tables.responses ++ [response]
      deliveries := tables.deliveries ++ [delivery] }, delivery, true)

/-- `save_generated` once its request has been computed. -/
def saveRequested (request : SaveRequest) (deliveryId : ℕ) (now : Timestamp)
    (tables : DeliveryTables) :
    Except ResponsePersistenceError (DeliveryTables × DeliveryOutboxRecord × Bool) :=
  match tables.responses.find? fun response => response.idempotencyKey = request.idempotencyKey with
  | some existing => saveExisting request existing deliveryId now tables
  | none => saveNew request deliveryId now tables

/-- `save_generated`. -/
def saveGenerated (digests : Digests) (outcome : HermesDispatchOutcome) (target : DeliveryTarget)
    (deliveryId : ℕ) (now : Timestamp) (tables : DeliveryTables) :
    Except ResponsePersistenceError (DeliveryTables × DeliveryOutboxRecord × Bool) := do
  let request ← digests.saveRequest outcome target
  saveRequested request deliveryId now tables

/-! ## Parts -/

/-- `ResponsePartKind`. -/
inductive ResponsePartKind
  | text
  | artifactRef
  deriving DecidableEq, Repr

/-- `ResponsePartRecord`. -/
structure ResponsePartRecord where
  responseId : String
  ordinal : ℕ
  partType : ResponsePartKind
  text : Option String
  artifactId : Option String
  deriving DecidableEq, Repr

/-- `_part_record`. -/
def partRecord (responseId : String) (ordinal : ℕ) : ResponsePart → ResponsePartRecord
  | .text text => ⟨responseId, ordinal, .text, some text, none⟩
  | .artifactRef artifactId => ⟨responseId, ordinal, .artifactRef, none, some artifactId⟩

end AgentGateway.Response
