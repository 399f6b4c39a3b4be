import AgentGateway.Dispatch.Service
import AgentGateway.Hermes.Payload
import AgentGateway.Response.Store

/-!
# Two ways to a delivery

A successful dispatch is turned into a response and a delivery by the worker that ran it
(`ResponsePersistenceProcessor.process`), or later, from the stored raw result, by the
reconciliation scan (`_reconcile_candidate`). Both end in `save_generated` with the target of the
message; before it, the processor looks at the thread and the scan does not.
-/

namespace AgentGateway.Response

open Lib Hermes Dispatch Delivery

/-! ## Targets -/

/-- `_required_string`. -/
def requiredString (value fieldName : String) (maxLength : ℕ) :
    Except ResponsePersistenceError String := do
  raiseIf (IsBlank value) (.validation (fieldName ++ "_missing"))
  let normalized := strip value
  raiseIf (maxLength < normalized.length ∨ normalized.toList.any isControl = true)
    (.validation (fieldName ++ "_invalid"))
  return normalized

/-- The constructor of `DeliveryTarget`, with its `__post_init__`. -/
def deliveryTarget (channel accountId conversationId : String) :
    Except ResponsePersistenceError DeliveryTarget := do
  let channel ← requiredString channel "channel" 64
  let accountId ← requiredString accountId "account_id" 255
  let conversationId ← requiredString conversationId "conversation_id" 255
  return ⟨channel, accountId, conversationId⟩

/-- The target both paths build from the message. -/
def messageTarget (message : DispatchMessage) : Except ResponsePersistenceError DeliveryTarget :=
  deliveryTarget message.source message.sourceAccountId message.conversationId

/-! ## The two paths -/

/-- The rows both paths read and write. -/
structure Database where
  messages : List DispatchMessage
  dispatch : DispatchTables
  delivery : DeliveryTables

/-- `save_generated` on the database. -/
def Database.saveGenerated (digests : Digests) (outcome : HermesDispatchOutcome)
    (target : DeliveryTarget) (deliveryId : ℕ) (now : Timestamp) (database : Database) :
    Except ResponsePersistenceError (Database × DeliveryOutboxRecord × Bool) := do
  let (tables, delivery, created) ←
    Response.saveGenerated digests outcome target deliveryId now database.delivery
  return ({ database with delivery := tables }, delivery, created)

/-- The checks of `process` on the thread of the response. -/
def checkThread (database : Database) (response : HermesDispatchOutcome) :
    Except ResponsePersistenceError Unit :=
  match database.dispatch.threads.find? fun thread => thread.id = response.aiThreadId with
  | none => .error (.validation "ai_thread_not_found")
  | some thread => do
    raiseIf (thread.threadType = .privateThread ∧ thread.workspaceId ≠ response.workspaceId)
      (.validation "ai_thread_workspace_mismatch")
    raiseIf (thread.status ≠ .active) (.validation "ai_thread_unavailable")

/-- `ResponsePersistenceProcessor.process`. -/
def process (digests : Digests) (response : HermesDispatchOutcome) (deliveryId : ℕ)
    (now : Timestamp) (database : Database) :
    Except ResponsePersistenceError (Database × DeliveryOutboxRecord × Bool) :=
  match database.messages.find? fun message => message.id = response.messageId with
  | none => .error (.validation "message_not_found")
  | some message => do
    checkThread database response
    raiseIf (message.source ≠ "wechat") (.validation "unsupported_channel")
    let target ← messageTarget message
    database.saveGenerated digests response target deliveryId now

/-- The JSON column of a raw result. -/
def payload (response : HermesDispatchResponse) : Option JsonValue :=
  response.responsePayload.map ResponseEnvelope.modelDump

/-- The envelope of `to_outcome`: both `NULL` and a JSON `null` are read as `None`. -/
def storedEnvelope : Option JsonValue → Except ValidationError (Option ResponseEnvelope)
  | none => .ok none
  | some .null => .ok none
  | some value => (ResponseEnvelope.modelValidate value).map some

/-- `HermesDispatchResponseStore.to_outcome`, for a row whose JSON column may hold anything. -/
def toStoredOutcome (payload : Option JsonValue) (response : HermesDispatchResponse)
    (record : HermesDispatchRecord) : Except ValidationError HermesDispatchOutcome := do
  let envelope ← storedEnvelope payload
  return {
    messageId := record.messageId
    workspaceId := record.workspaceId
    aiThreadId := record.aiThreadId
    assistantContent := response.assistantContent
    response := envelope
    requestedHermesThreadId := none
    nextHermesThreadId := none }

/-- `to_outcome` for a row that the gateway has written itself. -/
def toOutcome (response : HermesDispatchResponse) (record : HermesDispatchRecord) :
    Except ValidationError HermesDispatchOutcome :=
  toStoredOutcome (payload response) response record

/-- The joined rows of `_reconcile_candidate`. -/
def reconciliationRow (database : Database) (recordId : ℕ) :
    Option (HermesDispatchRecord × HermesDispatchResponse × DispatchMessage) := do
  let record ← database.dispatch.records.find? fun record => record.id = recordId
  guard (record.status = .success)
  let response ← database.dispatch.responses.find? fun response =>
    response.dispatchRecordId = record.id
  let message ← database.messages.find? fun message => message.id = record.messageId
  guard (message.source = "wechat")
  return (record, response, message)

/-- What `_reconcile_candidate` raises. -/
inductive ReconciliationError
  | payload
  | response (error : ResponsePersistenceError)
  deriving DecidableEq, Repr

/-- `_reconcile_candidate` up to its last statement: the database and whether a delivery was
created. -/
def reconcileStored (payloadOf : HermesDispatchResponse → Option JsonValue) (digests : Digests)
    (recordId deliveryId : ℕ) (now : Timestamp) (database : Database) :
    Except ReconciliationError (Database × Bool) :=
  match reconciliationRow database recordId with
  | none => .ok (database, false)
  | some (record, response, message) =>
    match toStoredOutcome (payloadOf response) response record with
    | .error _ => .error .payload
    | .ok outcome =>
      match messageTarget message >>= fun target =>
          database.saveGenerated digests outcome target deliveryId now with
      | .error error => .error (.response error)
      | .ok (saved, _, created) => .ok (saved, created)

/-- `_reconcile_candidate` on rows that the gateway has written itself. -/
def reconcileCandidate : Digests → ℕ → ℕ → Timestamp → Database →
    Except ReconciliationError (Database × Bool) :=
  reconcileStored payload

/-! ## Agreement -/

/-- The database after the scan has created a delivery for the record. -/
def reconcileCreates? (digests : Digests) (recordId deliveryId : ℕ) (now : Timestamp)
    (database : Database) : Option Database :=
  match reconcileCandidate digests recordId deliveryId now database with
  | .ok (saved, true) => some saved
  | _ => none

/-- The database after the processor has created a delivery for the response. -/
def processCreates? (digests : Digests) (response : HermesDispatchOutcome) (deliveryId : ℕ)
    (now : Timestamp) (database : Database) : Option Database :=
  match process digests response deliveryId now database with
  | .ok (saved, _, true) => some saved
  | _ => none

/-- The thread of the response still takes it: it is active and, when it is a private one, in the
workspace of the response. -/
def ThreadServes (database : Database) (response : HermesDispatchOutcome) : Prop :=
  ∃ thread, (database.dispatch.threads.find? fun thread => thread.id = response.aiThreadId) =
      some thread ∧ thread.status = .active ∧
    (thread.threadType = .privateThread → thread.workspaceId = response.workspaceId)

lemma checkThread_cases (database : Database) (response : HermesDispatchOutcome) :
    ThreadServes database response ∧ checkThread database response = .ok () ∨
    ¬ ThreadServes database response ∧ ∃ error, checkThread database response = .error error := by
  unfold ThreadServes checkThread
  cases hthread : database.dispatch.threads.find? fun thread => thread.id = response.aiThreadId with
  | none =>
    refine Or.inr ⟨?_, _, rfl⟩
    rintro ⟨thread, hsome, -⟩
    cases hsome
  | some thread =>
    by_cases hprivate : thread.threadType = .privateThread ∧
        thread.workspaceId ≠ response.workspaceId
    · refine Or.inr ⟨?_, ?_⟩
      · rintro ⟨other, hother, -, hworkspace⟩
        cases hother
        exact hprivate.2 (hworkspace hprivate.1)
      · exact ⟨_, by simp only [raiseIf, if_pos hprivate]; rfl⟩
    · by_cases hactive : thread.status = .active
      · refine Or.inl ⟨⟨thread, rfl, hactive, ?_⟩, ?_⟩
        · intro htype
          by_contra hworkspace
          exact hprivate ⟨htype, hworkspace⟩
        · simp only [raiseIf, if_neg hprivate, hactive]
          rfl
      · refine Or.inr ⟨?_, ?_⟩
        · rintro ⟨other, hother, hstatus, -⟩
          cases hother
          exact hactive hstatus
        · exact ⟨_, by simp only [raiseIf, if_neg hprivate, if_pos hactive]; rfl⟩

/-! ## Rows for which nothing is created -/

/-- A text that `_required_string` refuses. -/
def RefusedText (value : String) (maxLength : ℕ) : Prop :=
  IsBlank value ∨ maxLength < (strip value).length ∨ (strip value).toList.any isControl = true

/-- A message that is no target. -/
def TargetRefused (message : DispatchMessage) : Prop :=
  RefusedText message.source 64 ∨ RefusedText message.sourceAccountId 255 ∨
    RefusedText message.conversationId 255

/-- A result without content, or for a message id that is not positive. -/
def ContentRefused (outcome : HermesDispatchOutcome) : Prop :=
  outcome.messageId ≤ 0 ∨ outcome.response = none ∧ outcome.assistantContent = ""

/-- The stored rows leave no room for a new delivery: the response of the message differs, it has a
delivery, or a unique key of the rows to insert is taken. -/
def Uncreatable (request : SaveRequest) (deliveryId : ℕ) (now : Timestamp)
    (tables : DeliveryTables) : Prop :=
  match tables.responses.find? fun response => response.idempotencyKey = request.idempotencyKey with
  | some existing => Differs existing request ∨
      (∃ delivery ∈ tables.deliveries, delivery.responseId = existing.responseId) ∨
      ∃ other ∈ tables.deliveries,
        DeliveryClashesWith (request.newDelivery deliveryId existing.responseId now) other
  | none => (∃ other ∈ tables.responses, ResponseClashesWith (request.newResponse now) other) ∨
      ∃ other ∈ tables.deliveries,
        DeliveryClashesWith (request.newDelivery deliveryId request.envelope.responseId now) other

/-- There is no delivery to create for a result of the message: the message is missing or from
elsewhere, it is no target, the result has no content, or the stored rows leave no room. -/
def NothingToCreate (digests : Digests) (outcome : HermesDispatchOutcome) (deliveryId : ℕ)
    (now : Timestamp) (database : Database) : Prop :=
  ∀ message, (database.messages.find? fun message => message.id = outcome.messageId) =
      some message → message.source = "wechat" →
    TargetRefused message ∨ ContentRefused outcome ∨
      ∃ request, (messageTarget message >>= digests.saveRequest outcome) = .ok request ∧
        Uncreatable request deliveryId now database.delivery

section Refusals

variable {digests : Digests} {database : Database} {message : DispatchMessage}
  {outcome : HermesDispatchOutcome} {request : SaveRequest} {existing : ResponseRecord}
  {tables : DeliveryTables} {deliveryId : ℕ} {now : Timestamp}

lemma requiredString_cases (value fieldName : String) (maxLength : ℕ) :
    (RefusedText value maxLength ∧
      ∃ reason, requiredString value fieldName maxLength = .error (.validation reason)) ∨
    ¬ RefusedText value maxLength ∧ requiredString value fieldName maxLength = .ok (strip value) := by
  unfold requiredString RefusedText
  by_cases hblank : IsBlank value
  · rw [raiseIf_of hblank]
    exact Or.inl ⟨Or.inl hblank, _, rfl⟩
  · rw [raiseIf_of_not hblank]
    by_cases hbad : maxLength < (strip value).length ∨ (strip value).toList.any isControl = true
    · exact Or.inl ⟨Or.inr hbad, _, by dsimp only [Bind.bind, Except.bind]; rw [raiseIf_of hbad]⟩
    · refine Or.inr ⟨fun h => h.elim hblank hbad, ?_⟩
      dsimp only [Bind.bind, Except.bind]
      rw [raiseIf_of_not hbad]
      rfl

/-- The first stage goes through, or the message or the result is refused by the gateway itself. -/
lemma saveRequest_cases (digests : Digests) (message : DispatchMessage)
    (outcome : HermesDispatchOutcome) :
    ((TargetRefused message ∨ ContentRefused outcome) ∧
      ∃ reason, (messageTarget message >>= digests.saveRequest outcome) =
        .error (.validation reason)) ∨
    ¬ (TargetRefused message ∨ ContentRefused outcome) ∧
      ∃ request, (messageTarget message >>= digests.saveRequest outcome) = .ok request := by
  have htarget : (TargetRefused message ∧
      ∃ reason, messageTarget message = .error (.validation reason)) ∨
      ¬ TargetRefused message ∧ ∃ target, messageTarget message = .ok target := by
    unfold messageTarget deliveryTarget TargetRefused
    rcases requiredString_cases message.source "channel" 64 with ⟨h, _, h'⟩ | ⟨h, h'⟩ <;> rw [h']
    · exact Or.inl ⟨Or.inl h, _, rfl⟩
    rcases requiredString_cases message.sourceAccountId "account_id" 255 with
      ⟨h₁, _, h'⟩ | ⟨h₁, h'⟩ <;> dsimp only [Bind.bind, Except.bind] <;> rw [h']
    · exact Or.inl ⟨Or.inr (Or.inl h₁), _, rfl⟩
    rcases requiredString_cases message.conversationId "conversation_id" 255 with
      ⟨h₂, _, h'⟩ | ⟨h₂, h'⟩ <;> dsimp only <;> rw [h']
    · exact Or.inl ⟨Or.inr (Or.inr h₂), _, rfl⟩
    · exact Or.inr ⟨fun hrefused => hrefused.elim h fun hrefused => hrefused.elim h₁ h₂, _, rfl⟩
  rcases htarget with ⟨hrefused, reason, hraised⟩ | ⟨hrefused, target, htarget⟩
  · exact Or.inl ⟨Or.inl hrefused, reason, by rw [hraised]; rfl⟩
  rw [htarget]
  change _ ∧ (∃ reason, digests.saveRequest outcome target = _) ∨
    _ ∧ ∃ request, digests.saveRequest outcome target = _
  unfold Digests.saveRequest responseEnvelope buildStableResponseId buildResponseIdempotencyKey
    positiveMessageId ContentRefused
  by_cases hid : outcome.messageId ≤ 0
  · rw [raiseIf_of hid]
    refine Or.inl ⟨Or.inr (Or.inl hid), ?_⟩
    cases outcome.response with
    | some envelope => exact ⟨_, rfl⟩
    | none =>
      by_cases hempty : outcome.assistantContent = ""
      · exact ⟨_, by simp only [raiseIf_of hempty]; rfl⟩
      · exact ⟨_, by simp only [raiseIf_of_not hempty]; rfl⟩
  · rw [raiseIf_of_not hid]
    cases outcome.response with
    | some envelope => exact Or.inr ⟨by simp [hrefused, hid], _, rfl⟩
    | none =>
      by_cases hempty : outcome.assistantContent = ""
      · exact Or.inl ⟨Or.inr (Or.inr ⟨rfl, hempty⟩), _, by simp only [raiseIf_of hempty]; rfl⟩
      · exact Or.inr ⟨by simp [hrefused, hid, hempty], _, by simp only [raiseIf_of_not hempty]; rfl⟩

/-- With a compatible response and no delivery of it, one is inserted unless a key is taken. -/
lemma saveExisting_missing (hcompatible : ¬ Differs existing request)
    (hmissing : ∀ row ∈ tables.deliveries, row.responseId ≠ existing.responseId) :
    saveExisting request existing deliveryId now tables = (do
      let delivery := request.newDelivery deliveryId existing.responseId now
      raiseIf (∃ other ∈ tables.deliveries, DeliveryClashesWith delivery other) .integrity
      return ({ tables with deliveries := tables.deliveries ++ [delivery] }, delivery, true)) := by
  have hfirst : (tables.deliveries.find? fun row => row.responseId = existing.responseId ∧
      row.channel = request.target.channel ∧ row.targetKey = request.targetKey) = none :=
    List.find?_eq_none.mpr fun row hrow => by simp [hmissing row hrow]
  have hsecond : (tables.deliveries.find? fun row =>
      row.responseId = existing.responseId) = none :=
    List.find?_eq_none.mpr fun row hrow => by simp [hmissing row hrow]
  rw [saveExisting, requireCompatibleResponse, raiseIf_of_not hcompatible, hfirst]
  dsimp only [Bind.bind, Except.bind]
  rw [createMissingDelivery, hsecond]
  rfl

/-- The second stage creates a delivery exactly when the stored rows leave room for it. -/
lemma saveRequested_creates_iff :
    (∃ saved delivery, saveRequested request deliveryId now tables = .ok (saved, delivery, true)) ↔
      ¬ Uncreatable request deliveryId now tables := by
  unfold saveRequested Uncreatable
  cases hfind : tables.responses.find? fun response =>
      response.idempotencyKey = request.idempotencyKey with
  | none =>
    simp only [saveNew]
    by_cases hclash : (∃ other ∈ tables.responses, ResponseClashesWith (request.newResponse now)
        other) ∨ ∃ other ∈ tables.deliveries, DeliveryClashesWith
          (request.newDelivery deliveryId request.envelope.responseId now) other
    · rw [raiseIf_of hclash]
      exact iff_of_false (by rintro ⟨_, _, h⟩; cases h) (not_not.mpr hclash)
    · rw [raiseIf_of_not hclash]
      exact iff_of_true ⟨_, _, rfl⟩ hclash
  | some existing =>
    dsimp only
    by_cases hdiffers : Differs existing request
    · rw [saveExisting, requireCompatibleResponse, raiseIf_of hdiffers]
      exact iff_of_false (by rintro ⟨_, _, h⟩; cases h) (not_not.mpr (Or.inl hdiffers))
    by_cases hthere : ∃ delivery ∈ tables.deliveries, delivery.responseId = existing.responseId
    · -- whichever lookup finds the delivery, nothing is created
      refine iff_of_false ?_ (not_not.mpr (Or.inr (Or.inl hthere)))
      rintro ⟨saved, delivery, h⟩
      obtain ⟨-, -, h⟩ := bind_eq_ok.mp h
      split at h
      · unfold createMissingDelivery at h
        split at h
        · obtain ⟨-, -, h⟩ := bind_eq_ok.mp h
          cases h
        · rename_i hnone
          obtain ⟨row, hrow, hof⟩ := hthere
          exact List.find?_eq_none.mp hnone row hrow (decide_eq_true hof)
      · obtain ⟨-, -, h⟩ := bind_eq_ok.mp h
        cases h
    · rw [saveExisting_missing hdiffers fun row hrow hof => hthere ⟨row, hrow, hof⟩]
      by_cases hclash : ∃ other ∈ tables.deliveries, DeliveryClashesWith
          (request.newDelivery deliveryId existing.responseId now) other
      · dsimp only
        rw [raiseIf_of hclash]
        exact iff_of_false (by rintro ⟨_, _, h⟩; cases h) (not_not.mpr (Or.inr (Or.inr hclash)))
      · dsimp only
        rw [raiseIf_of_not hclash]
        exact iff_of_true ⟨_, _, rfl⟩ (by simp only [hdiffers, hthere, hclash, or_self,
          not_false_eq_true])

/-- A repair in two stages: what it computes from the rows of the record, and what it saves. -/
lemma reconcileStored_eq {payloadOf : HermesDispatchResponse → Option JsonValue} {recordId : ℕ}
    {record : HermesDispatchRecord} {raw : HermesDispatchResponse}
    (hrow : reconciliationRow database recordId = some (record, raw, message)) :
    reconcileStored payloadOf digests recordId deliveryId now database =
      match toStoredOutcome (payloadOf raw) raw record with
      | .error _ => .error .payload
      | .ok outcome =>
        match messageTarget message >>= digests.saveRequest outcome with
        | .error error => .error (.response error)
        | .ok request =>
          match saveRequested request deliveryId now database.delivery with
          | .error error => .error (.response error)
          | .ok (delivery, _, created) => .ok ({ database with delivery }, created) := by
  unfold reconcileStored
  simp only [hrow]
  cases toStoredOutcome (payloadOf raw) raw record with
  | error error => rfl
  | ok outcome =>
    dsimp only
    cases messageTarget message with
    | error error => rfl
    | ok target =>
      dsimp only [Bind.bind, Except.bind, Database.saveGenerated, saveGenerated]
      cases digests.saveRequest outcome target with
      | error error => rfl
      | ok request =>
        dsimp only
        cases saveRequested request deliveryId now database.delivery <;> rfl

end Refusals

section Agreement

variable {digests : Digests} {database : Database} {recordId deliveryId : ℕ} {now : Timestamp}
  {record : HermesDispatchRecord} {raw : HermesDispatchResponse}
  {outcome : HermesDispatchOutcome}

lemma toStoredOutcome_messageId {stored : Option JsonValue}
    (h : toStoredOutcome stored raw record = .ok outcome) :
    outcome.messageId = record.messageId := by
  simp only [toStoredOutcome, bind_eq_ok] at h
  obtain ⟨envelope, -, h⟩ := h
  cases h
  rfl

section Stored

variable
    (hrecord : (database.dispatch.records.find? fun record => record.id = recordId) = some record)
    (hstatus : record.status = .success)
    (hraw : (database.dispatch.responses.find? fun response =>
      response.dispatchRecordId = record.id) = some raw)
include hrecord hstatus hraw

/-- The row of a record that has succeeded with a stored result is there when its message came
from the channel. -/
lemma reconciliationRow_eq :
    reconciliationRow database recordId =
      match database.messages.find? fun message => message.id = record.messageId with
      | some message => if message.source = "wechat" then some (record, raw, message) else none
      | none => none := by
  unfold reconciliationRow
  cases hmessage : database.messages.find? fun message => message.id = record.messageId with
  | none => simp [hrecord, hstatus, hraw, hmessage]
  | some message =>
    by_cases hsource : message.source = "wechat" <;>
      simp [hrecord, hstatus, hraw, hmessage, hsource, guard]

/-- Once the thread checks have passed the processor does what the scan does. -/
lemma processCreates?_eq (digests : Digests) (deliveryId : ℕ) (now : Timestamp)
    (houtcome : toOutcome raw record = .ok outcome)
    (hthread : checkThread database outcome = .ok ()) :
    processCreates? digests outcome deliveryId now database =
      reconcileCreates? digests recordId deliveryId now database := by
  unfold processCreates? reconcileCreates? process reconcileCandidate reconcileStored
  rw [reconciliationRow_eq hrecord hstatus hraw, toStoredOutcome_messageId houtcome]
  unfold toOutcome at houtcome
  cases database.messages.find? fun message => message.id = record.messageId with
  | none => rfl
  | some message =>
    by_cases hsource : message.source = "wechat"
    · simp only [hthread, houtcome, hsource, if_true, ne_eq, not_true_eq_false, raiseIf, if_false]
      dsimp only [Bind.bind, Except.bind]
      cases messageTarget message with
      | error error => rfl
      | ok target =>
        dsimp only
        cases database.saveGenerated digests outcome target deliveryId now with
        | error error => rfl
        | ok saved =>
          obtain ⟨tables, delivery, created⟩ := saved
          cases created <;> rfl
    · simp only [hthread, hsource, if_false, ne_eq, not_false_eq_true, raiseIf, if_true]
      rfl

/-- The scan creates nothing exactly when there is nothing to create. -/
lemma reconcileCreates?_eq_none_iff (houtcome : toOutcome raw record = .ok outcome) :
    reconcileCreates? digests recordId deliveryId now database = none ↔
      NothingToCreate digests outcome deliveryId now database := by
  have hrow := reconciliationRow_eq hrecord hstatus hraw
  unfold reconcileCreates? reconcileCandidate NothingToCreate
  rw [toStoredOutcome_messageId houtcome]
  unfold toOutcome at houtcome
  cases hmessage : database.messages.find? fun message => message.id = record.messageId with
  | none =>
    rw [hmessage] at hrow
    simp only [reconcileStored, hrow]
    exact iff_of_true trivial fun _ hsome => by cases hsome
  | some message =>
    rw [hmessage] at hrow
    by_cases hsource : message.source = "wechat"
    · simp only [hsource, if_true] at hrow
      simp only [reconcileStored_eq hrow, houtcome]
      rcases saveRequest_cases digests message outcome with ⟨hrefused, reason, hraised⟩ |
        ⟨hrefused, request, hrequest⟩
      -- a target or content that is refused raises before anything is saved
      · rw [hraised]
        refine iff_of_true rfl fun _ hsome _ => ?_
        cases hsome
        exact hrefused.imp_right Or.inl
      · rw [hrequest]
        have hroom : (∀ found, some message = some found → found.source = "wechat" →
            TargetRefused found ∨ ContentRefused outcome ∨
              ∃ request, (messageTarget found >>= digests.saveRequest outcome) = .ok request ∧
                Uncreatable request deliveryId now database.delivery) ↔
            Uncreatable request deliveryId now database.delivery := by
          constructor
          · intro h
            rcases h message rfl hsource with htarget | hcontent | ⟨other, hother, hroom⟩
            · exact absurd (Or.inl htarget) hrefused
            · exact absurd (Or.inr hcontent) hrefused
            · cases hrequest.symm.trans hother
              exact hroom
          · rintro h _ ⟨⟩ -
            exact Or.inr (Or.inr ⟨request, hrequest, h⟩)
        rw [hroom, ← not_not (a := Uncreatable request deliveryId now database.delivery),
          ← saveRequested_creates_iff]
        dsimp only
        cases saveRequested request deliveryId now database.delivery with
        | error error => exact iff_of_true rfl (by rintro ⟨_, _, h⟩; cases h)
        | ok saved =>
          obtain ⟨saved, delivery, _ | _⟩ := saved
          · exact iff_of_true rfl (by rintro ⟨_, _, h⟩; cases h)
          · exact iff_of_false nofun (not_not.mpr ⟨_, _, rfl⟩)
    · simp only [hsource, if_false] at hrow
      simp only [reconcileStored, hrow]
      exact iff_of_true trivial fun _ hsome hother => by cases hsome; exact absurd hother hsource

end Stored

end Agreement

/-- A message whose dispatch has succeeded with a plain text, and its thread. -/
def succeededDatabase (status : ResourceStatus) : Database where
  messages := [⟨7, "wechat", "account", "chat", "private", some "sender", "question"⟩]
  dispatch := {
    records := [{ newRecord ⟨7, "identity", "workspace", "thread"⟩ 1 0 with status := .success }]
    threads := [⟨"thread", "workspace", none, .privateThread, none, "key", status, none⟩]
    responses := [⟨1, 1, none, "answer", none⟩]
    audits := [] }
  delivery := ⟨[], [], [], []⟩

/-- What the stored result of `succeededDatabase` stands for. -/
def succeededOutcome : HermesDispatchOutcome where
  messageId := 7
  workspaceId := "workspace"
  aiThreadId := "thread"
  assistantContent := "answer"
  response := none
  requestedHermesThreadId := none
  nextHermesThreadId := none

end AgentGateway.Response
