import AgentGateway.Delivery.Tables

/-!
# The delivery outbox store

The calls of `DeliveryOutboxStore`, each as the transaction it commits. Every call validates, reads
its rows, and then writes them under guards that pin the status and the claim token.

A call that misses its guard raises `DeliveryStateConflictError`. The two constructors
`stateConflict` and `responseConflict` are that one class; the second marks the branches in which
the delivery was updated and the response row had the wrong status.
-/

namespace AgentGateway.Delivery

open Lib Lib.Table

/-- What a store call raises. -/
inductive DeliveryStoreError
  | stateConflict (deliveryId : ℕ) (expectedStatus : String)
  | responseConflict (deliveryId : ℕ) (expectedStatus : String)
  | value (message : String)
  | integrity
  deriving DecidableEq, Repr

def maxClaimTokenLength : ℕ := 255

def maxErrorCodeLength : ℕ := 128

def maxChannelLength : ℕ := 64

/-- `_required_string`: the stripped value. -/
def requiredString (value fieldName : String) (maxLength : ℕ) :
    Except DeliveryStoreError String := do
  raiseIf (IsBlank value) (.value (fieldName ++ " must not be empty"))
  raiseIf (maxLength < (strip value).length) (.value (fieldName ++ " is too long"))
  return strip value

/-- `get`. -/
def get (deliveryId : ℕ) (tables : DeliveryTables) : Option DeliveryOutboxRecord :=
  tables.deliveries.find? fun delivery => delivery.id = deliveryId

/-- `_required`. -/
def requiredDelivery (deliveryId : ℕ) (tables : DeliveryTables) :
    Except DeliveryStoreError DeliveryOutboxRecord :=
  match get deliveryId tables with
  | none => .error (.stateConflict deliveryId "present")
  | some delivery => .ok delivery

/-- `_claimed`. It compares the stripped token; the guards of the updates use the token as it
came. -/
def claimedDelivery (deliveryId : ℕ) (claimToken : String) (tables : DeliveryTables) :
    Except DeliveryStoreError DeliveryOutboxRecord := do
  let token ← requiredString claimToken "claim_token" maxClaimTokenLength
  let delivery ← requiredDelivery deliveryId tables
  raiseIf (delivery.status ≠ .delivering ∨ delivery.claimToken ≠ some token)
    (.stateConflict deliveryId DeliveryStatus.delivering.value)
  return delivery

/-- An attempt that is on its way, for a part of a delivery. -/
def IsActive (deliveryId partOrdinal : ℕ) (attempt : DeliveryAttempt) : Prop :=
  attempt.deliveryId = deliveryId ∧ attempt.partOrdinal = partOrdinal ∧
    attempt.status = .delivering

instance (deliveryId partOrdinal : ℕ) : DecidablePred (IsActive deliveryId partOrdinal) :=
  fun _ => inferInstanceAs (Decidable (_ ∧ _ ∧ _))

/-- `_active_attempt`: the one with the largest id. -/
def activeAttempt (deliveryId partOrdinal : ℕ) (tables : DeliveryTables) :
    Option DeliveryAttempt :=
  ((tables.attempts.filter fun attempt => IsActive deliveryId partOrdinal attempt).insertionSort
    fun a b => b.id ≤ a.id).head?

/-- `_required_attempt`. -/
def requiredAttempt (attemptId deliveryId partOrdinal : ℕ) (tables : DeliveryTables) :
    Except DeliveryStoreError DeliveryAttempt :=
  match tables.attempts.find? fun attempt => attempt.id = attemptId with
  | none => .error (.stateConflict deliveryId "matching_attempt")
  | some attempt => do
    raiseIf (attempt.deliveryId ≠ deliveryId ∨ attempt.partOrdinal ≠ partOrdinal)
      (.stateConflict deliveryId "matching_attempt")
    return attempt

/-- `get_receipt`. -/
def getReceipt (deliveryId partOrdinal : ℕ) (tables : DeliveryTables) : Option DeliveryReceipt :=
  tables.receipts.find? fun receipt =>
    receipt.deliveryId = deliveryId ∧ receipt.partOrdinal = partOrdinal

/-- A guarded update of one delivery, or the conflict. -/
def updateDelivery (deliveryId : ℕ) (expectedStatus : String)
    (guard : DeliveryOutboxRecord → Prop) [DecidablePred guard]
    (values : DeliveryOutboxRecord → DeliveryOutboxRecord)
    (deliveries : List DeliveryOutboxRecord) :
    Except DeliveryStoreError (List DeliveryOutboxRecord) :=
  match guardedUpdate (fun row => row.id = deliveryId ∧ guard row) values deliveries with
  | some updated => .ok updated
  | none => .error (.stateConflict deliveryId expectedStatus)

/-- The update of the response that belongs to a delivery, or the conflict. -/
def updateResponse (deliveryId : ℕ) (expectedStatus : ResponseStatus) (responseId : String)
    (statuses : List ResponseStatus) (values : ResponseRecord → ResponseRecord)
    (responses : List ResponseRecord) : Except DeliveryStoreError (List ResponseRecord) :=
  match guardedUpdate (fun row => row.responseId = responseId ∧ row.status ∈ statuses) values
      responses with
  | some updated => .ok updated
  | none => .error (.responseConflict deliveryId expectedStatus.value)

/-! ## Claims -/

/-- The `WHERE` clause of `claim_next`. -/
def ClaimableAt (channel : String) (now : Timestamp) (delivery : DeliveryOutboxRecord) : Prop :=
  delivery.status = .queued ∧ delivery.channel = channel ∧ delivery.availableAt ≤ now

instance (channel : String) (now : Timestamp) : DecidablePred (ClaimableAt channel now) :=
  fun _ => inferInstanceAs (Decidable (_ ∧ _ ∧ _))

/-- The order of the queue. -/
def QueueOrder (a b : DeliveryOutboxRecord) : Prop :=
  a.availableAt < b.availableAt ∨ a.availableAt = b.availableAt ∧
    (a.createdAt < b.createdAt ∨ a.createdAt = b.createdAt ∧ a.id ≤ b.id)

instance : DecidableRel QueueOrder := fun _ _ =>
  inferInstanceAs (Decidable (_ ∨ _ ∧ (_ ∨ _ ∧ _)))

/-- The `SELECT … LIMIT 1` of `claim_next`. -/
def nextDelivery (channel : String) (now : Timestamp) (tables : DeliveryTables) : Option ℕ :=
  (((tables.deliveries.filter fun delivery => ClaimableAt channel now delivery).insertionSort
    QueueOrder).head?).map fun delivery => delivery.id

/-- The row after a claim. -/
def DeliveryOutboxRecord.claimed (delivery : DeliveryOutboxRecord) (token : String)
    (now : Timestamp) : DeliveryOutboxRecord :=
  { delivery with
    status := .delivering
    attemptCount := delivery.attemptCount + 1
    claimToken := some token
    claimedAt := some now
    completedAt := none
    lastErrorCode := none }

/-- The response after a claim. -/
def ResponseRecord.claimed (response : ResponseRecord) (now : Timestamp) : ResponseRecord :=
  { response with
    status := .delivering
    deliveringAt := response.deliveringAt.or (some now)
    lastErrorCode := none }

/-- The transaction of `claim_next` on the delivery it has picked. Nothing when somebody else was
faster. -/
def claimDelivery (deliveryId : ℕ) (channel token : String) (now : Timestamp)
    (tables : DeliveryTables) : Except DeliveryStoreError (Option DeliveryTables) :=
  match guardedUpdate (fun row => row.id = deliveryId ∧ ClaimableAt channel now row)
      (fun row => row.claimed token now) tables.deliveries with
  | none => .ok none
  | some deliveries =>
    -- the response id is read back from the row
    match deliveries.find? fun row => row.id = deliveryId with
    | none => .error (.responseConflict deliveryId ResponseStatus.generated.value)
    | some delivery => do
      let responses ← updateResponse deliveryId .generated delivery.responseId
        [.generated, .delivering]
        (fun row => row.claimed now) tables.responses
      return some { tables with responses := responses, deliveries := deliveries }

/-- The tries of `claim_next`. -/
def claimTries (channel token : String) (now : Timestamp) :
    ℕ → DeliveryTables → Except DeliveryStoreError (DeliveryTables × Option ℕ)
  | 0, tables => .ok (tables, none)
  | tries + 1, tables =>
    match nextDelivery channel now tables with
    | none => .ok (tables, none)
    | some deliveryId =>
      match claimDelivery deliveryId channel token now tables with
      | .error error => .error error
      | .ok (some claimed) => .ok (claimed, some deliveryId)
      | .ok none => claimTries channel token now tries tables

/-- `claim_next`: the tables and the delivery that has been claimed, if any. -/
def claimNext (channel claimToken : String) (now : Timestamp) (tables : DeliveryTables) :
    Except DeliveryStoreError (DeliveryTables × Option ℕ) := do
  let channel ← requiredString channel "channel" maxChannelLength
  let token ← requiredString claimToken "claim_token" maxClaimTokenLength
  claimTries channel token now 8 tables

/-! ## Stale claims -/

/-- The `WHERE` clause of the scan for stale claims. -/
def IsStale (channel : String) (cutoff : Timestamp) (delivery : DeliveryOutboxRecord) : Prop :=
  delivery.channel = channel ∧ delivery.status = .delivering ∧ delivery.claimToken ≠ none ∧
    ∃ claimedAt ∈ delivery.claimedAt, claimedAt ≤ cutoff

instance (channel : String) (cutoff : Timestamp) : DecidablePred (IsStale channel cutoff) :=
  fun _ => inferInstanceAs (Decidable (_ ∧ _ ∧ _ ∧ _))

def expiredClaimError : String := "delivery_claim_expired"

/-- The row after a stale claim has been taken back. -/
def DeliveryOutboxRecord.reclaimed (delivery : DeliveryOutboxRecord) (inFlight : Bool)
    (now : Timestamp) : DeliveryOutboxRecord :=
  { delivery with
    status := if inFlight then .uncertain else .queued
    availableAt := now
    claimToken := none
    claimedAt := none
    completedAt := if inFlight then some now else none
    lastErrorCode := if inFlight then some expiredClaimError else none }

/-- The attempt after its outcome has been given up. -/
def DeliveryAttempt.expired (attempt : DeliveryAttempt) (now : Timestamp) : DeliveryAttempt :=
  { attempt with
    status := .uncertain
    errorCode := some expiredClaimError
    completedAt := some now }

/-- The response of a delivery whose attempt has been given up. -/
def ResponseRecord.expired (response : ResponseRecord) (now : Timestamp) : ResponseRecord :=
  { response with
    status := .uncertain
    uncertainAt := some now
    lastErrorCode := some expiredClaimError }

/-- The response of a delivery that goes back to the queue. -/
def ResponseRecord.released (response : ResponseRecord) (nextPartOrdinal : ℕ) : ResponseRecord :=
  { response with
    status := if nextPartOrdinal = 0 then .generated else .delivering
    lastErrorCode := none }

/-- The guarded update of the delivery a stale claim is taken back from. -/
def StaleUnder (channel token : String) (cutoff : Timestamp) (row : DeliveryOutboxRecord) : Prop :=
  row.channel = channel ∧ row.status = .delivering ∧ row.claimToken = some token ∧
    ∃ claimedAt ∈ row.claimedAt, claimedAt ≤ cutoff

instance (channel token : String) (cutoff : Timestamp) :
    DecidablePred (StaleUnder channel token cutoff) :=
  fun _ => inferInstanceAs (Decidable (_ ∧ _ ∧ _ ∧ _))

/-- The transaction of `recover_stale_claims` on one delivery, once its row and its active attempt
have been read. Nothing when one of the guarded updates misses. -/
def reclaimDelivery (delivery : DeliveryOutboxRecord) (active : Option DeliveryAttempt)
    (channel token : String) (cutoff now : Timestamp) (tables : DeliveryTables) :
    Except DeliveryStoreError (Option DeliveryTables) :=
  match guardedUpdate (fun row => row.id = delivery.id ∧ StaleUnder channel token cutoff row)
      (fun row => row.reclaimed active.isSome now) tables.deliveries with
  | none => .ok none
  | some deliveries =>
    match active with
    | some attempt =>
      match guardedUpdate
          (fun row : DeliveryAttempt => row.id = attempt.id ∧ row.status = .delivering)
          (fun row => row.expired now) tables.attempts with
      | none => .ok none
      | some attempts => do
        let responses ← updateResponse delivery.id .delivering delivery.responseId [.delivering]
          (fun row => row.expired now) tables.responses
        return some { tables with
          responses := responses, deliveries := deliveries, attempts := attempts }
    | none => do
      let responses ← updateResponse delivery.id .delivering delivery.responseId [.delivering]
        (fun row => row.released delivery.nextPartOrdinal) tables.responses
      return some { tables with responses := responses, deliveries := deliveries }

/-- The body of the loop of `recover_stale_claims`, for one delivery of the scan. -/
def recoverClaim (deliveryId : ℕ) (channel : String) (cutoff now : Timestamp)
    (tables : DeliveryTables) : Except DeliveryStoreError DeliveryTables :=
  match get deliveryId tables with
  | none => .ok tables
  | some delivery =>
    match delivery.status, delivery.claimToken with
    | .delivering, some token => do
      let reclaimed ← reclaimDelivery delivery
        (activeAttempt delivery.id delivery.nextPartOrdinal tables) channel token cutoff now tables
      return reclaimed.getD tables
    | _, _ => .ok tables

/-- The scan order of stale claims. -/
def StaleOrder (a b : DeliveryOutboxRecord) : Prop :=
  a.claimedAt.getD 0 < b.claimedAt.getD 0 ∨
    a.claimedAt.getD 0 = b.claimedAt.getD 0 ∧ a.id ≤ b.id

instance : DecidableRel StaleOrder := fun _ _ => inferInstanceAs (Decidable (_ ∨ _ ∧ _))

/-- The scan of `recover_stale_claims`. -/
def staleDeliveries (channel : String) (cutoff : Timestamp) (tables : DeliveryTables) : List ℕ :=
  ((tables.deliveries.filter fun delivery => IsStale channel cutoff delivery).insertionSort
    StaleOrder).map fun delivery => delivery.id

/-- The loop of `recover_stale_claims`. Each delivery is committed on its own; an error ends the
loop and keeps what has been committed before. -/
def recoverClaims (channel : String) (cutoff now : Timestamp) :
    List ℕ → DeliveryTables → DeliveryTables × Option DeliveryStoreError
  | [], tables => (tables, none)
  | deliveryId :: rest, tables =>
    match recoverClaim deliveryId channel cutoff now tables with
    | .error error => (tables, some error)
    | .ok recovered => recoverClaims channel cutoff now rest recovered

/-- `recover_stale_claims`. -/
def recoverStaleClaims (channel : String) (staleBefore now : Timestamp)
    (tables : DeliveryTables) : DeliveryTables × Option DeliveryStoreError :=
  match requiredString channel "channel" maxChannelLength with
  | .error error => (tables, some error)
  | .ok channel =>
    if now < staleBefore then (tables, some (.value "stale_before must not be later than now"))
    else recoverClaims channel staleBefore now (staleDeliveries channel staleBefore tables) tables

/-! ## Attempts -/

/-- `_provider_idempotency_key`. -/
def providerIdempotencyKey (deliveryKey : String) (partOrdinal : ℕ) : String :=
  deliveryKey ++ ":part:" ++ toString partOrdinal

/-- `coalesce(max(attempt_number), 0) + 1`. -/
def nextAttemptNumber (deliveryId partOrdinal : ℕ) (tables : DeliveryTables) : ℕ :=
  ((tables.attempts.filter fun attempt => attempt.deliveryId = deliveryId ∧
    attempt.partOrdinal = partOrdinal).map DeliveryAttempt.attemptNumber).foldr max 0 + 1

/-- The row `start_attempt` inserts. -/
def newAttempt (delivery : DeliveryOutboxRecord) (partOrdinal attemptNumber attemptId : ℕ) :
    DeliveryAttempt where
  id := attemptId
  deliveryId := delivery.id
  partOrdinal := partOrdinal
  attemptNumber := attemptNumber
  providerIdempotencyKey := providerIdempotencyKey delivery.idempotencyKey partOrdinal
  status := .delivering
  providerMessageId := none
  receiptPayload := none
  errorCode := none
  completedAt := none

/-- The unique keys of the attempts. -/
def AttemptClashesWith (attempt other : DeliveryAttempt) : Prop :=
  other.id = attempt.id ∨ other.deliveryId = attempt.deliveryId ∧
    other.partOrdinal = attempt.partOrdinal ∧ other.attemptNumber = attempt.attemptNumber

instance : DecidableRel AttemptClashesWith := fun attempt other =>
  inferInstanceAs (Decidable (other.id = attempt.id ∨ other.deliveryId = attempt.deliveryId ∧
    other.partOrdinal = attempt.partOrdinal ∧ other.attemptNumber = attempt.attemptNumber))

/-- The checks `start_attempt` and `mark_part_delivered` begin with. -/
def claimedPart (deliveryId : ℕ) (claimToken : String) (partOrdinal : ℕ)
    (tables : DeliveryTables) : Except DeliveryStoreError DeliveryOutboxRecord := do
  let delivery ← claimedDelivery deliveryId claimToken tables
  raiseIf (partOrdinal ≠ delivery.nextPartOrdinal)
    (.stateConflict deliveryId ("next_part_" ++ toString delivery.nextPartOrdinal))
  return delivery

/-- The insert of `start_attempt`. An insert that clashes looks for an active attempt again; in a
call of its own it finds what the first look found, nothing. -/
def insertAttempt (attempt : DeliveryAttempt) (tables : DeliveryTables) :
    Except DeliveryStoreError (DeliveryTables × DeliveryAttempt) :=
  if ∃ other ∈ tables.attempts, AttemptClashesWith attempt other then
    match activeAttempt attempt.deliveryId attempt.partOrdinal tables with
    | some existing => .ok (tables, existing)
    | none => .error .integrity
  else .ok ({ tables with attempts := tables.attempts ++ [attempt] }, attempt)

/-- `start_attempt`. -/
def startAttempt (deliveryId : ℕ) (claimToken : String) (partOrdinal attemptId : ℕ)
    (tables : DeliveryTables) : Except DeliveryStoreError (DeliveryTables × DeliveryAttempt) := do
  let delivery ← claimedPart deliveryId claimToken partOrdinal tables
  match activeAttempt deliveryId partOrdinal tables with
  | some existing => return (tables, existing)
  | none => insertAttempt (newAttempt delivery partOrdinal
      (nextAttemptNumber deliveryId partOrdinal tables) attemptId) tables

/-- The delivery after a part has been delivered. -/
def DeliveryOutboxRecord.advanced (delivery : DeliveryOutboxRecord) (partOrdinal : ℕ)
    (finalPart : Bool) (now : Timestamp) : DeliveryOutboxRecord :=
  if finalPart then
    { delivery with
      nextPartOrdinal := partOrdinal + 1
      status := .delivered
      claimToken := none
      claimedAt := none
      completedAt := some now
      lastErrorCode := none }
  else { delivery with nextPartOrdinal := partOrdinal + 1 }

/-- The attempt after its part has been delivered. -/
def DeliveryAttempt.delivered (attempt : DeliveryAttempt) (providerMessageId : Option String)
    (receiptPayload : String) (now : Timestamp) : DeliveryAttempt :=
  { attempt with
    status := .delivered
    providerMessageId := providerMessageId
    receiptPayload := some receiptPayload
    completedAt := some now }

/-- The response after its last part has been delivered. -/
def ResponseRecord.delivered (response : ResponseRecord) (now : Timestamp) : ResponseRecord :=
  { response with
    status := .delivered
    deliveredAt := some now
    lastErrorCode := none }

/-- The response update of `mark_part_delivered`, made for the last part only. -/
def deliverResponse (delivery : DeliveryOutboxRecord) (finalPart : Bool) (now : Timestamp)
    (responses : List ResponseRecord) : Except DeliveryStoreError (List ResponseRecord) :=
  if finalPart then
    updateResponse delivery.id .delivering delivery.responseId [.delivering]
      (fun row => row.delivered now) responses
  else .ok responses

/-- The row `mark_part_delivered` inserts. -/
def newReceipt (delivery : DeliveryOutboxRecord) (partOrdinal attemptId : ℕ)
    (providerMessageId : Option String) (receiptPayload : String) (now : Timestamp) :
    DeliveryReceipt where
  deliveryId := delivery.id
  partOrdinal := partOrdinal
  responseId := delivery.responseId
  attemptId := attemptId
  providerMessageId := providerMessageId
  receiptPayload := receiptPayload
  deliveredAt := now

/-- `mark_part_delivered`. The receipt is inserted and the attempt written when the transaction
commits. -/
def markPartDelivered (deliveryId : ℕ) (claimToken : String) (attemptId partOrdinal : ℕ)
    (receiptPayload : String) (providerMessageId : Option String) (now : Timestamp)
    (tables : DeliveryTables) : Except DeliveryStoreError DeliveryTables := do
  let delivery ← claimedPart deliveryId claimToken partOrdinal tables
  let attempt ← requiredAttempt attemptId deliveryId partOrdinal tables
  raiseIf (attempt.status ≠ .delivering)
    (.stateConflict deliveryId DeliveryAttemptStatus.delivering.value)
  raiseIf ((getReceipt deliveryId partOrdinal tables).isSome)
    (.stateConflict deliveryId "receipt_missing")
  match tables.responses.find? fun row => row.responseId = delivery.responseId with
  | none => .error (.stateConflict deliveryId "response_present")
  | some response => do
    let finalPart := decide (partOrdinal + 1 = response.partCount)
    let deliveries ← updateDelivery deliveryId DeliveryStatus.delivering.value
      (fun row => row.status = .delivering ∧ row.claimToken = some claimToken ∧
        row.nextPartOrdinal = partOrdinal)
      (fun row => row.advanced partOrdinal finalPart now) tables.deliveries
    let responses ← deliverResponse delivery finalPart now tables.responses
    -- the unique attempt id and the reference to the part
    raiseIf ((∃ receipt ∈ tables.receipts, receipt.attemptId = attempt.id) ∨
      response.parts.length ≤ partOrdinal) .integrity
    return {
      responses := responses
      deliveries := deliveries
      attempts := updateWhere (fun row : DeliveryAttempt => row.id = attempt.id)
        (fun row => row.delivered providerMessageId receiptPayload now) tables.attempts
      receipts := tables.receipts ++
        [newReceipt delivery partOrdinal attempt.id providerMessageId receiptPayload now] }

/-- What `_finish_attempt` is told: the statuses it writes, and when a queued delivery is due. -/
structure FinishPlan where
  attemptStatus : DeliveryAttemptStatus
  deliveryStatus : DeliveryStatus
  responseStatus : Option ResponseStatus
  availableAt : Option Timestamp

/-- The delivery after an attempt has ended without a receipt. -/
def DeliveryOutboxRecord.finished (delivery : DeliveryOutboxRecord) (plan : FinishPlan)
    (errorCode : String) (now : Timestamp) : DeliveryOutboxRecord :=
  { delivery with
    status := plan.deliveryStatus
    claimToken := none
    claimedAt := none
    completedAt := if plan.deliveryStatus = .queued then none else some now
    lastErrorCode := some errorCode
    availableAt := plan.availableAt.getD delivery.availableAt }

/-- The response after an attempt has ended without a receipt. -/
def ResponseRecord.finished (response : ResponseRecord) (status : ResponseStatus)
    (errorCode : String) (now : Timestamp) : ResponseRecord :=
  { response with
    status := status
    lastErrorCode := some errorCode
    failedAt := if status = .failed then some now else response.failedAt
    uncertainAt := if status = .uncertain then some now else response.uncertainAt }

/-- The attempt after it has ended without a receipt. -/
def DeliveryAttempt.finished (attempt : DeliveryAttempt) (plan : FinishPlan) (errorCode : String)
    (now : Timestamp) : DeliveryAttempt :=
  { attempt with
    status := plan.attemptStatus
    errorCode := some errorCode
    completedAt := some now }

/-- The response update of `_finish_attempt`, if there is one. -/
def finishResponse (delivery : DeliveryOutboxRecord) (plan : FinishPlan) (errorCode : String)
    (now : Timestamp) (responses : List ResponseRecord) :
    Except DeliveryStoreError (List ResponseRecord) :=
  match plan.responseStatus with
  | none => .ok responses
  | some status => updateResponse delivery.id .delivering delivery.responseId [.delivering]
      (fun row => row.finished status errorCode now) responses

/-- `_finish_attempt`. -/
def finishAttempt (deliveryId : ℕ) (claimToken : String) (attemptId : ℕ) (plan : FinishPlan)
    (errorCode : String) (now : Timestamp) (tables : DeliveryTables) :
    Except DeliveryStoreError DeliveryTables := do
  let delivery ← claimedDelivery deliveryId claimToken tables
  let attempt ← requiredAttempt attemptId deliveryId delivery.nextPartOrdinal tables
  raiseIf (attempt.status ≠ .delivering)
    (.stateConflict deliveryId DeliveryAttemptStatus.delivering.value)
  let errorCode ← requiredString errorCode "error_code" maxErrorCodeLength
  let deliveries ← updateDelivery deliveryId DeliveryStatus.delivering.value
    (fun row => row.status = .delivering ∧ row.claimToken = some claimToken)
    (fun row => row.finished plan errorCode now) tables.deliveries
  let responses ← finishResponse delivery plan errorCode now tables.responses
  return { tables with
    responses := responses
    deliveries := deliveries
    attempts := updateWhere (fun row : DeliveryAttempt => row.id = attempt.id)
      (fun row => row.finished plan errorCode now) tables.attempts }

/-- `mark_attempt_retryable`. -/
def markAttemptRetryable (deliveryId : ℕ) (claimToken : String) (attemptId : ℕ)
    (errorCode : String) (availableAt now : Timestamp) :
    DeliveryTables → Except DeliveryStoreError DeliveryTables :=
  finishAttempt deliveryId claimToken attemptId ⟨.failed, .queued, none, some availableAt⟩
    errorCode now

/-- `mark_attempt_failed`. -/
def markAttemptFailed (deliveryId : ℕ) (claimToken : String) (attemptId : ℕ)
    (errorCode : String) (now : Timestamp) :
    DeliveryTables → Except DeliveryStoreError DeliveryTables :=
  finishAttempt deliveryId claimToken attemptId ⟨.failed, .failed, some .failed, none⟩
    errorCode now

/-- `mark_attempt_uncertain`. -/
def markAttemptUncertain (deliveryId : ℕ) (claimToken : String) (attemptId : ℕ)
    (errorCode : String) (now : Timestamp) :
    DeliveryTables → Except DeliveryStoreError DeliveryTables :=
  finishAttempt deliveryId claimToken attemptId ⟨.uncertain, .uncertain, some .uncertain, none⟩
    errorCode now

/-! ## Manual retry -/

/-- The statuses `retry` accepts. -/
def retryableStatuses (allowUncertain : Bool) : List DeliveryStatus :=
  if allowUncertain then [.failed, .uncertain] else [.failed]

/-- The delivery after `retry`. -/
def DeliveryOutboxRecord.requeued (delivery : DeliveryOutboxRecord) (scheduledAt : Timestamp) :
    DeliveryOutboxRecord :=
  { delivery with
    status := .queued
    availableAt := scheduledAt
    claimToken := none
    claimedAt := none
    completedAt := none
    lastErrorCode := none }

/-- The response after `retry`. -/
def ResponseRecord.reopened (response : ResponseRecord) (nextPartOrdinal : ℕ) : ResponseRecord :=
  { response with
    status := if 0 < nextPartOrdinal then .delivering else .generated
    failedAt := none
    uncertainAt := none
    lastErrorCode := none }

/-- `retry`. -/
def retry (deliveryId : ℕ) (allowUncertain : Bool) (availableAt : Option Timestamp)
    (now : Timestamp) (tables : DeliveryTables) : Except DeliveryStoreError DeliveryTables := do
  let delivery ← requiredDelivery deliveryId tables
  raiseIf (delivery.status ∉ retryableStatuses allowUncertain)
    (.stateConflict deliveryId "failed_or_explicitly_allowed_uncertain")
  let expected : ResponseStatus := if delivery.status = .uncertain then .uncertain else .failed
  let deliveries ← updateDelivery deliveryId delivery.status.value
    (fun row => row.status = delivery.status) (fun row => row.requeued (availableAt.getD now))
    tables.deliveries
  let responses ← updateResponse deliveryId expected delivery.responseId [expected]
    (fun row => row.reopened delivery.nextPartOrdinal) tables.responses
  return { tables with responses := responses, deliveries := deliveries }

end AgentGateway.Delivery
