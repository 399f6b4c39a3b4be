import AgentGateway.Hermes.Models
import AgentGateway.Lib.Table

/-!
# Delivery tables

The rows behind the delivery outbox: the normalised responses with their parts, the outbox, the
send attempts and the receipts. A response is written once with all its parts, so the parts stand
in the response row, in order of their ordinal.
-/

namespace AgentGateway.Delivery

open Lib Hermes

/-! ## Responses -/

/-- `ResponseStatus`. -/
inductive ResponseStatus
  | queued | generated | delivering | delivered | failed | uncertain
  deriving DecidableEq, Repr

/-- The stored value of a response status. -/
def ResponseStatus.value : ResponseStatus → String
  | .queued => "queued"
  | .generated => "generated"
  | .delivering => "delivering"
  | .delivered => "delivered"
  | .failed => "failed"
  | .uncertain => "uncertain"

/-- `ResponseRecord`. -/
structure ResponseRecord where
  responseId : String
  idempotencyKey : String
  messageId : Int
  workspaceId : String
  aiThreadId : String
  contentSha256 : String
  partCount : ℕ
  status : ResponseStatus
  generatedAt : Option Timestamp
  deliveringAt : Option Timestamp
  deliveredAt : Option Timestamp
  failedAt : Option Timestamp
  uncertainAt : Option Timestamp
  lastErrorCode : Option String
  parts : List ResponsePart
  deriving DecidableEq, Repr

/-! ## The outbox -/

/-- `DeliveryStatus`. -/
inductive DeliveryStatus
  | queued | delivering | delivered | failed | uncertain
  deriving DecidableEq, Repr

/-- The stored value of a delivery status. -/
def DeliveryStatus.value : DeliveryStatus → String
  | .queued => "queued"
  | .delivering => "delivering"
  | .delivered => "delivered"
  | .failed => "failed"
  | .uncertain => "uncertain"

/-- `DeliveryOutboxRecord`. -/
structure DeliveryOutboxRecord where
  id : ℕ
  idempotencyKey : String
  responseId : String
  channel : String
  accountId : String
  conversationId : String
  targetKey : String
  status : DeliveryStatus
  nextPartOrdinal : ℕ
  attemptCount : ℕ
  availableAt : Timestamp
  claimToken : Option String
  claimedAt : Option Timestamp
  completedAt : Option Timestamp
  lastErrorCode : Option String
  createdAt : Timestamp
  deriving DecidableEq, Repr

/-- `DeliveryAttemptStatus`. -/
inductive DeliveryAttemptStatus
  | delivering | delivered | failed | uncertain
  deriving DecidableEq, Repr

/-- The stored value of an attempt status. -/
def DeliveryAttemptStatus.value : DeliveryAttemptStatus → String
  | .delivering => "delivering"
  | .delivered => "delivered"
  | .failed => "failed"
  | .uncertain => "uncertain"

/-- `DeliveryAttempt`. Payloads are the stored JSON texts. -/
structure DeliveryAttempt where
  id : ℕ
  deliveryId : ℕ
  partOrdinal : ℕ
  attemptNumber : ℕ
  providerIdempotencyKey : String
  status : DeliveryAttemptStatus
  providerMessageId : Option String
  receiptPayload : Option String
  errorCode : Option String
  completedAt : Option Timestamp
  deriving DecidableEq, Repr

/-- `DeliveryReceipt`. -/
structure DeliveryReceipt where
  deliveryId : ℕ
  partOrdinal : ℕ
  responseId : String
  attemptId : ℕ
  providerMessageId : Option String
  receiptPayload : String
  deliveredAt : Timestamp
  deriving DecidableEq, Repr

/-- The four tables. -/
structure DeliveryTables where
  responses : List ResponseRecord
  deliveries : List DeliveryOutboxRecord
  attempts : List DeliveryAttempt
  receipts : List DeliveryReceipt
  deriving DecidableEq, Repr

/-- The attempts of a delivery. -/
def DeliveryTables.attemptsOf (tables : DeliveryTables) (deliveryId : ℕ) : List DeliveryAttempt :=
  tables.attempts.filter fun attempt => attempt.deliveryId = deliveryId

/-- The receipts of a delivery. -/
def DeliveryTables.receiptsOf (tables : DeliveryTables) (deliveryId : ℕ) : List DeliveryReceipt :=
  tables.receipts.filter fun receipt => receipt.deliveryId = deliveryId

end AgentGateway.Delivery
