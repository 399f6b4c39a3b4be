import AgentGateway.Artifact.Models
import AgentGateway.Delivery.Media
import AgentGateway.Polling.Service

/-!
# One attempt

What a delivery worker does between the start of an attempt and its record: look the part up, open
a sender, read the artifact, check who is logged in, and post. It is a program that makes requests
of the session, of the file system and of agent-wechat, and any reply may be an error.

`ArtifactRepository.get` is asked twice for an artifact, by the worker and once more by `read`.
These are two requests here, since the row may change between them.
-/

namespace AgentGateway.Delivery.Channel

open Lib Hermes Response Artifacts
open AgentGateway.Polling (AgentWechatAuthStatus)

/-! ## Requests -/

/-- Why a file could not be read: its path leaves the storage root, it cannot be opened, or
something that is no `OSError`. -/
inductive FileError
  | outside
  | unreadable
  | other (error : DeliveryException)
  deriving DecidableEq, Repr

/-- What `get_auth_status` raises: a `WechatAdapterError` or something else. -/
inductive AuthError
  | adapter
  | other (error : DeliveryException)
  deriving DecidableEq, Repr

/-- What `post` raises: a `TimeoutException`, another `RequestError` or something else. -/
inductive PostError
  | timeout
  | request
  | other (error : DeliveryException)
  deriving DecidableEq, Repr

/-- What `response.json()` raises, which knows nothing of the errors of the gateway. -/
inductive DecodeError
  | valueError
  | other (code : Option String)
  deriving DecidableEq, Repr

/-- A response of the HTTP client, with what its `json()` does. -/
structure HttpResponse where
  statusCode : ℕ
  content : List UInt8
  json : Except DecodeError JsonValue

/-- What an attempt asks of its surroundings. `getArtifact` is the lookup of the worker and
`requiredArtifact` the one of `read`. -/
inductive Request
  | getPart (responseId : String) (ordinal : ℕ)
  | openSender (accountId : String)
  | getArtifact (artifactId : String)
  | requiredArtifact (artifactId : String)
  | readFile (path : List String)
  | getAuthStatus
  | post (message : Message)
  deriving DecidableEq

/-- The replies. A part lookup that raises is rolled back: its error is what the rollback raises, if
anything. The factory returns a sender of media, with its size limit, or one of text. -/
@[reducible] def Reply : Request → Type
  | .getPart _ _ => Except (Option DeliveryException) (Option ResponsePartRecord)
  | .openSender _ => Except DeliveryException (Option ℕ)
  | .getArtifact _ => Except DeliveryException (Option Artifact)
  | .requiredArtifact _ => Except DeliveryException (Option Artifact)
  | .readFile _ => Except FileError (List UInt8)
  | .getAuthStatus => Except AuthError AgentWechatAuthStatus
  | .post _ => Except PostError HttpResponse

/-- A part of an attempt that may raise. -/
abbrev Attempt (α : Type) := Program Request Reply (Except DeliveryException α)

/-- A request of an attempt with its reply. -/
abbrev AttemptEvent := Program.Event Request Reply

/-- A request whose reply decides alone. -/
def ask {α : Type} (request : Request) (handle : Reply request → Except DeliveryException α) :
    Attempt α :=
  .call request fun reply => .done (handle reply)

/-! ## Part and sender -/

/-- `get_part`, with the errors the worker raises around it. An error of the rollback takes their
place. -/
def partFound : Except (Option DeliveryException) (Option ResponsePartRecord) →
    Except DeliveryException ResponsePartRecord
  | .error none => .error .retryable
  | .error (some error) => .error error
  | .ok none => .error .permanent
  | .ok (some part) => .ok part

/-- `WechatHttpMessageSender`, or `WechatHttpMediaSender` if it has a size limit. -/
structure Sender where
  accountId : String
  maxMediaBytes : Option ℕ
  deriving DecidableEq, Repr

/-- The constructor of a sender: the account, and everything else it needs. -/
def newSender (accountId : String) (opened : Except DeliveryException (Option ℕ)) :
    Except DeliveryException Sender := do
  let maxMediaBytes ← opened
  let accountId ← requiredString accountId
  return ⟨accountId, maxMediaBytes⟩

/-- The `except` clauses around the sender factory. -/
def senderFailure : DeliveryException → DeliveryException
  | .permanent => .permanent
  | .retryable => .retryable
  | .uncertain => .uncertain
  | _ => .retryable

/-- The new sender, if it is one for this account. -/
def senderFor (accountId : String) (opened : Except DeliveryException (Option ℕ)) :
    Except DeliveryException Sender := do
  let sender ← (newSender accountId opened).mapError senderFailure
  raiseIf (sender.accountId ≠ accountId) .permanent
  return sender

/-- The sender of an earlier part of the same run, or a new one. -/
def openSender (accountId : String) : Option Sender → Attempt Sender
  | some sender => .done (.ok sender)
  | none => ask (.openSender accountId) (senderFor accountId)

/-! ## Sending -/

/-- `_verify_current_account`, once the auth status is there. -/
def accountVerified (accountId : String) : Except AuthError AgentWechatAuthStatus →
    Except DeliveryException Unit
  | .error .adapter => .error .preSendAuth
  | .error (.other error) => .error error
  | .ok auth =>
    match auth.sourceAccountId with
    | none => .error .preSendAuth
    | some current => raiseIf (current ≠ accountId) .accountMismatch

/-- A JSON object whose `success` is `true`. -/
def confirmed : JsonValue → Option (List (String × JsonValue))
  | .object fields =>
    match fields.find? fun entry => entry.1 = "success" with
    | some (_, .bool true) => some fields
    | _ => none
  | _ => none

/-- What `send_text` and `_send_media` make of a response. -/
def HttpResponse.receipt (response : HttpResponse) :
    Except DeliveryException (Option (List (String × JsonValue))) :=
  if ¬ (200 ≤ response.statusCode ∧ response.statusCode < 300) then
    .error (.apiError response.statusCode)
  else if response.statusCode = 204 then .ok none
  else if response.content = [] then .error .responseError
  else
    match response.json with
    | .error .valueError => .error .responseError
    | .error (.other code) => .error (.other code)
    | .ok payload =>
      match confirmed payload with
      | some fields => .ok (some fields)
      | none => .error .responseError

/-- What `send_text` and `_send_media` make of the reply to their `POST`. -/
def posted : Except PostError HttpResponse →
    Except DeliveryException (Option (List (String × JsonValue)))
  | .error .timeout => .error .timeoutError
  | .error .request => .error .transportError
  | .error (.other error) => .error error
  | .ok response => response.receipt

/-- `send_text` and `_send_media`, once the body is valid. -/
def send (sender : Sender) (message : Message) : Attempt (Option (List (String × JsonValue))) :=
  (ask .getAuthStatus (accountVerified sender.accountId)).bindOk fun _ =>
    ask (.post message) posted

/-! ## Artifacts -/

/-- The first checks of `_deliver_part` on an artifact. -/
def artifactAvailable (responseId : String) : Except DeliveryException (Option Artifact) →
    Except DeliveryException Artifact
  | .error error => .error error
  | .ok none => .error .permanent
  | .ok (some artifact) => do
    raiseIf (artifact.responseId ≠ responseId) .permanent
    raiseIf (artifact.status = .created) .retryable
    raiseIf (artifact.status ≠ .ready) .permanent
    return artifact

/-- What the `except` clauses around `read` make of its errors, by the classes they name. -/
def readFailure : ArtifactError → DeliveryException
  | .integrity => .permanent
  | .storage | .storageKey => .retryable
  | .validation => .valueError (some ArtifactError.validation.code)
  | .notFound => .other (some ArtifactError.notFound.code)
  | .state status => .other (some (ArtifactError.state status).code)

/-- `_required_artifact` and `_require_status` in `read`. -/
def artifactReady : Except DeliveryException (Option Artifact) →
    Except DeliveryException Artifact
  | .error error => .error error
  | .ok none => .error (readFailure .notFound)
  | .ok (some artifact) => do
    (artifact.requireStatus .ready).mapError readFailure
    return artifact

/-- Where the content of a row is, and what it is compared with. -/
def contentOf (artifact : Artifact) : Except ArtifactError ((ℕ × String) × List String) := do
  let metadata ← artifact.metadata
  let path ← storageKeyParts artifact.storageKey
  return (metadata, path)

/-- `_read_content` and the checks after it. -/
def contentRead (repository : Repository) (metadata : ℕ × String) :
    Except FileError (List UInt8) → Except DeliveryException (List UInt8)
  | .error .outside => .error (readFailure .storageKey)
  | .error .unreadable => .error (readFailure .storage)
  | .error (.other error) => .error error
  | .ok file => (repository.limit file >>= repository.verify metadata).mapError readFailure

/-- `read`, inside the `try` of `_deliver_part`. -/
def read (repository : Repository) (artifactId : String) : Attempt (List UInt8) :=
  Program.bindOk (.done ((Artifacts.requiredString 36 artifactId).mapError readFailure))
    fun artifactId =>
  (ask (.requiredArtifact artifactId) artifactReady).bindOk fun artifact =>
  Program.bindOk (.done ((contentOf artifact).mapError readFailure)) fun content =>
  ask (.readFile content.2) (contentRead repository content.1)

/-! ## The attempt -/

/-- What a worker is configured with. -/
structure Setup where
  unicode : Unicode
  repository : Option Repository

/-- The media type and file name that an artifact is sent with. -/
def mediaArguments (artifact : Artifact) : WechatMediaType × Option String :=
  match artifact.kind with
  | .image => (.image, none)
  | .file => (.file, some artifact.filename)

/-- The end of `_deliver_part`: `send_media` of the content, if the sender has it. -/
def artifactMessage (unicode : Unicode) (sender : Sender) (delivery : DeliveryOutboxRecord)
    (artifact : Artifact) (content : List UInt8) : Except DeliveryException Message :=
  match sender.maxMediaBytes with
  | none => .error .permanent
  | some maxBytes =>
    unicode.mediaMessage maxBytes delivery.conversationId (mediaArguments artifact).1 content
      artifact.mimeType (mediaArguments artifact).2

/-- The artifact branch of `_deliver_part`. -/
def deliverArtifact (setup : Setup) (delivery : DeliveryOutboxRecord) (artifactId : String)
    (sender : Sender) : Attempt (Option (List (String × JsonValue))) :=
  match setup.repository with
  | none => .done (.error .permanent)
  | some repository =>
    (ask (.getArtifact artifactId) (artifactAvailable delivery.responseId)).bindOk fun artifact =>
    (read repository artifact.artifactId).bindOk fun content =>
    Program.bindOk (.done (artifactMessage setup.unicode sender delivery artifact content))
      (send sender)

/-- `_deliver_part`. -/
def deliverPart (setup : Setup) (delivery : DeliveryOutboxRecord) (part : ResponsePartRecord)
    (sender : Sender) : Attempt (Option (List (String × JsonValue))) :=
  match part.partType with
  | .text =>
    match part.text with
    | none => .done (.error .permanent)
    | some text =>
      Program.bindOk (.done (textMessage delivery.conversationId text)) (send sender)
  | .artifactRef =>
    match part.artifactId with
    | none => .done (.error .permanent)
    | some artifactId => deliverArtifact setup delivery artifactId sender

/-- The `try` block of `run_once` around one part: the receipt, and the sender for the next one. -/
def attemptPart (setup : Setup) (delivery : DeliveryOutboxRecord) (sender : Option Sender) :
    Attempt (Option (List (String × JsonValue)) × Sender) :=
  (ask (.getPart delivery.responseId delivery.nextPartOrdinal) partFound).bindOk fun part =>
  (openSender delivery.accountId sender).bindOk fun sender =>
  (deliverPart setup delivery part sender).bindOk fun receipt =>
  .done (.ok (receipt, sender))

end AgentGateway.Delivery.Channel
