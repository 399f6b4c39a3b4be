import AgentGateway.Artifact.Models
import AgentGateway.Dispatch.Tables
import AgentGateway.Hermes.Payload

/-!
# Timelines and their snapshots

The timeline of a thread is read from its successful dispatches, in the order of their ids: the
message, then the parts of the response. A snapshot is a caller's summary of all turns below a
boundary; `create` accepts the boundary if no turn below it can still change. The JSON column of a
response written without an envelope holds a JSON `null`, which is not SQL `NULL`: the readers of
the column look at the value, the check of a new snapshot asks the database.
-/

namespace AgentGateway.Context

open Lib Hermes Dispatch Artifacts

/-! ## Rows -/

/-- The columns of a message that a timeline shows. -/
structure TimelineMessage where
  id : Int
  content : String
  occurredAt : Timestamp
  receivedAt : Timestamp
  createdAt : Timestamp
  deriving DecidableEq, Repr

/-- `ContextSnapshotRecord`. -/
structure ContextSnapshotRecord where
  threadId : String
  snapshotVersion : ℕ
  summary : String
  coveredUntil : ℕ
  createdAt : Timestamp
  deriving DecidableEq, Repr

/-- The rows that the timeline and the snapshots are read from. `persistedAt` is the `created_at`
of each raw result. -/
structure ContextTables where
  messages : List TimelineMessage
  dispatch : DispatchTables
  persistedAt : ℕ → Timestamp
  artifacts : List Artifact
  snapshots : List ContextSnapshotRecord

/-- The errors of this package: one of its own, or a pydantic `ValidationError`. -/
inductive ContextError
  | validation (message : String)
  | payload
  deriving DecidableEq, Repr

/-- What `complete_success` leaves in the JSON column: it passes `None` on for a response without
an envelope, and the column type stores an explicit `None` as JSON `null`. -/
def responsePayload (response : HermesDispatchResponse) : Option JsonValue :=
  match response.responsePayload with
  | none => some .null
  | some envelope => some envelope.modelDump

/-- `ResponseEnvelope.artifact_ids`. -/
def artifactIds (envelope : ResponseEnvelope) : List String :=
  envelope.parts.filterMap fun
    | .text _ => none
    | .artifactRef artifactId => some artifactId

/-- `_required_text`. -/
def requiredText (value fieldName : String) : Except ContextError String := do
  raiseIf (IsBlank value) (.validation (fieldName ++ " must not be empty"))
  return strip value

lemma requiredText_eq_ok {value fieldName text : String}
    (h : requiredText value fieldName = .ok text) : text = strip value := by
  obtain ⟨-, -, htext⟩ := bind_eq_ok.mp h
  exact (Except.ok.inj htext).symm

/-- `_required_positive_integer`. -/
def requiredPositiveInteger (value : Int) (fieldName : String) : Except ContextError ℕ := do
  raiseIf (value ≤ 0) (.validation (fieldName ++ " must be a positive integer"))
  return value.toNat

/-! ## Timelines -/

/-- `ContextEntryKind`. -/
inductive ContextEntryKind
  | message
  | assistantResponse
  | artifactReference
  deriving DecidableEq, Repr

/-- `ContextEntry`. -/
structure ContextEntry where
  threadId : String
  kind : ContextEntryKind
  occurredAt : Timestamp
  receivedAt : Timestamp
  createdAt : Timestamp
  messageId : Int
  responseId : Option String
  partOrdinal : Option ℕ
  content : Option String
  artifactId : Option String
  dispatchId : Option ℕ
  deriving DecidableEq, Repr

/-- `_message_entry`. -/
def messageEntry (threadId : String) (record : HermesDispatchRecord) (message : TimelineMessage) :
    ContextEntry where
  threadId := threadId
  kind := .message
  occurredAt := message.occurredAt
  receivedAt := message.receivedAt
  createdAt := message.createdAt
  messageId := message.id
  responseId := none
  partOrdinal := none
  content := some message.content
  artifactId := none
  dispatchId := some record.id

/-- The entry of one part of a response. -/
def partEntry (threadId : String) (record : HermesDispatchRecord) (persistedAt : Timestamp)
    (kind : ContextEntryKind) (responseId : Option String) (partOrdinal : ℕ)
    (content artifactId : Option String) : ContextEntry where
  threadId := threadId
  kind := kind
  occurredAt := persistedAt
  receivedAt := persistedAt
  createdAt := persistedAt
  messageId := record.messageId
  responseId := responseId
  partOrdinal := some partOrdinal
  content := content
  artifactId := artifactId
  dispatchId := some record.id

/-- Whether the artifact is stored for the response. -/
def StoredFor (artifacts : List Artifact) (artifactId responseId : String) : Prop :=
  ∃ artifact, (artifacts.find? fun artifact => artifact.artifactId = artifactId) = some artifact ∧
    artifact.responseId = responseId

instance (artifacts : List Artifact) (artifactId responseId : String) :
    Decidable (StoredFor artifacts artifactId responseId) :=
  decidable_of_iff (((artifacts.find? fun artifact => artifact.artifactId = artifactId).any
    fun artifact => artifact.responseId = responseId) = true) (by
      simp [StoredFor, Option.any_eq_true])

/-- `_response_entries` of a row with any payload. -/
def payloadEntries (artifacts : List Artifact) (threadId : String) (record : HermesDispatchRecord)
    (response : HermesDispatchResponse) (persistedAt : Timestamp) (payload : Option JsonValue) :
    Except ContextError (List ContextEntry) :=
  match payload with
  | none | some .null =>
    if response.assistantContent = "" then .ok []
    else .ok [partEntry threadId record persistedAt .assistantResponse response.hermesResponseId 0
      (some response.assistantContent) none]
  | some payload =>
    match ResponseEnvelope.modelValidate payload with
    | .error _ => .error .payload
    | .ok envelope => .ok (envelope.parts.mapIdx fun ordinal part =>
        match part with
        | .text text => some (partEntry threadId record persistedAt .assistantResponse
            (some envelope.responseId) ordinal (some text) none)
        | .artifactRef artifactId =>
          if StoredFor artifacts artifactId envelope.responseId then
            some (partEntry threadId record persistedAt .artifactReference
              (some envelope.responseId) ordinal none (some artifactId))
          else none).reduceOption

/-- `_response_entries` of a row with the payload that `complete_success` has written. -/
def responseEntries (tables : ContextTables) (threadId : String) (record : HermesDispatchRecord)
    (response : HermesDispatchResponse) : Except ContextError (List ContextEntry) :=
  payloadEntries tables.artifacts threadId record response (tables.persistedAt response.id)
    (responsePayload response)

/-- A row of the timeline queries. -/
abbrev TimelineRow := HermesDispatchRecord × TimelineMessage × HermesDispatchResponse

/-- The records that a timeline shows, in ascending order of their ids. -/
def timelineRecords (tables : ContextTables) (threadId : String) (rangeStart rangeEnd : Option ℕ) :
    List HermesDispatchRecord :=
  (tables.dispatch.records.insertionSort fun a b => a.id ≤ b.id).filter fun record =>
    record.aiThreadId = threadId ∧ record.status = .success ∧
    (∀ start ∈ rangeStart, start ≤ record.id) ∧ ∀ end_ ∈ rangeEnd, record.id < end_

/-- The joined rows of one record. -/
def recordRows (messages : List TimelineMessage) (responses : List HermesDispatchResponse)
    (record : HermesDispatchRecord) : List TimelineRow :=
  (messages.filter fun message => message.id = record.messageId).flatMap fun message =>
    (responses.filter fun response => response.dispatchRecordId = record.id).map fun response =>
      (record, message, response)

/-- A row joins its record with a response of it. -/
lemma mem_recordRows {messages : List TimelineMessage} {responses : List HermesDispatchResponse}
    {record : HermesDispatchRecord} {row : TimelineRow}
    (h : row ∈ recordRows messages responses record) :
    row.1 = record ∧ row.2.2 ∈ responses ∧ row.2.2.dispatchRecordId = record.id := by
  simp only [recordRows, List.mem_flatMap, List.mem_map, List.mem_filter, decide_eq_true_eq] at h
  obtain ⟨_, -, response, ⟨hresponse, hof⟩, rfl⟩ := h
  exact ⟨rfl, hresponse, hof⟩

/-- The rows of the timeline query with its bounds. -/
def timelineRows (tables : ContextTables) (threadId : String) (rangeStart rangeEnd : Option ℕ) :
    List TimelineRow :=
  (timelineRecords tables threadId rangeStart rangeEnd).flatMap
    (recordRows tables.messages tables.dispatch.responses)

/-- The entries of one row. -/
def turnEntries (tables : ContextTables) (threadId : String)
    (row : TimelineRow) : Except ContextError (List ContextEntry) := do
  let responses ← responseEntries tables threadId row.1 row.2.2
  return messageEntry threadId row.1 row.2.1 :: responses

/-- `_optional_positive_integer`. -/
def optionalPositiveInteger (value : Option Int) (fieldName : String) :
    Except ContextError (Option ℕ) :=
  match value with
  | none => .ok none
  | some value => some <$> requiredPositiveInteger value fieldName

/-- `read_timeline`. -/
def readTimeline (tables : ContextTables) (threadId : String) (from_ to_ : Option Int) :
    Except ContextError (List ContextEntry) := do
  let threadId ← requiredText threadId "thread_id"
  let rangeStart ← optionalPositiveInteger from_ "from"
  let rangeEnd ← optionalPositiveInteger to_ "to"
  raiseIf (∃ start ∈ rangeStart, ∃ end_ ∈ rangeEnd, end_ ≤ start)
    (.validation "from must be before to")
  let turns ← (timelineRows tables threadId rangeStart rangeEnd).mapM (turnEntries tables threadId)
  return turns.flatten

/-- `read`. -/
def read (tables : ContextTables) (threadId : String) : Except ContextError (List ContextEntry) :=
  readTimeline tables threadId none none

/-! ## Snapshots -/

/-- `_latest_record`. -/
def latestRecord (tables : ContextTables) (threadId : String) : Option ContextSnapshotRecord :=
  (tables.snapshots.filter fun snapshot => snapshot.threadId = threadId).argmax
    ContextSnapshotRecord.snapshotVersion

/-- The records between the boundary that was validated before and the new one. -/
def Covered (threadId : String) (validatedFrom : Option ℕ) (coveredUntil : ℕ)
    (record : HermesDispatchRecord) : Prop :=
  record.aiThreadId = threadId ∧ record.id < coveredUntil ∧
    ∀ start ∈ validatedFrom, start ≤ record.id

instance (threadId : String) (validatedFrom : Option ℕ) (coveredUntil : ℕ) :
    DecidablePred (Covered threadId validatedFrom coveredUntil) := fun _ =>
  inferInstanceAs (Decidable (_ ∧ _ ∧ _))

/-- The statuses of a turn that can still change. -/
def unfinishedStatuses : List HermesDispatchStatus := [.queued, .running, .failed, .uncertain]

/-- `timeline_end`. -/
def timelineEnd (tables : ContextTables) (threadId : String) : ℕ :=
  ((tables.dispatch.records.filter fun record => record.aiThreadId = threadId).map
    HermesDispatchRecord.id).foldl max 0 + 1

/-- The first check of `_validate_boundary`. -/
def requireBounded (tables : ContextTables) (threadId : String) (coveredUntil : ℕ) :
    Except ContextError Unit :=
  raiseIf (timelineEnd tables threadId < coveredUntil)
    (.validation "covered_until exceeds the current thread history")

/-- The second check of `_validate_boundary`. -/
def requireFinished (tables : ContextTables) (threadId : String) (validatedFrom : Option ℕ)
    (coveredUntil : ℕ) : Except ContextError Unit :=
  raiseIf (∃ record ∈ tables.dispatch.records, Covered threadId validatedFrom coveredUntil record ∧
      record.status ∈ unfinishedStatuses)
    (.validation "covered_until crosses an unfinished timeline turn")

/-- The results of the covered turns that have succeeded. -/
def CoveredResponse (tables : ContextTables) (threadId : String) (validatedFrom : Option ℕ)
    (coveredUntil : ℕ) (response : HermesDispatchResponse) : Prop :=
  ∃ record ∈ tables.dispatch.records, record.id = response.dispatchRecordId ∧
    Covered threadId validatedFrom coveredUntil record ∧ record.status = .success

instance (tables : ContextTables) (threadId : String) (validatedFrom : Option ℕ)
    (coveredUntil : ℕ) :
    DecidablePred (CoveredResponse tables threadId validatedFrom coveredUntil) := fun _ =>
  inferInstanceAs (Decidable (∃ _ ∈ _, _))

/-- The responses of the payload query. -/
def coveredResponses (tables : ContextTables) (threadId : String) (validatedFrom : Option ℕ)
    (coveredUntil : ℕ) : List HermesDispatchResponse :=
  tables.dispatch.responses.filter (CoveredResponse tables threadId validatedFrom coveredUntil)

/-- The artifact ids of an envelope, each with the response that refers to it. -/
def envelopeReferences (envelope : ResponseEnvelope) : List (String × String) :=
  (artifactIds envelope).map fun artifactId => (artifactId, envelope.responseId)

/-- The references of one payload. -/
def payloadReferences (payload : JsonValue) : Except ContextError (List (String × String)) :=
  match ResponseEnvelope.modelValidate payload with
  | .error _ => .error .payload
  | .ok envelope => .ok (envelopeReferences envelope)

/-- The references of the covered envelopes. The column is selected where it is not SQL `NULL`; a
JSON `null` is selected and loads as `None`, which is no envelope. -/
def coveredReferences (tables : ContextTables) (threadId : String) (validatedFrom : Option ℕ)
    (coveredUntil : ℕ) : Except ContextError (List (String × String)) := do
  let references ← ((coveredResponses tables threadId validatedFrom coveredUntil).filterMap
    responsePayload).mapM payloadReferences
  return references.flatten

/-- One artifact is resolved: it is stored, and its response is the only one that refers to it. -/
def Resolved (artifacts : List Artifact) (references : List (String × String))
    (artifactId : String) : Prop :=
  ∃ artifact, (artifacts.find? fun artifact => artifact.artifactId = artifactId) = some artifact ∧
    ∀ reference ∈ references, reference.1 = artifactId → reference.2 = artifact.responseId

instance (artifacts : List Artifact) (references : List (String × String)) (artifactId : String) :
    Decidable (Resolved artifacts references artifactId) :=
  decidable_of_iff (((artifacts.find? fun artifact => artifact.artifactId = artifactId).any
    fun artifact => decide (∀ reference ∈ references, reference.1 = artifactId →
      reference.2 = artifact.responseId)) = true) (by
      simp [Resolved, Option.any_eq_true])

/-- The lookup of some of the artifact ids. -/
def requireResolved (tables : ContextTables) (references : List (String × String))
    (artifactIds : List String) : Except ContextError Unit :=
  raiseIf (∃ artifactId ∈ artifactIds, ¬ Resolved tables.artifacts references artifactId)
    (.validation "covered_until crosses an unresolved artifact reference")

/-- The check of `create` on the latest snapshot. -/
def requireAdvance (latest : Option ContextSnapshotRecord) (coveredUntil : ℕ) :
    Except ContextError Unit :=
  raiseIf (∃ snapshot ∈ latest, coveredUntil < snapshot.coveredUntil)
    (.validation "covered_until must not precede the latest snapshot")

/-- The row that `create` adds. -/
def nextSnapshot (latest : Option ContextSnapshotRecord) (threadId summary : String)
    (coveredUntil : ℕ) (now : Timestamp) : ContextSnapshotRecord where
  threadId := threadId
  snapshotVersion := (latest.map fun snapshot => snapshot.snapshotVersion + 1).getD 1
  summary := summary
  coveredUntil := coveredUntil
  createdAt := now

/-- `_validate_boundary`. The lookups in batches look all ids up. -/
def validateBoundary (tables : ContextTables) (threadId : String) (coveredUntil : ℕ)
    (validatedFrom : Option ℕ) : Except ContextError Unit := do
  requireBounded tables threadId coveredUntil
  requireFinished tables threadId validatedFrom coveredUntil
  let references ← coveredReferences tables threadId validatedFrom coveredUntil
  requireResolved tables references (references.map Prod.fst)

/-- `ContextSnapshotStore.create`, when nothing else happens meanwhile. -/
def create (tables : ContextTables) (threadId summary : String) (coveredUntil : Int)
    (now : Timestamp) : Except ContextError (ContextTables × ContextSnapshotRecord) := do
  let threadId ← requiredText threadId "thread_id"
  let summary ← requiredText summary "summary"
  let coveredUntil ← requiredPositiveInteger coveredUntil "covered_until"
  raiseIf (∀ thread ∈ tables.dispatch.threads, thread.id ≠ threadId)
    (.validation "thread_id does not reference an existing thread")
  let latest := latestRecord tables threadId
  requireAdvance latest coveredUntil
  validateBoundary tables threadId coveredUntil (latest.map ContextSnapshotRecord.coveredUntil)
  let snapshot := nextSnapshot latest threadId summary coveredUntil now
  return ({ tables with snapshots := tables.snapshots ++ [snapshot] }, snapshot)

end AgentGateway.Context
