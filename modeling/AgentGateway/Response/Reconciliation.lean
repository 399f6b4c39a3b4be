import AgentGateway.Lib.RoundRobin
import AgentGateway.Lib.Run
import AgentGateway.Response.Runtime

/-!
# The reconciliation scan

`reconcile_once` looks for successful dispatches whose response or delivery is missing and repairs
them from the stored result. It takes a batch of candidates behind a cursor that it keeps between
calls, returns after the first delivery it creates, and lets database errors out; any other error
defers the candidate. Whatever its repairs do, it comes to every candidate: each call takes a
nonempty start of the queue at the cursor and changes nothing about the others.
-/

namespace AgentGateway.Response

open Lib Lib.Table Hermes Dispatch Delivery

/-! ## The failure columns -/

/-- The reconciliation columns of a `HermesDispatchRecord`. -/
structure ReconciliationColumns where
  failureCount : ℕ
  nextAttemptAt : Option Timestamp
  quarantinedAt : Option Timestamp
  lastErrorCode : Option String
  deriving DecidableEq, Repr

/-- The column defaults, and what `_clear_reconciliation_failure` writes. -/
def ReconciliationColumns.clean : ReconciliationColumns := ⟨0, none, none, none⟩

/-- `RECONCILIATION_BATCH_SIZE`. -/
def reconciliationBatchSize : ℕ := 25

/-- `RECONCILIATION_QUARANTINE_FAILURES`. -/
def reconciliationQuarantineFailures : ℕ := 5

/-- `RECONCILIATION_BACKOFF_BASE_SECONDS`. -/
def reconciliationBackoffBaseSeconds : ℕ := 30

/-- `RECONCILIATION_BACKOFF_MAX_SECONDS`. -/
def reconciliationBackoffMaxSeconds : ℕ := 300

/-- `RECONCILIATION_ERROR_CODE`. -/
def reconciliationErrorCode : String := "dispatch_reconciliation_candidate_invalid"

/-- Neither quarantined nor waiting for a later time. -/
def ReconciliationColumns.Due (columns : ReconciliationColumns) (now : Timestamp) : Prop :=
  columns.quarantinedAt = none ∧ ∀ next ∈ columns.nextAttemptAt, next ≤ now

instance (columns : ReconciliationColumns) (now : Timestamp) : Decidable (columns.Due now) :=
  inferInstanceAs (Decidable (_ ∧ _))

/-- `delay_seconds`, as a number of microseconds. -/
def reconciliationDelay (failureCount : ℕ) : ℕ :=
  min reconciliationBackoffMaxSeconds (reconciliationBackoffBaseSeconds * 2 ^ (failureCount - 1)) *
    1000000

/-- The values `_defer_reconciliation_candidate` writes for a failure count. -/
def ReconciliationColumns.deferredAs (failureCount : ℕ) (now : Timestamp) :
    ReconciliationColumns :=
  if reconciliationQuarantineFailures ≤ failureCount then
    ⟨failureCount, none, some now, some reconciliationErrorCode⟩
  else
    ⟨failureCount, some (now + reconciliationDelay failureCount), none,
      some reconciliationErrorCode⟩

/-- The update of `_defer_reconciliation_candidate`, for a row that has not changed since it was
read. -/
def ReconciliationColumns.defer (columns : ReconciliationColumns) (now : Timestamp) :
    ReconciliationColumns :=
  if columns.Due now then deferredAs (columns.failureCount + 1) now else columns

/-- The update of `_clear_reconciliation_failure`. -/
def ReconciliationColumns.clear (columns : ReconciliationColumns) : ReconciliationColumns :=
  if 0 < columns.failureCount then clean else columns

/-! ## Candidates -/

/-- `response_exists`. -/
def HasResponse (tables : DeliveryTables) (messageId : Int) : Prop :=
  ∃ response ∈ tables.responses, response.messageId = messageId

/-- `delivery_exists`. -/
def HasDelivery (tables : DeliveryTables) (messageId : Int) : Prop :=
  ∃ delivery ∈ tables.deliveries, ∃ response ∈ tables.responses,
    response.responseId = delivery.responseId ∧ response.messageId = messageId

instance (tables : DeliveryTables) (messageId : Int) : Decidable (HasResponse tables messageId) :=
  inferInstanceAs (Decidable (∃ _ ∈ _, _))

instance (tables : DeliveryTables) (messageId : Int) : Decidable (HasDelivery tables messageId) :=
  inferInstanceAs (Decidable (∃ _ ∈ _, _))

/-- The rows of the scan: the database of a repair, the JSON column of each raw result as it is
stored, and the failure columns of each record. -/
structure ReconciliationTables where
  database : Database
  payloads : ℕ → Option JsonValue
  failures : ℕ → ReconciliationColumns

namespace ReconciliationTables

/-- The conditions of the query in `_reconciliation_candidate_ids`. -/
def IsCandidate (tables : ReconciliationTables) (now : Timestamp)
    (record : HermesDispatchRecord) : Prop :=
  record.status = .success ∧
  (∃ raw ∈ tables.database.dispatch.responses, raw.dispatchRecordId = record.id) ∧
  (∃ message ∈ tables.database.messages, message.id = record.messageId ∧
    message.source = "wechat") ∧
  (tables.failures record.id).Due now ∧
  (¬ HasResponse tables.database.delivery record.messageId ∨
    ¬ HasDelivery tables.database.delivery record.messageId)

instance (tables : ReconciliationTables) (now : Timestamp) :
    DecidablePred (tables.IsCandidate now) := fun _ =>
  inferInstanceAs (Decidable (_ ∧ _ ∧ _ ∧ _ ∧ _))

/-- The ids of all candidates, in ascending order. -/
def dueIds (tables : ReconciliationTables) (now : Timestamp) : List ℕ :=
  ((tables.database.dispatch.records.filter (tables.IsCandidate now)).map
    HermesDispatchRecord.id).insertionSort (· ≤ ·)

/-- `_reconciliation_candidate_ids`. -/
def reconciliationCandidateIds (tables : ReconciliationTables) (limit afterRecordId : ℕ)
    (now : Timestamp) : List ℕ :=
  ((tables.dueIds now).filter (afterRecordId < ·)).take limit

/-- The failure columns of one record rewritten. -/
def setFailure (tables : ReconciliationTables) (recordId : ℕ)
    (columns : ReconciliationColumns) : ReconciliationTables :=
  { tables with failures := Function.update tables.failures recordId columns }

/-- `_clear_reconciliation_failure`. -/
def clearReconciliationFailure (tables : ReconciliationTables) (recordId : ℕ) :
    ReconciliationTables :=
  tables.setFailure recordId (tables.failures recordId).clear

/-- `_defer_reconciliation_candidate`, when no other process writes to the record meanwhile. -/
def deferReconciliationCandidate (tables : ReconciliationTables) (recordId : ℕ)
    (now : Timestamp) : ReconciliationTables :=
  match tables.database.dispatch.records.find? fun record => record.id = recordId with
  | none => tables
  | some _ => tables.setFailure recordId ((tables.failures recordId).defer now)

end ReconciliationTables

/-! ## Repairs from stored rows -/

/-- The repair of a record from the rows of the scan. -/
def ReconciliationTables.reconcileStored (digests : Digests) (recordId deliveryId : ℕ)
    (now : Timestamp) (tables : ReconciliationTables) :
    Except ReconciliationError (Database × Bool) :=
  Response.reconcileStored (fun response => tables.payloads response.id) digests recordId
    deliveryId now tables.database

variable {recordId : ℕ} {record : HermesDispatchRecord}

lemma reconciliationRow_record {database : Database} {raw : HermesDispatchResponse}
    {message : DispatchMessage}
    (h : reconciliationRow database recordId = some (record, raw, message)) :
    record ∈ database.dispatch.records ∧ record.id = recordId := by
  simp only [reconciliationRow, Option.bind_eq_bind, Option.bind_eq_some_iff, Option.pure_def,
    Option.some.injEq, Prod.mk.injEq] at h
  obtain ⟨found, hfind, -, -, stored, hstored, -, -, -, -, rfl, rfl, -⟩ := h
  exact ⟨List.mem_of_find?_eq_some hfind, by simpa using List.find?_some hfind⟩

/-! ## One attempt -/

/-- Where a repair stops when something in it fails. -/
inductive RepairPoint
  | opened | saved | cleared
  deriving DecidableEq, Repr

/-- An error of a repair that its rows do not cause. -/
structure RepairFault where
  point : RepairPoint
  database : Bool
  deriving DecidableEq, Repr

/-- What the surroundings decide about one attempt: the generated id and the time of its delivery,
whether another process has saved the outcome of the record since the candidates were read, and
the faults of the repair and of the deferral (with whether that one was committed). -/
structure AttemptInput where
  deliveryId : ℕ
  savedAt : Timestamp
  overtaken : Option (ℕ × Timestamp)
  fault : Option RepairFault
  deferFault : Option Bool
  deriving DecidableEq, Repr

/-- A `DBAPIError`: of the store, only an integrity error gets out as one. -/
def ReconciliationError.isDatabase : ReconciliationError → Bool
  | .payload => false
  | .response error => error = .integrity

/-- How a repair ends. -/
inductive RepairResult
  | returned (created : Bool)
  | raised (database : Bool)
  deriving DecidableEq, Repr

/-- The rows after another process has saved the outcome of the record. -/
def ReconciliationTables.overtake (digests : Digests) (recordId : ℕ)
    (overtaken : Option (ℕ × Timestamp)) (tables : ReconciliationTables) : ReconciliationTables :=
  match overtaken with
  | none => tables
  | some (deliveryId, savedAt) =>
    match tables.reconcileStored digests recordId deliveryId savedAt with
    | .ok (database, _) => { tables with database }
    | .error _ => tables

/-- Whether the repair stops at the point, and with which kind of error. -/
def AttemptInput.faultAt (input : AttemptInput) (point : RepairPoint) : Option Bool :=
  (input.fault.filter fun fault => fault.point = point).map RepairFault.database

/-- `_reconcile_candidate` with its last step and with the faults of the surroundings. -/
def repair (digests : Digests) (input : AttemptInput) (recordId : ℕ)
    (tables : ReconciliationTables) : ReconciliationTables × RepairResult :=
  match input.faultAt .opened with
  | some database => (tables, .raised database)
  | none =>
    match reconciliationRow tables.database recordId with
    | none => (tables, .returned false)
    | some _ =>
      match tables.reconcileStored digests recordId input.deliveryId input.savedAt with
      | .error error => (tables, .raised error.isDatabase)
      | .ok (database, created) =>
        let saved := { tables with database }
        match input.faultAt .saved with
        | some database => (saved, .raised database)
        | none =>
          let cleared := saved.clearReconciliationFailure recordId
          match input.faultAt .cleared with
          | some database => (cleared, .raised database)
          | none => (cleared, .returned created)

/-- How the body of the loop ends: the candidate is repaired, is deferred, or a database error
gets out of the call. -/
inductive AttemptResult
  | repaired (created : Bool)
  | deferred
  | raised
  deriving DecidableEq, Repr

/-- The call returns or raises here. -/
def AttemptResult.Ends : AttemptResult → Prop
  | .repaired created => created = true
  | .deferred => False
  | .raised => True

instance : DecidablePred AttemptResult.Ends
  | .repaired created => inferInstanceAs (Decidable (created = true))
  | .deferred => inferInstanceAs (Decidable False)
  | .raised => inferInstanceAs (Decidable True)

/-- The body of the loop of `reconcile_once` for one candidate. -/
def attempt (digests : Digests) (now : Timestamp) (input : AttemptInput) (recordId : ℕ)
    (tables : ReconciliationTables) : ReconciliationTables × AttemptResult :=
  match repair digests input recordId (tables.overtake digests recordId input.overtaken) with
  | (tables, .returned created) => (tables, .repaired created)
  | (tables, .raised true) => (tables, .raised)
  | (tables, .raised false) =>
    match input.deferFault with
    | none => (tables.deferReconciliationCandidate recordId now, .deferred)
    | some true => (tables.deferReconciliationCandidate recordId now, .raised)
    | some false => (tables, .raised)

/-! ## The scan -/

/-- A worker between two calls: the rows and its cursor. -/
structure Reconciler where
  tables : ReconciliationTables
  reconciliationCursor : ℕ

/-- One call: its time, and what happens to the attempt at each record. -/
structure ReconcileCall where
  now : Timestamp
  inputs : ℕ → AttemptInput

/-- The loop of `reconcile_once`, with the attempts it has made. -/
def reconcileBatch (digests : Digests) (call : ReconcileCall) :
    List ℕ → Reconciler → Reconciler × List (ℕ × AttemptResult)
  | [], worker => (worker, [])
  | recordId :: rest, worker =>
    match attempt digests call.now (call.inputs recordId) recordId worker.tables with
    | (tables, result) =>
      if result.Ends then (⟨tables, recordId⟩, [(recordId, result)])
      else
        match reconcileBatch digests call rest ⟨tables, recordId⟩ with
        | (worker, attempts) => (worker, (recordId, result) :: attempts)

/-- `reconcile_once`. -/
def reconcileOnce (digests : Digests) (limit : ℕ) (worker : Reconciler) (call : ReconcileCall) :
    Reconciler × List (ℕ × AttemptResult) :=
  match worker.tables.reconciliationCandidateIds limit worker.reconciliationCursor call.now with
  | [] =>
    if worker.reconciliationCursor = 0 then (worker, [])
    else
      reconcileBatch digests call (worker.tables.reconciliationCandidateIds limit 0 call.now)
        { worker with reconciliationCursor := 0 }
  | candidateIds => reconcileBatch digests call candidateIds worker

/-- The calls of a worker, with the attempts of each. -/
def reconcileCalls (digests : Digests) (limit : ℕ) :
    Reconciler → List ReconcileCall → Reconciler × List (List (ℕ × AttemptResult))
  | worker, [] => (worker, [])
  | worker, call :: calls =>
    match reconcileOnce digests limit worker call with
    | (worker, attempts) =>
      match reconcileCalls digests limit worker calls with
      | (worker, rounds) => (worker, attempts :: rounds)

lemma reconcileCalls_cons (digests : Digests) (limit : ℕ) (worker : Reconciler)
    (call : ReconcileCall) (calls : List ReconcileCall) :
    reconcileCalls digests limit worker (call :: calls) =
      ((reconcileCalls digests limit (reconcileOnce digests limit worker call).1 calls).1,
        (reconcileOnce digests limit worker call).2 ::
          (reconcileCalls digests limit (reconcileOnce digests limit worker call).1 calls).2) :=
  rfl

/-! ## What a repair leaves alone -/

/-- The keys of the tables: a dispatch for each message, and the primary keys. -/
structure Wellformed (database : Database) : Prop where
  messages : UniqueKeys DispatchMessage.id database.messages
  records : UniqueKeys HermesDispatchRecord.id database.dispatch.records
  positive : ∀ record ∈ database.dispatch.records, 0 < record.id
  recordMessages : UniqueKeys HermesDispatchRecord.messageId database.dispatch.records
  responses : UniqueKeys ResponseRecord.responseId database.delivery.responses

/-- What `save_generated` does to the rows: the message has its response and its delivery
afterwards, and for the other messages nothing has changed. -/
structure SavesFor (messageId : Int) (tables tables' : DeliveryTables) : Prop where
  response : HasResponse tables' messageId
  delivery : HasDelivery tables' messageId
  others : ∀ other ≠ messageId, (HasResponse tables' other ↔ HasResponse tables other) ∧
    (HasDelivery tables' other ↔ HasDelivery tables other)
  appended : tables.responses <+: tables'.responses
  keys : UniqueKeys ResponseRecord.responseId tables'.responses

section Save

variable {digests : Digests} {outcome : HermesDispatchOutcome} {target : DeliveryTarget}
  {deliveryId : ℕ} {now : Timestamp} {tables tables' : DeliveryTables} {request : SaveRequest}
  {existing : ResponseRecord} {delivery : DeliveryOutboxRecord} {created : Bool} {messageId : Int}

lemma messageId_of_not_differs (h : ¬ Differs existing request) :
    existing.messageId = request.outcome.messageId := by
  by_contra hne
  exact h (Or.inr (Or.inl hne))

section Existing

variable (hkeys : UniqueKeys ResponseRecord.responseId tables.responses)
  (hexisting : existing ∈ tables.responses)

include hkeys hexisting

lemma savesFor_found (hmessage : existing.messageId = messageId)
    (hdelivery : delivery ∈ tables.deliveries) (hof : delivery.responseId = existing.responseId) :
    SavesFor messageId tables tables where
  response := ⟨existing, hexisting, hmessage⟩
  delivery := ⟨delivery, hdelivery, existing, hexisting, hof.symm, hmessage⟩
  others := fun _ _ => ⟨Iff.rfl, Iff.rfl⟩
  appended := List.prefix_rfl
  keys := hkeys

lemma createMissingDelivery_savesFor (hmessage : existing.messageId = messageId)
    (h : createMissingDelivery request existing deliveryId now tables =
      .ok (tables', delivery, created)) : SavesFor messageId tables tables' := by
  unfold createMissingDelivery at h
  split at h
  · rename_i unexpected hfind
    simp only [bind_eq_ok] at h
    obtain ⟨-, -, h⟩ := h
    cases h
    exact savesFor_found hkeys hexisting hmessage (List.mem_of_find?_eq_some hfind)
      (of_decide_eq_true (List.find?_some (p := fun row : DeliveryOutboxRecord =>
        decide (row.responseId = existing.responseId)) hfind))
  · simp only [bind_eq_ok] at h
    obtain ⟨-, -, h⟩ := h
    cases h
    refine ⟨⟨existing, hexisting, hmessage⟩, ?_, fun other hother => ⟨Iff.rfl, ?_⟩,
      List.prefix_rfl, hkeys⟩
    · exact ⟨_, List.mem_append_right _ (List.mem_singleton_self _), existing, hexisting, rfl,
        hmessage⟩
    · constructor
      · rintro ⟨row, hrow, response, hresponse, hof, hmine⟩
        rcases mem_concat.mp hrow with hrow | rfl
        · exact ⟨row, hrow, response, hresponse, hof, hmine⟩
        · -- the new delivery belongs to the response of this message only
          rw [hkeys.eq_of_key_eq hresponse hexisting hof, hmessage] at hmine
          exact absurd hmine.symm hother
      · rintro ⟨row, hrow, hjoin⟩
        exact ⟨row, List.mem_append_left _ hrow, hjoin⟩

lemma saveExisting_savesFor
    (h : saveExisting request existing deliveryId now tables = .ok (tables', delivery, created)) :
    SavesFor request.outcome.messageId tables tables' := by
  simp only [saveExisting, requireCompatibleResponse, bind_eq_ok, raiseIf_eq_ok] at h
  obtain ⟨_, hcompatible, h⟩ := h
  have hmessage := messageId_of_not_differs hcompatible
  split at h
  · exact createMissingDelivery_savesFor hkeys hexisting hmessage h
  · rename_i found hfind
    simp only [bind_eq_ok] at h
    obtain ⟨-, -, h⟩ := h
    cases h
    have hfound := List.find?_some hfind
    simp only [decide_eq_true_eq] at hfound
    exact savesFor_found hkeys hexisting hmessage (List.mem_of_find?_eq_some hfind) hfound.1

end Existing

lemma saveNew_savesFor (hkeys : UniqueKeys ResponseRecord.responseId tables.responses)
    (h : saveNew request deliveryId now tables = .ok (tables', delivery, created)) :
    SavesFor request.outcome.messageId tables tables' := by
  simp only [saveNew, bind_eq_ok, raiseIf_eq_ok, not_or] at h
  obtain ⟨-, ⟨hresponses, -⟩, h⟩ := h
  cases h
  have hfresh : ∀ response ∈ tables.responses,
      response.responseId ≠ request.envelope.responseId := fun response hmem hid =>
    hresponses ⟨response, hmem, Or.inl hid⟩
  have hnew := List.mem_append_right tables.responses (List.mem_singleton_self
    (request.newResponse now))
  refine ⟨⟨_, hnew, rfl⟩, ?_, fun other hother => ⟨?_, ?_⟩, List.prefix_append _ _,
    hkeys.append hfresh⟩
  · exact ⟨_, List.mem_append_right _ (List.mem_singleton_self _), _, hnew, rfl, rfl⟩
  · constructor
    · rintro ⟨response, hresponse, hmine⟩
      rcases mem_concat.mp hresponse with hresponse | rfl
      · exact ⟨response, hresponse, hmine⟩
      · exact absurd hmine.symm hother
    · rintro ⟨response, hresponse, hmine⟩
      exact ⟨response, List.mem_append_left _ hresponse, hmine⟩
  · constructor
    · rintro ⟨row, hrow, response, hresponse, hof, hmine⟩
      rcases mem_concat.mp hresponse with hresponse | rfl
      · rcases mem_concat.mp hrow with hrow | rfl
        · exact ⟨row, hrow, response, hresponse, hof, hmine⟩
        · exact absurd hof (hfresh response hresponse)
      · exact absurd hmine.symm hother
    · rintro ⟨row, hrow, response, hresponse, hjoin⟩
      exact ⟨row, List.mem_append_left _ hrow, response, List.mem_append_left _ hresponse, hjoin⟩

lemma saveRequest_outcome (h : digests.saveRequest outcome target = .ok request) :
    request.outcome = outcome := by
  simp only [Digests.saveRequest, bind_eq_ok] at h
  obtain ⟨_, -, _, -, h⟩ := h
  cases h
  rfl

/-- `save_generated` saves for the message of the outcome. -/
lemma saveGenerated_savesFor (hkeys : UniqueKeys ResponseRecord.responseId tables.responses)
    (h : saveGenerated digests outcome target deliveryId now tables =
      .ok (tables', delivery, created)) :
    SavesFor outcome.messageId tables tables' := by
  simp only [saveGenerated, bind_eq_ok] at h
  obtain ⟨request, hrequest, h⟩ := h
  rw [← saveRequest_outcome hrequest]
  unfold saveRequested at h
  split at h
  · rename_i existing hfind
    exact saveExisting_savesFor hkeys (List.mem_of_find?_eq_some hfind) h
  · exact saveNew_savesFor hkeys h

end Save

/-- The records of the ids may have been repaired or deferred; all others are as before. -/
structure Touches (ids : List ℕ) (tables tables' : ReconciliationTables) : Prop where
  messages : tables'.database.messages = tables.database.messages
  dispatch : tables'.database.dispatch = tables.database.dispatch
  payloads : tables'.payloads = tables.payloads
  failures : ∀ id ∉ ids, tables'.failures id = tables.failures id
  others : ∀ record ∈ tables.database.dispatch.records, record.id ∉ ids →
    (HasResponse tables'.database.delivery record.messageId ↔
      HasResponse tables.database.delivery record.messageId) ∧
    (HasDelivery tables'.database.delivery record.messageId ↔
      HasDelivery tables.database.delivery record.messageId)
  kept : ∀ messageId, HasDelivery tables.database.delivery messageId →
    HasDelivery tables'.database.delivery messageId
  appended : tables.database.delivery.responses <+: tables'.database.delivery.responses
  keys : UniqueKeys ResponseRecord.responseId tables'.database.delivery.responses

namespace Touches

variable {ids ids' : List ℕ} {tables tables' tables'' : ReconciliationTables}

lemma refl (ids : List ℕ) (hwf : Wellformed tables.database) : Touches ids tables tables :=
  ⟨rfl, rfl, rfl, fun _ _ => rfl, fun _ _ _ => ⟨Iff.rfl, Iff.rfl⟩, fun _ h => h,
    List.prefix_rfl, hwf.responses⟩

section Touches

variable (h : Touches ids tables tables')

include h

lemma wellformed (hwf : Wellformed tables.database) :
    Wellformed tables'.database where
  messages := h.messages ▸ hwf.messages
  records := h.dispatch ▸ hwf.records
  positive := h.dispatch ▸ hwf.positive
  recordMessages := h.dispatch ▸ hwf.recordMessages
  responses := h.keys

lemma trans (h' : Touches ids' tables' tables'') : Touches (ids ++ ids') tables tables'' := by
  refine ⟨h'.messages.trans h.messages, h'.dispatch.trans h.dispatch,
    h'.payloads.trans h.payloads, ?_, ?_,
    fun messageId hmessage => h'.kept messageId (h.kept messageId hmessage),
    h.appended.trans h'.appended, h'.keys⟩
  · intro id hid
    rw [List.mem_append, not_or] at hid
    rw [h'.failures id hid.2, h.failures id hid.1]
  · intro record hrecord hid
    rw [List.mem_append, not_or] at hid
    have hthen := h'.others record (h.dispatch ▸ hrecord) hid.2
    have hfirst := h.others record hrecord hid.1
    exact ⟨hthen.1.trans hfirst.1, hthen.2.trans hfirst.2⟩

lemma mono (hids : ids ⊆ ids') : Touches ids' tables tables' where
  messages := h.messages
  dispatch := h.dispatch
  payloads := h.payloads
  failures := fun id hid => h.failures id fun hin => hid (hids hin)
  others := fun record hrecord hid => h.others record hrecord fun hin => hid (hids hin)
  kept := h.kept
  appended := h.appended
  keys := h.keys

/-- Two changes to the same records. -/
lemma again (h' : Touches ids tables' tables'') : Touches ids tables tables'' :=
  (h.trans h').mono (List.append_subset.mpr ⟨List.Subset.refl _, List.Subset.refl _⟩)

end Touches

lemma setFailure (hwf : Wellformed tables.database) (recordId : ℕ)
    (columns : ReconciliationColumns) :
    Touches [recordId] tables (tables.setFailure recordId columns) := by
  refine { refl [recordId] hwf with failures := ?_ }
  intro id hid
  rw [List.mem_singleton] at hid
  exact Function.update_of_ne hid columns tables.failures

/-- The candidates outside the touched records are the same. -/
lemma isCandidate_iff (h : Touches ids tables tables')
    (hrecord : record ∈ tables.database.dispatch.records) (hid : record.id ∉ ids) (now : Timestamp) :
    tables'.IsCandidate now record ↔ tables.IsCandidate now record := by
  unfold ReconciliationTables.IsCandidate
  rw [h.messages, h.dispatch, h.failures record.id hid, (h.others record hrecord hid).1,
    (h.others record hrecord hid).2]

end Touches

/-! ## What one attempt does -/

section Attempt

variable {digests : Digests} {recordId deliveryId : ℕ} {now savedAt : Timestamp}
  {database database' : Database} {tables tables' : ReconciliationTables} {created : Bool}
  {record : HermesDispatchRecord} {raw : HermesDispatchResponse} {message : DispatchMessage}
  {input : AttemptInput}

/-- A repair that goes through saves for the message of the record. -/
lemma reconcileStored_savesFor (hwf : Wellformed tables.database)
    (hrow : reconciliationRow tables.database recordId = some (record, raw, message))
    (h : tables.reconcileStored digests recordId deliveryId savedAt = .ok (database', created)) :
    database'.messages = tables.database.messages ∧
      database'.dispatch = tables.database.dispatch ∧
      SavesFor record.messageId tables.database.delivery database'.delivery := by
  unfold ReconciliationTables.reconcileStored Response.reconcileStored at h
  simp only [hrow] at h
  split at h
  · cases h
  · rename_i outcome houtcome
    split at h
    · cases h
    · rename_i saved delivery created' hsave
      cases h
      rw [bind_eq_ok] at hsave
      obtain ⟨target, -, hsave⟩ := hsave
      simp only [Database.saveGenerated, bind_eq_ok] at hsave
      obtain ⟨⟨stored, found, isNew⟩, hstored, hsave⟩ := hsave
      cases hsave
      refine ⟨rfl, rfl, ?_⟩
      rw [← toStoredOutcome_messageId houtcome]
      exact saveGenerated_savesFor hwf.responses hstored

lemma reconcileStored_touches (hwf : Wellformed tables.database)
    (h : tables.reconcileStored digests recordId deliveryId savedAt = .ok (database', created)) :
    Touches [recordId] tables { tables with database := database' } := by
  cases hrow : reconciliationRow tables.database recordId with
  | none =>
    simp only [ReconciliationTables.reconcileStored, Response.reconcileStored, hrow] at h
    cases h
    exact .refl [recordId] hwf
  | some row =>
    obtain ⟨record, raw, message⟩ := row
    obtain ⟨hmessages, hdispatch, hsaves⟩ := reconcileStored_savesFor hwf hrow h
    obtain ⟨hrecord, hid⟩ := reconciliationRow_record hrow
    -- another record belongs to another message
    have hother : ∀ other ∈ tables.database.dispatch.records, other.id ∉ [recordId] →
        other.messageId ≠ record.messageId := by
      intro other hmem hne heq
      apply hne
      rw [hwf.recordMessages.eq_of_key_eq hmem hrecord heq, hid]
      exact List.mem_singleton_self _
    refine ⟨hmessages, hdispatch, rfl, fun _ _ => rfl, ?_, ?_, hsaves.appended, hsaves.keys⟩
    · intro other hmem hne
      exact hsaves.others other.messageId (hother other hmem hne)
    · intro messageId hhas
      by_cases hmine : messageId = record.messageId
      · exact hmine ▸ hsaves.delivery
      · exact (hsaves.others messageId hmine).2.mpr hhas

lemma overtake_touches (digests : Digests) (recordId : ℕ) (hwf : Wellformed tables.database)
    (overtaken : Option (ℕ × Timestamp)) :
    Touches [recordId] tables (tables.overtake digests recordId overtaken) := by
  unfold ReconciliationTables.overtake
  split
  · exact .refl [recordId] hwf
  · split
    · rename_i hsaved
      exact reconcileStored_touches hwf hsaved
    · exact .refl [recordId] hwf

lemma repair_touches (digests : Digests) (recordId : ℕ) (hwf : Wellformed tables.database)
    (input : AttemptInput) :
    Touches [recordId] tables (repair digests input recordId tables).1 := by
  unfold repair
  split
  · exact .refl [recordId] hwf
  · split
    · exact .refl [recordId] hwf
    · split
      · exact .refl [recordId] hwf
      · rename_i database created hsaved
        have htouches := reconcileStored_touches hwf hsaved
        have hclear := htouches.again (Touches.setFailure (htouches.wellformed hwf) recordId
          (tables.failures recordId).clear)
        dsimp only
        split
        · exact htouches
        · split <;> exact hclear

lemma deferReconciliationCandidate_touches (recordId : ℕ) (hwf : Wellformed tables.database)
    (now : Timestamp) :
    Touches [recordId] tables (tables.deferReconciliationCandidate recordId now) := by
  unfold ReconciliationTables.deferReconciliationCandidate
  split
  · exact .refl [recordId] hwf
  · exact .setFailure hwf recordId _

/-- An attempt touches its own record only. -/
lemma attempt_touches (digests : Digests) (recordId : ℕ) (hwf : Wellformed tables.database)
    (now : Timestamp) (input : AttemptInput) :
    Touches [recordId] tables (attempt digests now input recordId tables).1 := by
  have hovertake := overtake_touches digests recordId hwf input.overtaken
  have hrepair := hovertake.again
    (repair_touches digests recordId (hovertake.wellformed hwf) input)
  have hdefer := hrepair.again
    (deferReconciliationCandidate_touches recordId (hrepair.wellformed hwf) now)
  unfold attempt
  split
  · rename_i hresult
    rw [hresult] at hrepair
    exact hrepair
  · rename_i hresult
    rw [hresult] at hrepair
    exact hrepair
  · rename_i hresult
    rw [hresult] at hrepair hdefer
    split
    · exact hdefer
    · exact hdefer
    · exact hrepair

/-- The joined rows of a repair are read from what no repair writes. -/
lemma Touches.reconciliationRow {ids : List ℕ} (h : Touches ids tables tables') (recordId : ℕ) :
    reconciliationRow tables'.database recordId = reconciliationRow tables.database recordId := by
  unfold Response.reconciliationRow
  rw [h.messages, h.dispatch]

/-- A candidate has its joined rows. -/
lemma reconciliationRow_of_isCandidate (hwf : Wellformed tables.database)
    (hrecord : record ∈ tables.database.dispatch.records) (h : tables.IsCandidate now record) :
    ∃ raw message, reconciliationRow tables.database record.id = some (record, raw, message) := by
  obtain ⟨hstatus, ⟨raw, hraw, hof⟩, ⟨message, hmessage, hmid, hsource⟩, -⟩ := h
  obtain ⟨found, hfound⟩ : ∃ found, (tables.database.dispatch.responses.find? fun response =>
      response.dispatchRecordId = record.id) = some found :=
    Option.isSome_iff_exists.mp (List.find?_isSome.mpr ⟨raw, hraw, by simpa using hof⟩)
  refine ⟨found, message, ?_⟩
  rw [reconciliationRow_eq (hwf.records.find?_eq hrecord) hstatus hfound, ← hmid,
    hwf.messages.find?_eq hmessage]
  exact if_pos hsource

/-- A repair that goes through has saved the outcome and cleared the failure. -/
lemma repair_returned
    (hrow : reconciliationRow tables.database recordId = some (record, raw, message))
    (h : repair digests input recordId tables = (tables', .returned created)) :
    ∃ database, tables.reconcileStored digests recordId input.deliveryId input.savedAt =
        .ok (database, created) ∧
      tables' = ReconciliationTables.clearReconciliationFailure { tables with database }
        recordId := by
  unfold repair at h
  simp only [hrow] at h
  split at h
  · cases h
  · split at h
    · cases h
    · rename_i database isNew hsave
      split at h
      · cases h
      · split at h
        · cases h
        · cases h
          exact ⟨database, hsave, rfl⟩

lemma attempt_eq_repaired
    (h : attempt digests now input recordId tables = (tables', .repaired created)) :
    repair digests input recordId (tables.overtake digests recordId input.overtaken) =
      (tables', .returned created) := by
  unfold attempt at h
  split at h
  · rename_i hrepair
    cases h
    exact hrepair
  · cases h
  · split at h <;> cases h

/-- After a repair that has gone through the message of the record has its delivery. -/
lemma attempt_repaired (hwf : Wellformed tables.database)
    (hrow : reconciliationRow tables.database recordId = some (record, raw, message))
    (h : attempt digests now input recordId tables = (tables', .repaired created)) :
    HasDelivery tables'.database.delivery record.messageId := by
  have hovertake := overtake_touches digests recordId hwf input.overtaken
  rw [← hovertake.reconciliationRow recordId] at hrow
  obtain ⟨database, hsave, rfl⟩ := repair_returned hrow (attempt_eq_repaired h)
  exact (reconcileStored_savesFor (hovertake.wellformed hwf) hrow hsave).2.2.delivery

end Attempt

/-! ## What one call does -/

/-- What a worker has done with a batch: it has attempted a start of it, at least one record
unless the batch is empty, and stands at the last one. -/
structure Worked (ids : List ℕ) (worker worker' : Reconciler)
    (attempts : List (ℕ × AttemptResult)) : Prop where
  start : attempts.map Prod.fst <+: ids
  progress : attempts = [] → ids = []
  cursor : worker'.reconciliationCursor =
    (attempts.map Prod.fst).getLast?.getD worker.reconciliationCursor
  touches : Touches (attempts.map Prod.fst) worker.tables worker'.tables
  repaired : ∀ recordId created, (recordId, .repaired created) ∈ attempts →
    ∀ record raw message, reconciliationRow worker.tables.database recordId =
      some (record, raw, message) →
    HasDelivery worker'.tables.database.delivery record.messageId

section Calls

variable {digests : Digests} {limit : ℕ} {now : Timestamp}

lemma reconcileBatch_worked (digests : Digests) (call : ReconcileCall) (ids : List ℕ)
    (worker : Reconciler) (hwf : Wellformed worker.tables.database) :
    Worked ids worker (reconcileBatch digests call ids worker).1
      (reconcileBatch digests call ids worker).2 := by
  induction ids generalizing worker with
  | nil =>
    exact ⟨List.prefix_rfl, fun _ => rfl, rfl, .refl [] hwf,
      fun _ _ hmem => absurd hmem List.not_mem_nil⟩
  | cons recordId rest ih =>
    have htouches := attempt_touches digests recordId hwf call.now (call.inputs recordId)
    have hrepaired : ∀ created tables', attempt digests call.now (call.inputs recordId) recordId
        worker.tables = (tables', .repaired created) → ∀ record raw message,
        reconciliationRow worker.tables.database recordId = some (record, raw, message) →
        HasDelivery tables'.database.delivery record.messageId :=
      fun created tables' h record raw message hrow => attempt_repaired hwf hrow h
    unfold reconcileBatch
    generalize hattempt : attempt digests call.now (call.inputs recordId) recordId
      worker.tables = attempted at *
    obtain ⟨tables, result⟩ := attempted
    dsimp only at htouches ⊢
    -- an error that ends the batch leaves the rest to the next call
    by_cases hends : result.Ends
    · rw [if_pos hends]
      refine ⟨⟨rest, rfl⟩, nofun, rfl, htouches, ?_⟩
      intro id created hmem record raw message hrow
      cases List.mem_singleton.mp hmem
      exact hrepaired created tables rfl record raw message hrow
    · rw [if_neg hends]
      obtain ⟨hstart, -, hcursor, hrest, hlater⟩ :=
        ih ⟨tables, recordId⟩ (htouches.wellformed hwf)
      generalize reconcileBatch digests call rest ⟨tables, recordId⟩ = result' at *
      obtain ⟨worker', attempts⟩ := result'
      refine ⟨?_, nofun, ?_, htouches.trans hrest, ?_⟩
      · exact List.cons_prefix_cons.mpr ⟨rfl, hstart⟩
      · rw [hcursor, List.map_cons, List.getLast?_cons]
        rfl
      · intro id created hmem record raw message hrow
        rcases List.mem_cons.mp hmem with heq | hmem
        · cases heq
          exact hrest.kept _ (hrepaired created tables rfl record raw message hrow)
        · rw [← htouches.reconciliationRow id] at hrow
          exact hlater id created hmem record raw message hrow

variable {tables : ReconciliationTables}

lemma mem_dueIds :
    recordId ∈ tables.dueIds now ↔ ∃ record ∈ tables.database.dispatch.records,
      tables.IsCandidate now record ∧ record.id = recordId := by
  simp only [ReconciliationTables.dueIds, List.mem_insertionSort, List.mem_map, List.mem_filter,
    decide_eq_true_eq, and_assoc]

lemma dueIds_sorted (hwf : Wellformed tables.database) :
    (tables.dueIds now).Pairwise (· < ·) := by
  have hnodup : (tables.dueIds now).Nodup := by
    refine (List.perm_insertionSort _ _).nodup_iff.mpr ?_
    exact (List.filter_sublist.map HermesDispatchRecord.id).nodup hwf.records
  refine ((List.pairwise_insertionSort (· ≤ ·) _).and hnodup).imp ?_
  rintro a b ⟨hle, hne⟩
  exact lt_of_le_of_ne hle hne

lemma dueIds_positive (hwf : Wellformed tables.database) :
    (tables.dueIds now).filter (0 < ·) = tables.dueIds now := by
  apply List.filter_eq_self.mpr
  intro recordId hmem
  obtain ⟨record, hrecord, -, rfl⟩ := mem_dueIds.mp hmem
  exact decide_eq_true (hwf.positive record hrecord)

/-- Once the records of the ids have been touched, the candidates are the earlier ones that are
still due. -/
lemma Touches.dueIds_eq {ids : List ℕ} {tables' : ReconciliationTables}
    (h : Touches ids tables tables') (hwf : Wellformed tables.database)
    (hids : ids ⊆ tables.dueIds now) :
    tables'.dueIds now = (tables.dueIds now).filter (· ∈ tables'.dueIds now) ∧
      ∀ recordId ∈ tables.dueIds now, recordId ∉ ids → recordId ∈ tables'.dueIds now := by
  have hother : ∀ recordId ∉ ids, recordId ∈ tables'.dueIds now ↔ recordId ∈ tables.dueIds now := by
    intro recordId hnot
    rw [mem_dueIds, mem_dueIds, h.dispatch]
    constructor
    · rintro ⟨record, hrecord, hcandidate, rfl⟩
      exact ⟨record, hrecord, (h.isCandidate_iff hrecord hnot now).mp hcandidate, rfl⟩
    · rintro ⟨record, hrecord, hcandidate, rfl⟩
      exact ⟨record, hrecord, (h.isCandidate_iff hrecord hnot now).mpr hcandidate, rfl⟩
  refine ⟨?_, fun recordId hmem hnot => (hother recordId hnot).mpr hmem⟩
  apply List.Pairwise.eq_of_mem_iff (dueIds_sorted (h.wellformed hwf))
    ((dueIds_sorted hwf).filter _)
  intro recordId
  rw [List.mem_filter, decide_eq_true_eq]
  refine ⟨fun hmem => ⟨?_, hmem⟩, fun hmem => hmem.2⟩
  by_cases hin : recordId ∈ ids
  · exact hids hin
  · exact (hother recordId hin).mp hmem

/-- What a call of `reconcile_once` takes, and that it works on it. -/
lemma reconcileOnce_worked (digests : Digests) (hlimit : 0 < limit) (worker : Reconciler) (call : ReconcileCall)
    (hwf : Wellformed worker.tables.database) :
    ∃ ids start, Worked ids { worker with reconciliationCursor := start }
        (reconcileOnce digests limit worker call).1 (reconcileOnce digests limit worker call).2 ∧
      (ids = [] → worker.tables.dueIds call.now = []) ∧
      (∀ taken, taken <+: ids →
        Takes worker.reconciliationCursor (worker.tables.dueIds call.now) taken) := by
  have htake : ∀ l : List ℕ, l.take limit = [] → l = [] := by
    intro l hl
    exact (List.take_eq_nil_iff.mp hl).resolve_left (by omega)
  unfold reconcileOnce
  split
  · rename_i hnone
    have hbehind := htake _ hnone
    have hfront : worker.tables.reconciliationCandidateIds limit 0 call.now =
        (worker.tables.dueIds call.now).take limit := by
      rw [ReconciliationTables.reconciliationCandidateIds, dueIds_positive hwf]
    split
    · -- a cursor at zero has everything behind it
      rename_i hzero
      have hnothing : worker.tables.dueIds call.now = [] := by
        rw [← dueIds_positive hwf, ← hzero]
        exact hbehind
      refine ⟨[], worker.reconciliationCursor, ?_, fun _ => hnothing, ?_⟩
      · exact reconcileBatch_worked digests call [] worker hwf
      · intro taken htaken
        exact Or.inl (htaken.trans (List.nil_prefix))
    · rw [hfront]
      refine ⟨_, 0, reconcileBatch_worked digests call _ _ hwf, htake _, ?_⟩
      intro taken htaken
      exact Or.inr ⟨hbehind, htaken.trans (List.take_prefix _ _)⟩
  · rename_i hsome
    refine ⟨_, worker.reconciliationCursor, reconcileBatch_worked digests call _ worker hwf, ?_, ?_⟩
    · intro hnil
      exact absurd hnil (by simpa using hsome)
    · intro taken htaken
      exact Or.inl (htaken.trans (List.take_prefix _ _))

/-- One call as a round of the queue at the cursor. -/
lemma reconcileOnce_round (digests : Digests) (hlimit : 0 < limit) (worker : Reconciler)
    (call : ReconcileCall) (hwf : Wellformed worker.tables.database) :
    let worker' := (reconcileOnce digests limit worker call).1
    let taken := (reconcileOnce digests limit worker call).2.map Prod.fst
    Touches taken worker.tables worker'.tables ∧ taken ⊆ worker.tables.dueIds call.now ∧
    ∃ rest kept, kept ⊆ taken ∧
      queueAt worker.reconciliationCursor (worker.tables.dueIds call.now) = taken ++ rest ∧
      (taken = [] → worker.tables.dueIds call.now = []) ∧
      queueAt worker'.reconciliationCursor (worker'.tables.dueIds call.now) = rest ++ kept := by
  intro worker' taken
  obtain ⟨ids, start, hworked, hids, htakes⟩ := reconcileOnce_worked digests hlimit worker call hwf
  have htaken : Takes worker.reconciliationCursor (worker.tables.dueIds call.now) taken :=
    htakes taken hworked.start
  have hdue : taken ⊆ worker.tables.dueIds call.now := by
    rcases htaken with hpre | ⟨-, hpre⟩
    · exact fun x hx => List.mem_of_mem_filter (hpre.subset hx)
    · exact hpre.subset
  have hprogress : taken = [] → worker.tables.dueIds call.now = [] := fun hnil =>
    hids (hworked.progress (List.map_eq_nil_iff.mp hnil))
  obtain ⟨hdue', hkeep⟩ := hworked.touches.dueIds_eq hwf hdue
  refine ⟨hworked.touches, hdue, ?_⟩
  cases hlast : taken.getLast? with
  | none =>
    have hnil : taken = [] := List.getLast?_eq_none_iff.mp hlast
    refine ⟨[], [], List.nil_subset _, ?_, hprogress, ?_⟩
    · rw [hprogress hnil, hnil]
      rfl
    · rw [hdue', hprogress hnil]
      rfl
  | some last =>
    have hcursor : worker'.reconciliationCursor = last := by
      rw [hworked.cursor]
      exact congrArg (Option.getD · _) hlast
    obtain ⟨rest, hqueue, hqueue'⟩ := queueAt_takes (dueIds_sorted hwf) htaken hlast
      fun recordId hmem hnot => decide_eq_true (hkeep recordId hmem hnot)
    refine ⟨rest, taken.filter (· ∈ worker'.tables.dueIds call.now),
      fun _ hkept => List.mem_of_mem_filter hkept, hqueue, hprogress, ?_⟩
    exact (congrArg₂ queueAt hcursor hdue').trans hqueue'

/-- The calls of a worker at one time are rounds of its first queue. -/
lemma reconcileCalls_rounds (digests : Digests) (hlimit : 0 < limit) (calls : List ReconcileCall)
    (hnow : ∀ call ∈ calls, call.now = now) (worker : Reconciler)
    (hwf : Wellformed worker.tables.database) :
    ∃ queue', Rounds (queueAt worker.reconciliationCursor (worker.tables.dueIds now))
      ((reconcileCalls digests limit worker calls).2.map fun round => round.map Prod.fst)
      queue' := by
  induction calls generalizing worker with
  | nil => exact ⟨_, .nil _⟩
  | cons call calls ih =>
    obtain ⟨htouches, -, rest, kept, hkept, hqueue, hprogress, hqueue'⟩ :=
      reconcileOnce_round digests hlimit worker call hwf
    rw [hnow call List.mem_cons_self] at hqueue hprogress hqueue'
    obtain ⟨queue', hrounds⟩ := ih (fun other hmem => hnow other (List.mem_cons_of_mem _ hmem))
      (reconcileOnce digests limit worker call).1 (htouches.wellformed hwf)
    rw [hqueue'] at hrounds
    refine ⟨queue', .cons hqueue ?_ hkept hrounds⟩
    intro hnil
    rw [hprogress hnil]
    rfl

lemma length_reconcileCalls (digests : Digests) (limit : ℕ) (calls : List ReconcileCall)
    (worker : Reconciler) :
    (reconcileCalls digests limit worker calls).2.length = calls.length := by
  induction calls generalizing worker with
  | nil => rfl
  | cons call calls ih =>
    exact congrArg (· + 1) (ih (reconcileOnce digests limit worker call).1)

/-- As many calls as there are candidates have attempted every one of them. -/
lemma reconcileCalls_attempts (digests : Digests) (hlimit : 0 < limit) (worker : Reconciler)
    (hwf : Wellformed worker.tables.database) (calls : List ReconcileCall)
    (hnow : ∀ call ∈ calls, call.now = now)
    (hcalls : (worker.tables.dueIds now).length ≤ calls.length)
    (hdue : recordId ∈ worker.tables.dueIds now) :
    ∃ result, (recordId, result) ∈ (reconcileCalls digests limit worker calls).2.flatten := by
  obtain ⟨queue', hrounds⟩ := reconcileCalls_rounds digests hlimit calls hnow worker hwf
  have hmem : recordId ∈ queueAt worker.reconciliationCursor (worker.tables.dueIds now) :=
    mem_queueAt.mpr hdue
  have hattempted := hrounds.mem_flatten (x := recordId) (by
    rwa [List.length_map, length_reconcileCalls, List.take_of_length_le]
    rwa [length_queueAt])
  rw [← List.map_flatten, List.mem_map] at hattempted
  obtain ⟨⟨id, result⟩, hin, rfl⟩ := hattempted
  exact ⟨result, hin⟩

/-- The deliveries of repairs stay, whatever the calls after them do. -/
lemma reconcileCalls_repaired (digests : Digests) (hlimit : 0 < limit)
    (calls : List ReconcileCall) (worker : Reconciler)
    (hwf : Wellformed worker.tables.database) :
    (∃ ids, Touches ids worker.tables (reconcileCalls digests limit worker calls).1.tables) ∧
    ∀ recordId created,
      (recordId, .repaired created) ∈ (reconcileCalls digests limit worker calls).2.flatten →
      ∀ record raw message, reconciliationRow worker.tables.database recordId =
        some (record, raw, message) →
      HasDelivery (reconcileCalls digests limit worker calls).1.tables.database.delivery
        record.messageId := by
  induction calls generalizing worker with
  | nil => exact ⟨⟨[], .refl [] hwf⟩, fun _ _ hmem => absurd hmem List.not_mem_nil⟩
  | cons call calls ih =>
    obtain ⟨ids, start, hworked, -, -⟩ := reconcileOnce_worked digests hlimit worker call hwf
    have htouches : Touches _ worker.tables (reconcileOnce digests limit worker call).1.tables :=
      hworked.touches
    obtain ⟨⟨later, hlater⟩, hrest⟩ := ih (reconcileOnce digests limit worker call).1
      (htouches.wellformed hwf)
    refine ⟨⟨_, htouches.trans hlater⟩, ?_⟩
    intro recordId created hmem record raw message hrow
    rcases List.mem_append.mp hmem with hmem | hmem
    · exact hlater.kept _ (hworked.repaired recordId created hmem record raw message hrow)
    · rw [← htouches.reconciliationRow recordId] at hrow
      exact hrest recordId created hmem record raw message hrow

end Calls

/-- The scan does not starve: as many calls as there are candidates have attempted every one of
them, and each one whose repair went through has its delivery. -/
theorem reconciliation_attempts_all_due (digests : Digests) (limit : ℕ) (hlimit : 0 < limit)
    (now : Timestamp) (worker : Reconciler) (hwf : Wellformed worker.tables.database)
    (calls : List ReconcileCall) (hnow : ∀ call ∈ calls, call.now = now)
    (hcalls : (worker.tables.dueIds now).length ≤ calls.length) :
    ∀ record ∈ worker.tables.database.dispatch.records, worker.tables.IsCandidate now record →
      (∃ result, (record.id, result) ∈ (reconcileCalls digests limit worker calls).2.flatten) ∧
      ∀ created, (record.id, .repaired created) ∈
          (reconcileCalls digests limit worker calls).2.flatten →
        HasDelivery (reconcileCalls digests limit worker calls).1.tables.database.delivery
          record.messageId := by
  intro record hrecord hcandidate
  constructor
  · exact reconcileCalls_attempts digests hlimit worker hwf calls hnow hcalls
      (mem_dueIds.mpr ⟨record, hrecord, hcandidate, rfl⟩)
  · intro created hmem
    obtain ⟨raw, message, hrow⟩ := reconciliationRow_of_isCandidate hwf hrecord hcandidate
    exact (reconcileCalls_repaired digests hlimit calls worker hwf).2 record.id created hmem
      record raw message hrow

/-- Two messages with successful dispatches, and no response yet. -/
def waitingDatabase : Database where
  messages := [⟨7, "wechat", "account", "chat", "private", some "sender", "question"⟩,
    ⟨8, "wechat", "account", "chat", "private", some "sender", "question"⟩]
  dispatch := {
    records := [{ newRecord ⟨7, "identity", "workspace", "thread"⟩ 1 0 with status := .success },
      { newRecord ⟨8, "identity", "workspace", "thread"⟩ 2 0 with status := .success }]
    threads := []
    responses := [⟨1, 1, none, "answer", none⟩, ⟨2, 2, none, "answer", none⟩]
    audits := [] }
  delivery := ⟨[], [], [], []⟩

/-- A worker that starts on the two messages. -/
def waitingReconciler : Reconciler :=
  ⟨⟨waitingDatabase, fun _ => none, fun _ => .clean⟩, 0⟩

/-- A call in which the database is down for the first record. -/
def faultyCall : ReconcileCall where
  now := 0
  inputs := fun recordId =>
    ⟨recordId, 0, none, if recordId = 1 then some ⟨.opened, true⟩ else none, none⟩

/-- Two calls are enough for two candidates, although the first one raises each time. -/
theorem second_candidate_attempted :
    ∃ result, (2, result) ∈ (reconcileCalls constantDigests reconciliationBatchSize
      waitingReconciler [faultyCall, faultyCall]).2.flatten :=
  (reconciliation_attempts_all_due constantDigests reconciliationBatchSize (by decide) 0
    waitingReconciler
    ⟨by simp [UniqueKeys, waitingReconciler, waitingDatabase],
      by simp [UniqueKeys, waitingReconciler, waitingDatabase, newRecord], by decide,
      by simp [UniqueKeys, waitingReconciler, waitingDatabase, newRecord],
      by simp [UniqueKeys, waitingReconciler, waitingDatabase]⟩
    [faultyCall, faultyCall] (by decide) (by decide +kernel)
    { newRecord ⟨8, "identity", "workspace", "thread"⟩ 2 0 with status := .success }
    (by decide) (by decide +kernel)).1

end AgentGateway.Response
