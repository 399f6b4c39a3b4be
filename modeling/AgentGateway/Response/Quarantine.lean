import AgentGateway.Lib.Interleaving
import AgentGateway.Response.Reconciliation

/-!
# Deferral and quarantine

A candidate whose repair raises is deferred with a growing delay, and set aside after five
failures. Workers that defer and clear the same record at the same time are serialised by the
guard of the update: it counts up from what it has read or does nothing. What escapes the
quarantine is a repair that the database itself refuses: an integrity error leaves `reconcile_once`
before the candidate is deferred, and the candidate stays due for ever.
-/

namespace AgentGateway.Response

open Lib Lib.Table Lib.Program Hermes Dispatch Delivery

/-! ## The failure columns under concurrent writers -/

/-- `ck_hermes_dispatch_reconciliation_state`. -/
def ReconciliationColumns.Check (columns : ReconciliationColumns) : Prop :=
  columns.failureCount = 0 ∧ columns.nextAttemptAt = none ∧ columns.quarantinedAt = none ∧
    columns.lastErrorCode = none ∨
  (1 ≤ columns.failureCount ∧ columns.failureCount ≤ 4) ∧ columns.nextAttemptAt ≠ none ∧
    columns.quarantinedAt = none ∧ columns.lastErrorCode ≠ none ∨
  5 ≤ columns.failureCount ∧ columns.nextAttemptAt = none ∧ columns.quarantinedAt ≠ none ∧
    columns.lastErrorCode ≠ none

lemma check_clean : ReconciliationColumns.clean.Check := Or.inl ⟨rfl, rfl, rfl, rfl⟩

variable {columns : ReconciliationColumns}

lemma check_clear (h : columns.Check) : columns.clear.Check := by
  unfold ReconciliationColumns.clear
  split
  · exact check_clean
  · exact h

lemma check_deferredAs (failureCount : ℕ) (now : Timestamp) :
    (ReconciliationColumns.deferredAs (failureCount + 1) now).Check := by
  unfold ReconciliationColumns.deferredAs
  split
  · rename_i hmany
    exact Or.inr (Or.inr ⟨hmany, rfl, nofun, nofun⟩)
  · rename_i hfew
    have hle : failureCount + 1 ≤ 4 := by
      unfold reconciliationQuarantineFailures at hfew
      omega
    exact Or.inr (Or.inl ⟨⟨by simp, hle⟩, nofun, rfl, nofun⟩)

@[simp] lemma deferredAs_failureCount (failureCount : ℕ) (now : Timestamp) :
    (ReconciliationColumns.deferredAs failureCount now).failureCount = failureCount := by
  unfold ReconciliationColumns.deferredAs
  split <;> rfl

/-- The statements on the columns. -/
inductive ColumnsRequest
  | insert (recordId : ℕ)
  | get (recordId : ℕ)
  | deferUpdate (recordId expected : ℕ) (now : Timestamp) (values : ReconciliationColumns)
  | clearUpdate (recordId : ℕ)

/-- What a statement yields: the row it reads, or whether the guarded update matched one. -/
def ColumnsValue : ColumnsRequest → Type
  | .insert _ => Unit
  | .get _ => Option ReconciliationColumns
  | .deferUpdate .. => Bool
  | .clearUpdate _ => Unit

/-- The answer of the database, which is missing when it raises. -/
abbrev ColumnsReply (request : ColumnsRequest) : Type := Option (ColumnsValue request)

/-- The columns of the records that exist. -/
abbrev ColumnsRows := ℕ → Option ReconciliationColumns

/-- The `WHERE` clause of the deferring update. -/
def DeferMatches (rows : ColumnsRows) (recordId expected : ℕ) (now : Timestamp) : Prop :=
  ∃ columns, rows recordId = some columns ∧ columns.failureCount = expected ∧ columns.Due now

/-- One statement, with its commit. A statement that raises may have been committed or not. -/
inductive ColumnsStep (rows : ColumnsRows) : Event ColumnsRequest ColumnsReply → ColumnsRows → Prop
  | insert {recordId reply} (hnew : rows recordId = none) :
      ColumnsStep rows ⟨.insert recordId, reply⟩ (Function.update rows recordId (some .clean))
  | get {recordId} : ColumnsStep rows ⟨.get recordId, some (rows recordId)⟩ rows
  | defer {recordId expected now values reply} (hreply : reply ≠ some false)
      (hmatches : DeferMatches rows recordId expected now) :
      ColumnsStep rows ⟨.deferUpdate recordId expected now values, reply⟩
        (Function.update rows recordId (some values))
  | noDefer {recordId expected now values}
      (hmatches : ¬ DeferMatches rows recordId expected now) :
      ColumnsStep rows ⟨.deferUpdate recordId expected now values, some false⟩ rows
  | clear {recordId reply} :
      ColumnsStep rows ⟨.clearUpdate recordId, reply⟩
        (Function.update rows recordId ((rows recordId).map ReconciliationColumns.clear))
  | raised {request} : ColumnsStep rows ⟨request, none⟩ rows

/-- `ReconciliationFailureState`. -/
structure ReconciliationFailureState where
  recordId : ℕ
  failureCount : ℕ
  nextAttemptAt : Option Timestamp
  quarantinedAt : Option Timestamp
  deriving DecidableEq, Repr

/-- Statements of one call; it ends with an error when the database raises. -/
abbrev ColumnsProgram :=
  Program ColumnsRequest ColumnsReply (Except Unit (Option ReconciliationFailureState))

/-- `_defer_reconciliation_candidate`. -/
def deferReconciliationCandidate (recordId : ℕ) (now : Timestamp) : ColumnsProgram :=
  .call (.get recordId) fun
    | none => .done (.error ())
    | some none => .done (.ok none)
    | some (some columns) =>
      if columns.Due now then
        let values := ReconciliationColumns.deferredAs (columns.failureCount + 1) now
        .call (.deferUpdate recordId columns.failureCount now values) fun
          | none => .done (.error ())
          | some false => .done (.ok none)
          | some true => .done (.ok (some ⟨recordId, values.failureCount, values.nextAttemptAt,
              values.quarantinedAt⟩))
      else .done (.ok none)

/-- What a worker does to the columns at some time: add a record, defer one, clear one. -/
inductive ColumnsCall
  | enqueue (recordId : ℕ)
  | defer (recordId : ℕ) (now : Timestamp)
  | clear (recordId : ℕ)

/-- The statements of a call. -/
def ColumnsCall.program : ColumnsCall → ColumnsProgram
  | .enqueue recordId => .call (.insert recordId) fun _ => .done (.ok none)
  | .defer recordId now => deferReconciliationCandidate recordId now
  | .clear recordId => .call (.clearUpdate recordId) fun _ => .done (.ok none)

variable {values : ReconciliationColumns} {times recordId expected : ℕ} {now : Timestamp}

/-- A deferring update counts up from what the call has read. -/
lemma reaches_deferUpdate {call : ColumnsCall} {events : List (Event ColumnsRequest ColumnsReply)}
    (h : call.program.Reaches events (.deferUpdate recordId expected now values)) :
    values = ReconciliationColumns.deferredAs (expected + 1) now := by
  obtain ⟨next, hruns⟩ := h
  cases call with
  | enqueue | clear =>
    rcases runs_call.mp hruns with ⟨-, hcall⟩ | ⟨reply, rest, -, hrest⟩
    · cases hcall
    · cases hrest
  | defer other time =>
    rcases runs_call.mp hruns with ⟨-, hcall⟩ | ⟨reply, rest, -, hrest⟩
    · cases hcall
    · match reply with
      | none => cases hrest
      | some none => cases hrest
      | some (some columns) =>
        dsimp only at hrest
        split at hrest
        · rcases runs_call.mp hrest with ⟨-, hcall⟩ | ⟨reply', rest', -, hdone⟩
          · cases hcall
            rfl
          · match reply' with
            | none => cases hdone
            | some false => cases hdone
            | some true => cases hdone
        · cases hrest

/-- A call with which nobody interferes writes what the scan of one worker writes. -/
theorem deferReconciliationCandidate_alone {recordId : ℕ} {now : Timestamp}
    {rows rows' : ColumnsRows} {events : List (Event ColumnsRequest ColumnsReply)}
    {failure : Option ReconciliationFailureState} (hpath : Path ColumnsStep rows events rows')
    (hreturns : (deferReconciliationCandidate recordId now).Returns events (.ok failure))
    (hrow : rows recordId = some columns) :
    rows' = Function.update rows recordId (some (columns.defer now)) := by
  have hunchanged : ¬ columns.Due now →
      rows = Function.update rows recordId (some (columns.defer now)) := by
    intro hdue
    rw [ReconciliationColumns.defer, if_neg hdue, ← hrow, Function.update_eq_self]
  rcases runs_call.mp hreturns with ⟨-, hcall⟩ | ⟨reply, rest, rfl, hrest⟩
  · cases hcall
  · cases hpath with
    | cons hget hpath =>
      cases hget with
      | raised => cases hrest
      | get =>
        rw [hrow] at hrest
        dsimp only at hrest
        split at hrest
        · rename_i hdue
          rcases runs_call.mp hrest with ⟨-, hcall⟩ | ⟨reply, rest', rfl, hdone⟩
          · cases hcall
          · cases hpath with
            | cons hupdate hpath =>
              cases hupdate with
              | defer hreply hmatches =>
                rw [ReconciliationColumns.defer, if_pos hdue]
                match reply with
                | none => cases hdone
                | some false => exact absurd rfl hreply
                | some true =>
                  cases hdone
                  cases hpath
                  rfl
              | noDefer hmatches => exact absurd ⟨columns, hrow, rfl, hdue⟩ hmatches
              | raised => cases hdone
        · rename_i hdue
          cases hrest
          cases hpath
          exact hunchanged hdue

/-- The call run alone on rows without failures. -/
theorem deferReconciliationCandidate_alone_clean :
    ∃ events rows', Path ColumnsStep (fun _ => some .clean) events rows' ∧ rows' =
      Function.update (fun _ => some .clean) 1 (some (ReconciliationColumns.clean.defer 0)) := by
  have hpath : Path ColumnsStep (fun _ => some .clean) [⟨.get 1, some (some .clean)⟩,
      ⟨.deferUpdate 1 0 0 (.deferredAs 1 0), some true⟩] _ :=
    .cons .get (.cons (.defer (fun h => Bool.noConfusion (Option.some.inj h))
      ⟨_, rfl, rfl, by decide⟩) (.nil _))
  exact ⟨_, _, hpath, deferReconciliationCandidate_alone hpath (Runs.call (Runs.call (Runs.refl _)))
    rfl⟩

/-- All rows pass the table's constraint. -/
def AllChecked (rows : ColumnsRows) : Prop :=
  ∀ recordId columns, rows recordId = some columns → columns.Check

/-- The failure count of the record is one more than before. -/
def RaisedByOne (recordId : ℕ) (rows rows' : ColumnsRows) : Prop :=
  ∃ before after, rows recordId = some before ∧ rows' recordId = some after ∧
    after.failureCount = before.failureCount + 1

section Columns

variable {κ : Type} [DecidableEq κ] {calls : κ → ColumnsCall} {rows rows' : ColumnsRows}
  {trace past future : List (Moment κ ColumnsRows ColumnsRequest ColumnsReply)}
  {moment : Moment κ ColumnsRows ColumnsRequest ColumnsReply}

lemma AllChecked.update (h : AllChecked rows) {value : Option ReconciliationColumns}
    (hvalue : ∀ columns, value = some columns → columns.Check) :
    AllChecked (Function.update rows recordId value) := by
  intro id columns hcolumns
  by_cases hid : id = recordId
  · subst hid
    rw [Function.update_self] at hcolumns
    exact hvalue columns hcolumns
  · rw [Function.update_of_ne hid] at hcolumns
    exact h id columns hcolumns

lemma columnsStep_checked {event : Event ColumnsRequest ColumnsReply}
    (hstep : ColumnsStep rows event rows') (h : AllChecked rows)
    (hvalues : ∀ recordId expected now values,
      event.1 = .deferUpdate recordId expected now values →
      values = ReconciliationColumns.deferredAs (expected + 1) now) : AllChecked rows' := by
  cases hstep with
  | insert =>
    refine h.update fun columns hcolumns => ?_
    cases hcolumns
    exact check_clean
  | @defer recordId expected now =>
    refine h.update fun columns hcolumns => ?_
    cases hcolumns
    rw [hvalues recordId expected now _ rfl]
    exact check_deferredAs expected now
  | @clear recordId =>
    refine h.update fun columns hcolumns => ?_
    obtain ⟨before, hbefore, rfl⟩ := Option.map_eq_some_iff.mp hcolumns
    exact check_clear (h recordId before hbefore)
  | get | noDefer | raised => exact h

section Trace

variable (h : Interleaving ColumnsStep (fun k => (calls k).program) rows trace)

include h

/-- What a request of the system may be. -/
lemma Interleaving.deferUpdate_values (htrace : trace = past ++ moment :: future)
    (hrequest : moment.event.1 = .deferUpdate recordId expected now values) :
    values = ReconciliationColumns.deferredAs (expected + 1) now := by
  have hreaches := h.reaches htrace
  rw [hrequest] at hreaches
  exact reaches_deferUpdate hreaches

/-- The constraint holds whatever the workers do at the same time. -/
lemma columns_always_checked (hrows : AllChecked rows) : AllChecked (stateAfter rows trace) := by
  induction trace using List.reverseRecOn with
  | nil => exact hrows
  | append_singleton trace moment ih =>
    rw [stateAfter_concat]
    refine columnsStep_checked (h.steps trace moment [] rfl) (ih h.of_append) ?_
    intro recordId expected now values hrequest
    exact Interleaving.deferUpdate_values h rfl hrequest

/-- A deferral that is committed counts up by one. -/
lemma deferral_raises_by_one (htrace : trace = past ++ moment :: future)
    (hrequest : moment.event.1 = .deferUpdate recordId expected now values) :
    (moment.state = stateAfter rows past ∨
      RaisedByOne recordId (stateAfter rows past) moment.state) ∧
    (moment.event = ⟨.deferUpdate recordId expected now values, some true⟩ →
      RaisedByOne recordId (stateAfter rows past) moment.state) := by
  have hvalues := Interleaving.deferUpdate_values h htrace hrequest
  have hstep := h.steps past moment future htrace
  obtain ⟨who, ⟨request, reply⟩, state⟩ := moment
  dsimp only at hrequest hstep ⊢
  subst hrequest
  cases hstep with
  | defer hreply hmatches =>
    have hraised : RaisedByOne recordId (stateAfter rows past)
        (Function.update (stateAfter rows past) recordId (some values)) := by
      obtain ⟨before, hbefore, hcount, -⟩ := hmatches
      refine ⟨before, values, hbefore, Function.update_self .., ?_⟩
      rw [hvalues, deferredAs_failureCount, hcount]
    exact ⟨Or.inr hraised, fun _ => hraised⟩
  | noDefer | raised => exact ⟨Or.inl rfl, nofun⟩

end Trace

end Columns

/-! ## Repairs that the stored data refuses -/

/-- The repair of the record raises whenever it is tried. -/
def AlwaysRaises (digests : Digests) (recordId : ℕ) (tables : ReconciliationTables) : Prop :=
  ∀ deliveryId savedAt, ∃ error,
    tables.reconcileStored digests recordId deliveryId savedAt = .error error

/-- The gateway's own checks refuse the row before anything is written: its JSON is no envelope, the
message is no target, the result has no content, or the message has a response that differs. -/
def RefusedRow (digests : Digests) (tables : ReconciliationTables) (record : HermesDispatchRecord)
    (raw : HermesDispatchResponse) (message : DispatchMessage) : Prop :=
  match toStoredOutcome (tables.payloads raw.id) raw record with
  | .error _ => True
  | .ok outcome => TargetRefused message ∨ ContentRefused outcome ∨
      ∃ request existing, (messageTarget message >>= digests.saveRequest outcome) = .ok request ∧
        (tables.database.delivery.responses.find? fun response =>
          response.idempotencyKey = request.idempotencyKey) = some existing ∧
        Differs existing request

/-- The joined rows of the record, refused. -/
def Refused (digests : Digests) (recordId : ℕ) (tables : ReconciliationTables) : Prop :=
  ∃ record raw message, reconciliationRow tables.database recordId =
    some (record, raw, message) ∧ RefusedRow digests tables record raw message

section Refused

variable {digests : Digests} {recordId deliveryId : ℕ} {savedAt now : Timestamp}
  {tables tables' : ReconciliationTables} {record : HermesDispatchRecord}
  {raw : HermesDispatchResponse} {message : DispatchMessage} {request : SaveRequest}
  {existing : ResponseRecord} {delivery : DeliveryTables} {error : ResponsePersistenceError}

/-- A refused record raises an error that is not one of the database, whenever it is tried. -/
lemma Refused.raises (h : Refused digests recordId tables) (deliveryId : ℕ)
    (savedAt : Timestamp) :
    ∃ error, tables.reconcileStored digests recordId deliveryId savedAt = .error error ∧
      error.isDatabase = false := by
  obtain ⟨record, raw, message, hrow, hrefused⟩ := h
  rw [ReconciliationTables.reconcileStored, reconcileStored_eq hrow]
  unfold RefusedRow at hrefused
  cases houtcome : toStoredOutcome (tables.payloads raw.id) raw record with
  | error error => exact ⟨.payload, rfl, rfl⟩
  | ok outcome =>
    simp only [houtcome] at hrefused ⊢
    rcases saveRequest_cases digests message outcome with ⟨-, reason, hraised⟩ |
      ⟨hnot, request, hrequest⟩
    · rw [hraised]
      exact ⟨_, rfl, by simp [ReconciliationError.isDatabase]⟩
    · rw [hrequest]
      rcases hrefused with htarget | hcontent | ⟨other, existing, hother, hfind, hdiffers⟩
      · exact absurd (Or.inl htarget) hnot
      · exact absurd (Or.inr hcontent) hnot
      · cases hrequest.symm.trans hother
        refine ⟨.response (.conflict existing.idempotencyKey), ?_, by
          simp [ReconciliationError.isDatabase]⟩
        simp only [saveRequested, hfind, saveExisting, requireCompatibleResponse,
          raiseIf_of hdiffers, Bind.bind, Except.bind]

/-- Without a delivery of the message only the response can be refused. -/
lemma saveRequested_error (hnone : ¬ HasDelivery delivery request.outcome.messageId)
    (h : saveRequested request deliveryId savedAt delivery = .error error)
    (hkind : error ≠ .integrity) :
    ∃ existing, (delivery.responses.find? fun response =>
        response.idempotencyKey = request.idempotencyKey) = some existing ∧
      Differs existing request := by
  unfold saveRequested at h
  split at h
  · rename_i existing hfind
    refine ⟨existing, hfind, by_contra fun hdiffers => ?_⟩
    -- with a compatible response a delivery is missing, and saving it can only clash
    have hmissing : ∀ row ∈ delivery.deliveries, row.responseId ≠ existing.responseId :=
      fun row hrow hof => hnone ⟨row, hrow, existing, List.mem_of_find?_eq_some hfind, hof.symm,
        messageId_of_not_differs hdiffers⟩
    rw [saveExisting_missing hdiffers hmissing] at h
    rcases bind_eq_error.mp h with h | ⟨-, -, h⟩
    · exact hkind (raiseIf_eq_error.mp h).2.symm
    · cases h
  · rcases bind_eq_error.mp h with h | ⟨-, -, h⟩
    · exact absurd (raiseIf_eq_error.mp h).2.symm hkind
    · cases h

/-- A candidate whose repair raises an error of its own is refused. -/
lemma refused_of_error (hwf : Wellformed tables.database)
    (hrecord : record ∈ tables.database.dispatch.records)
    (hcandidate : tables.IsCandidate now record) {error : ReconciliationError}
    (h : tables.reconcileStored digests record.id deliveryId savedAt = .error error)
    (hkind : error.isDatabase = false) : Refused digests record.id tables := by
  obtain ⟨raw, message, hrow⟩ := reconciliationRow_of_isCandidate hwf hrecord hcandidate
  refine ⟨record, raw, message, hrow, ?_⟩
  -- a candidate has no delivery: one would come with a response
  have hnone : ¬ HasDelivery tables.database.delivery record.messageId := by
    rintro ⟨row, hin, response, hresponse, hof, hmessage⟩
    rcases hcandidate.2.2.2.2 with hno | hno
    · exact hno ⟨response, hresponse, hmessage⟩
    · exact hno ⟨row, hin, response, hresponse, hof, hmessage⟩
  rw [ReconciliationTables.reconcileStored, reconcileStored_eq hrow] at h
  unfold RefusedRow
  cases houtcome : toStoredOutcome (tables.payloads raw.id) raw record with
  | error invalid => trivial
  | ok outcome =>
    simp only [houtcome] at h ⊢
    rcases saveRequest_cases digests message outcome with ⟨hrefused, -⟩ | ⟨-, request, hrequest⟩
    · exact hrefused.imp_right Or.inl
    · rw [hrequest] at h
      have hmessage : request.outcome.messageId = record.messageId := by
        obtain ⟨target, -, htarget⟩ := bind_eq_ok.mp hrequest
        rw [saveRequest_outcome htarget, toStoredOutcome_messageId houtcome]
      cases hsave : saveRequested request deliveryId savedAt tables.database.delivery with
      | error refusal =>
        simp only [hsave] at h
        cases h
        obtain ⟨existing, hfind, hdiffers⟩ := saveRequested_error (hmessage.symm ▸ hnone) hsave
          (by simpa [ReconciliationError.isDatabase] using hkind)
        exact Or.inr (Or.inr ⟨request, existing, hrequest, hfind, hdiffers⟩)
      | ok saved =>
        simp only [hsave] at h
        cases h

/-- What the gateway has refused it refuses for ever: responses are only added. -/
lemma Refused.of_touches {ids : List ℕ} (h : Refused digests recordId tables)
    (htouches : Touches ids tables tables') : Refused digests recordId tables' := by
  obtain ⟨record, raw, message, hrow, hrefused⟩ := h
  refine ⟨record, raw, message, by rw [htouches.reconciliationRow, hrow], ?_⟩
  unfold RefusedRow at hrefused ⊢
  rw [htouches.payloads]
  cases houtcome : toStoredOutcome (tables.payloads raw.id) raw record with
  | error invalid => trivial
  | ok outcome =>
    simp only [houtcome] at hrefused ⊢
    refine hrefused.imp_right (Or.imp_right ?_)
    rintro ⟨request, existing, hrequest, hfind, hdiffers⟩
    obtain ⟨rows, hrows⟩ := htouches.appended
    refine ⟨request, existing, hrequest, ?_, hdiffers⟩
    rw [← hrows, List.find?_append, hfind]
    rfl

end Refused

/-! ## Five attempts -/

/-- Nothing but the stored data makes the attempt fail. -/
def AttemptInput.Undisturbed (input : AttemptInput) : Prop :=
  input.fault = none ∧ input.deferFault = none

instance : DecidablePred AttemptInput.Undisturbed := fun _ => inferInstanceAs (Decidable (_ ∧ _))

/-- How often the record was attempted. -/
def attemptsAt (recordId : ℕ) (attempts : List (ℕ × AttemptResult)) : ℕ :=
  attempts.countP fun attempt => attempt.1 = recordId

/-- The columns after so many deferrals of a record that had none. -/
def DeferredTimes (times : ℕ) (columns : ReconciliationColumns) : Prop :=
  times = 0 ∧ columns = .clean ∨
    (1 ≤ times ∧ times ≤ reconciliationQuarantineFailures) ∧
      ∃ now, columns = .deferredAs times now

lemma DeferredTimes.le (h : DeferredTimes times columns) :
    times ≤ reconciliationQuarantineFailures := by
  rcases h with ⟨rfl, -⟩ | ⟨hle, -⟩
  · exact Nat.zero_le _
  · exact hle.2

lemma DeferredTimes.quarantined (h : DeferredTimes reconciliationQuarantineFailures columns) :
    columns.quarantinedAt ≠ none := by
  rcases h with ⟨hzero, -⟩ | ⟨-, now, rfl⟩
  · cases hzero
  · rw [ReconciliationColumns.deferredAs, if_pos le_rfl]
    exact nofun

/-- The columns count the deferrals, and no record is due after the last one. -/
lemma DeferredTimes.next (h : DeferredTimes times columns) (hdue : columns.Due now) :
    DeferredTimes (times + 1) (.deferredAs (columns.failureCount + 1) now) := by
  have hcount : columns.failureCount = times := by
    rcases h with ⟨rfl, rfl⟩ | ⟨-, earlier, rfl⟩
    · rfl
    · exact deferredAs_failureCount times earlier
  have hlt : times < reconciliationQuarantineFailures := by
    rcases Nat.lt_or_eq_of_le h.le with hlt | rfl
    · exact hlt
    · exact absurd hdue.1 h.quarantined
  rw [hcount]
  exact Or.inr ⟨⟨by simp, hlt⟩, now, rfl⟩

/-- Before the last deferral the record becomes due again. -/
lemma DeferredTimes.due (h : DeferredTimes times columns)
    (hlt : times < reconciliationQuarantineFailures) :
    ∃ later, ∀ now, later ≤ now → columns.Due now := by
  rcases h with ⟨-, rfl⟩ | ⟨-, at', rfl⟩
  · exact ⟨0, fun now _ => ⟨rfl, nofun⟩⟩
  · refine ⟨at' + reconciliationDelay times, fun now hnow => ?_⟩
    rw [ReconciliationColumns.deferredAs, if_neg (not_le.mpr hlt)]
    refine ⟨rfl, fun next hnext => ?_⟩
    cases hnext
    exact hnow

section Poison

variable {digests : Digests} {limit recordId : ℕ} {now : Timestamp} {tables : ReconciliationTables}
  {worker : Reconciler} {call : ReconcileCall} {input : AttemptInput} {ids : List ℕ}

@[simp] lemma attemptsAt_cons_self (result : AttemptResult)
    (attempts : List (ℕ × AttemptResult)) :
    attemptsAt recordId ((recordId, result) :: attempts) = attemptsAt recordId attempts + 1 :=
  List.countP_cons_of_pos (by simp)

lemma attemptsAt_cons_of_ne {id : ℕ} (hid : id ≠ recordId) (result : AttemptResult)
    (attempts : List (ℕ × AttemptResult)) :
    attemptsAt recordId ((id, result) :: attempts) = attemptsAt recordId attempts :=
  List.countP_cons_of_neg (by simpa using hid)

@[simp] lemma attemptsAt_append (attempts later : List (ℕ × AttemptResult)) :
    attemptsAt recordId (attempts ++ later) =
      attemptsAt recordId attempts + attemptsAt recordId later :=
  List.countP_append

lemma attemptsAt_eq_zero {attempts : List (ℕ × AttemptResult)} (hids : attempts.map Prod.fst ⊆ ids)
    (hnot : recordId ∉ ids) : attemptsAt recordId attempts = 0 := by
  apply List.countP_eq_zero.mpr
  intro attempt hmem
  rw [decide_eq_true_eq]
  rintro rfl
  exact hnot (hids (List.mem_map_of_mem hmem))

/-- An attempt at a refused record defers it. -/
lemma attempt_refused (h : Refused digests recordId tables) (hinput : input.Undisturbed) :
    attempt digests now input recordId tables =
      (tables.deferReconciliationCandidate recordId now, .deferred) := by
  have hovertake : tables.overtake digests recordId input.overtaken = tables := by
    unfold ReconciliationTables.overtake
    split
    · rfl
    · rename_i deliveryId savedAt hovertaken
      obtain ⟨error, herror, -⟩ := h.raises deliveryId savedAt
      rw [herror]
  have hrepair : repair digests input recordId tables = (tables, .raised false) := by
    obtain ⟨error, herror, hkind⟩ := h.raises input.deliveryId input.savedAt
    obtain ⟨record, raw, message, hrow, -⟩ := h
    have hopened : input.faultAt .opened = none := by
      rw [AttemptInput.faultAt, hinput.1]
      rfl
    unfold repair
    simp only [hopened, hrow, herror, hkind]
  unfold attempt
  simp only [hovertake, hrepair, hinput.2]

lemma Refused.deferred (h : Refused digests recordId tables)
    (hdue : (tables.failures recordId).Due now) :
    tables.deferReconciliationCandidate recordId now = tables.setFailure recordId
      (.deferredAs ((tables.failures recordId).failureCount + 1) now) := by
  obtain ⟨record, raw, message, hrow, -⟩ := h
  obtain ⟨hrecord, hid⟩ := reconciliationRow_record hrow
  unfold ReconciliationTables.deferReconciliationCandidate
  split
  · rename_i hnone
    exact absurd (decide_eq_true hid) (List.find?_eq_none.mp hnone record hrecord)
  · rw [ReconciliationColumns.defer, if_pos hdue]

/-- A candidate that the gateway refuses, after so many deferrals of it: but for the time it has to
wait it is a candidate still. -/
structure Poisoned (digests : Digests) (record : HermesDispatchRecord) (times : ℕ)
    (tables : ReconciliationTables) : Prop where
  wellformed : Wellformed tables.database
  mem : record ∈ tables.database.dispatch.records
  refused : Refused digests record.id tables
  deferred : DeferredTimes times (tables.failures record.id)
  candidate : ∀ now, (tables.failures record.id).Due now → tables.IsCandidate now record

namespace Poisoned

variable {record : HermesDispatchRecord} {times : ℕ} {tables' : ReconciliationTables}

/-- Repairs of other records do not matter to it. -/
lemma of_touches (h : Poisoned digests record times tables) (htouches : Touches ids tables tables')
    (hid : record.id ∉ ids) :
    Poisoned digests record times tables' where
  wellformed := htouches.wellformed h.wellformed
  mem := htouches.dispatch.symm ▸ h.mem
  refused := h.refused.of_touches htouches
  deferred := (htouches.failures record.id hid).symm ▸ h.deferred
  candidate now hdue := (htouches.isCandidate_iff h.mem hid now).mpr
    (h.candidate now (htouches.failures record.id hid ▸ hdue))

/-- One more deferral. -/
lemma defer (h : Poisoned digests record times tables)
    (hdue : (tables.failures record.id).Due now) :
    Poisoned digests record (times + 1) (tables.deferReconciliationCandidate record.id now) := by
  obtain ⟨hstatus, hraw, hmessage, -, hlacks⟩ := h.candidate now hdue
  rw [h.refused.deferred hdue]
  refine ⟨h.wellformed, h.mem, h.refused, ?_, fun later hlater =>
    ⟨hstatus, hraw, hmessage, hlater, hlacks⟩⟩
  simp only [ReconciliationTables.setFailure, Function.update_self]
  exact h.deferred.next hdue

/-- A batch defers the record when it attempts it, and does not touch it otherwise. -/
lemma batch (hinput : (call.inputs record.id).Undisturbed) (ids : List ℕ) (hnodup : ids.Nodup)
    (worker : Reconciler) (h : Poisoned digests record times worker.tables)
    (hdue : record.id ∈ ids → (worker.tables.failures record.id).Due call.now) :
    Poisoned digests record
      (times + attemptsAt record.id (reconcileBatch digests call ids worker).2)
      (reconcileBatch digests call ids worker).1.tables := by
  induction ids generalizing worker times with
  | nil => exact h
  | cons id rest ih =>
    obtain ⟨hid, hrest⟩ := List.nodup_cons.mp hnodup
    rw [reconcileBatch]
    by_cases hmine : id = record.id
    · -- the record itself: what comes after it in the batch are others
      subst hmine
      have hdeferred := h.defer (hdue List.mem_cons_self)
      have hworked := reconcileBatch_worked digests call rest
        ⟨worker.tables.deferReconciliationCandidate record.id call.now, record.id⟩
        hdeferred.wellformed
      have hlater := hdeferred.of_touches hworked.touches fun hin =>
        hid (hworked.start.subset hin)
      simp only [attempt_refused h.refused hinput, AttemptResult.Ends, if_false,
        attemptsAt_cons_self, attemptsAt_eq_zero hworked.start.subset hid]
      exact hlater
    · have htouches := attempt_touches digests id h.wellformed call.now (call.inputs id)
      have hother : record.id ∉ [id] := fun hin => hmine (List.mem_singleton.mp hin).symm
      have hnext := h.of_touches htouches hother
      by_cases hends : (attempt digests call.now (call.inputs id) id worker.tables).2.Ends
      · simp only [if_pos hends, attemptsAt_cons_of_ne hmine]
        exact hnext
      · simp only [if_neg hends, attemptsAt_cons_of_ne hmine]
        refine ih hrest _ hnext fun hin => ?_
        rw [htouches.failures record.id hother]
        exact hdue (List.mem_cons_of_mem _ hin)

end Poisoned

/-- A call is one batch of candidates. -/
lemma reconcileOnce_eq_batch (digests : Digests) (limit : ℕ) (worker : Reconciler)
    (call : ReconcileCall) :
    ∃ ids start, ids.Sublist (worker.tables.dueIds call.now) ∧
      reconcileOnce digests limit worker call =
        reconcileBatch digests call ids { worker with reconciliationCursor := start } := by
  have hsub : ∀ after, (worker.tables.reconciliationCandidateIds limit after call.now).Sublist
      (worker.tables.dueIds call.now) := fun after =>
    (List.take_sublist _ _).trans List.filter_sublist
  unfold reconcileOnce
  split
  · split
    · exact ⟨[], worker.reconciliationCursor, List.nil_sublist _, rfl⟩
    · exact ⟨_, 0, hsub 0, rfl⟩
  · exact ⟨_, worker.reconciliationCursor, hsub _, rfl⟩

lemma failures_due_of_mem_dueIds
    (h : recordId ∈ tables.dueIds now) : (tables.failures recordId).Due now := by
  obtain ⟨record, -, hcandidate, rfl⟩ := mem_dueIds.mp h
  exact hcandidate.2.2.2.1

/-- Over any calls, the columns of a refused record count its attempts. -/
lemma Poisoned.calls {record : HermesDispatchRecord} (calls : List ReconcileCall)
    (hinputs : ∀ call ∈ calls, (call.inputs record.id).Undisturbed) (worker : Reconciler)
    (h : Poisoned digests record times worker.tables) :
    Poisoned digests record
      (times + attemptsAt record.id (reconcileCalls digests limit worker calls).2.flatten)
      (reconcileCalls digests limit worker calls).1.tables := by
  induction calls generalizing worker times with
  | nil => exact h
  | cons call calls ih =>
    obtain ⟨ids, start, hsub, hbatch⟩ := reconcileOnce_eq_batch digests limit worker call
    have hnext := Poisoned.batch (hinputs call List.mem_cons_self) ids
      (hsub.nodup ((dueIds_sorted h.wellformed).imp ne_of_lt))
      { worker with reconciliationCursor := start } h
      fun hin => failures_due_of_mem_dueIds (hsub.subset hin)
    rw [← hbatch] at hnext
    have hlater := ih (fun other hmem => hinputs other (List.mem_cons_of_mem _ hmem)) _ hnext
    rw [reconcileCalls_cons]
    simp only [List.flatten_cons, attemptsAt_append, ← Nat.add_assoc]
    exact hlater

/-- Enough calls at a time when the record is due attempt it. -/
lemma one_le_attemptsAt (digests : Digests)
    (hlimit : 0 < limit) (worker : Reconciler) (hwf : Wellformed worker.tables.database)
    (calls : List ReconcileCall) (hnow : ∀ call ∈ calls, call.now = now)
    (hmany : (worker.tables.dueIds now).length ≤ calls.length)
    (hdue : recordId ∈ worker.tables.dueIds now) :
    1 ≤ attemptsAt recordId (reconcileCalls digests limit worker calls).2.flatten := by
  obtain ⟨result, hmem⟩ := reconcileCalls_attempts digests hlimit worker hwf calls hnow hmany hdue
  exact List.countP_pos_iff.mpr ⟨_, hmem, by simp⟩

/-! ## No quarantine for integrity errors -/

/-- A call in which the repair of the record runs undisturbed and the database is down for all
others. -/
def onlyCall (recordId deliveryId : ℕ) (savedAt now : Timestamp) : ReconcileCall where
  now := now
  inputs := fun id =>
    if id = recordId then ⟨deliveryId, savedAt, none, none, none⟩
    else ⟨deliveryId, savedAt, none, some ⟨.opened, true⟩, none⟩

variable {deliveryId : ℕ} {savedAt : Timestamp}

/-- An integrity error gets out of the call, and nothing has changed. -/
lemma attempt_integrity (h : tables.reconcileStored digests recordId deliveryId savedAt =
    .error (.response .integrity)) (now : Timestamp) (id : ℕ) :
    attempt digests now ((onlyCall recordId deliveryId savedAt now).inputs id) id tables =
      (tables, .raised) := by
  by_cases hid : id = recordId
  · subst hid
    have hrow : reconciliationRow tables.database id ≠ none := by
      intro hnone
      simp only [ReconciliationTables.reconcileStored, reconcileStored, hnone] at h
      cases h
    obtain ⟨row, hrow⟩ := Option.ne_none_iff_exists'.mp hrow
    simp only [onlyCall, if_true, attempt, ReconciliationTables.overtake, repair,
      AttemptInput.faultAt, Option.filter, Option.map, hrow, h]
    rfl
  · simp only [onlyCall, if_neg hid]
    rfl

/-- Such a call makes no progress at all. -/
lemma reconcileCalls_integrity (h : worker.tables.reconcileStored digests recordId deliveryId
    savedAt = .error (.response .integrity)) (limit : ℕ) (now : Timestamp) (times : ℕ) :
    (reconcileCalls digests limit worker
      (List.replicate times (onlyCall recordId deliveryId savedAt now))).1.tables =
      worker.tables := by
  have hbatch : ∀ (ids : List ℕ) (worker' : Reconciler), worker'.tables = worker.tables →
      (reconcileBatch digests (onlyCall recordId deliveryId savedAt now) ids worker').1.tables =
        worker.tables := by
    intro ids worker' htables
    cases ids with
    | nil => exact htables
    | cons id rest =>
      rw [reconcileBatch, htables]
      have hattempt := attempt_integrity h now id
      simp only [show (onlyCall recordId deliveryId savedAt now).now = now from rfl, hattempt]
      rfl
  suffices hall : ∀ worker' : Reconciler, worker'.tables = worker.tables →
      (reconcileCalls digests limit worker' (List.replicate times
        (onlyCall recordId deliveryId savedAt now))).1.tables = worker.tables from
    hall worker rfl
  induction times with
  | zero => exact fun worker' htables => htables
  | succ times ih =>
    intro worker' htables
    obtain ⟨ids, start, -, honce⟩ := reconcileOnce_eq_batch digests limit worker'
      (onlyCall recordId deliveryId savedAt now)
    rw [List.replicate_succ, reconcileCalls_cons, honce]
    exact ih _ (hbatch ids _ htables)

lemma reconcileCalls_append (digests : Digests) (limit : ℕ) (calls later : List ReconcileCall)
    (worker : Reconciler) :
    (reconcileCalls digests limit worker (calls ++ later)).2 =
      (reconcileCalls digests limit worker calls).2 ++
        (reconcileCalls digests limit (reconcileCalls digests limit worker calls).1 later).2 := by
  induction calls generalizing worker with
  | nil => rfl
  | cons call calls ih =>
    rw [List.cons_append, reconcileCalls_cons, reconcileCalls_cons]
    exact congrArg ((reconcileOnce digests limit worker call).2 :: ·)
      (ih (reconcileOnce digests limit worker call).1)

/-- A candidate that the database refuses is attempted as often as one likes. -/
lemma attemptsAt_integrity (hlimit : 0 < limit) (worker : Reconciler)
    (hwf : Wellformed worker.tables.database)
    (hdue : recordId ∈ worker.tables.dueIds now)
    (h : worker.tables.reconcileStored digests recordId deliveryId savedAt =
      .error (.response .integrity)) (times : ℕ) :
    times ≤ attemptsAt recordId (reconcileCalls digests limit worker (List.replicate
      (times * (worker.tables.dueIds now).length)
      (onlyCall recordId deliveryId savedAt now))).2.flatten := by
  induction times generalizing worker with
  | zero => exact Nat.zero_le _
  | succ times ih =>
    have hfirst := one_le_attemptsAt digests hlimit worker hwf (List.replicate
      (worker.tables.dueIds now).length (onlyCall recordId deliveryId savedAt now))
      (fun call hcall => by rw [List.eq_of_mem_replicate hcall]; rfl)
      (by rw [List.length_replicate]) hdue
    have hsame := reconcileCalls_integrity h limit now (worker.tables.dueIds now).length
    have hlater := ih (reconcileCalls digests limit worker (List.replicate
      (worker.tables.dueIds now).length (onlyCall recordId deliveryId savedAt now))).1
      (hsame.symm ▸ hwf) (hsame.symm ▸ hdue) (hsame.symm ▸ h)
    rw [hsame] at hlater
    rw [Nat.succ_mul, Nat.add_comm (times * _), List.replicate_add, reconcileCalls_append,
      List.flatten_append, attemptsAt_append]
    omega

end Poison

/-- The record is attempted five times at most. Before the fifth time it becomes due again, and
enough calls at a time when it is due attempt it; after the fifth time it is quarantined and not a
candidate at any time. -/
def QuarantinedInTime (digests : Digests) (limit : ℕ) (worker : Reconciler) (recordId : ℕ) : Prop :=
  ∀ calls : List ReconcileCall, (∀ call ∈ calls, (call.inputs recordId).Undisturbed) →
    let result := reconcileCalls digests limit worker calls
    attemptsAt recordId result.2.flatten ≤ 5 ∧
    (attemptsAt recordId result.2.flatten < 5 → ∃ later, ∀ now, later ≤ now →
      recordId ∈ result.1.tables.dueIds now ∧
      ∀ again : List ReconcileCall, (∀ call ∈ again, call.now = now) →
        (result.1.tables.dueIds now).length ≤ again.length →
        1 ≤ attemptsAt recordId (reconcileCalls digests limit result.1 again).2.flatten) ∧
    (attemptsAt recordId result.2.flatten = 5 →
      (result.1.tables.failures recordId).quarantinedAt ≠ none ∧
      ∀ now, recordId ∉ result.1.tables.dueIds now)

lemma Poisoned.quarantinedInTime {digests : Digests} {limit : ℕ} {record : HermesDispatchRecord}
    {worker : Reconciler} (hlimit : 0 < limit) (h : Poisoned digests record 0 worker.tables) :
    QuarantinedInTime digests limit worker record.id := by
  intro calls hinputs result
  have hafter : Poisoned digests record (0 + attemptsAt record.id result.2.flatten)
      result.1.tables := h.calls calls hinputs worker
  rw [Nat.zero_add] at hafter
  refine ⟨hafter.deferred.le, fun hfew => ?_, fun hfive => ?_⟩
  · obtain ⟨later, hlater⟩ := hafter.deferred.due hfew
    refine ⟨later, fun now hnow => ?_⟩
    have hdue : record.id ∈ result.1.tables.dueIds now := mem_dueIds.mpr
      ⟨record, hafter.mem, hafter.candidate now (hlater now hnow), rfl⟩
    exact ⟨hdue, fun again hagain hmany =>
      one_le_attemptsAt digests hlimit result.1 hafter.wellformed again hagain hmany hdue⟩
  · have hquarantined := (hfive ▸ hafter.deferred).quarantined
    exact ⟨hquarantined, fun now hdue => hquarantined (failures_due_of_mem_dueIds hdue).1⟩

/-- However the workers interleave, the failure columns pass the table's constraint and a committed
deferral counts up by one. For one worker, a candidate whose repair always raises is quarantined
in time exactly when its stored rows are refused: when the JSON column is no envelope, the message
no target, the result without content, or the response that is there a different one. -/
theorem poison_quarantined_iff (digests : Digests) (limit : ℕ) (worker : Reconciler)
    (now : Timestamp) :
    (∀ (κ : Type) [DecidableEq κ] (calls : κ → ColumnsCall) (rows : ColumnsRows)
        (trace : List (Moment κ ColumnsRows ColumnsRequest ColumnsReply)),
      AllChecked rows → Interleaving ColumnsStep (fun k => (calls k).program) rows trace →
      AllChecked (stateAfter rows trace) ∧
      ∀ past moment future, trace = past ++ moment :: future →
        ∀ recordId expected now values,
          moment.event.1 = .deferUpdate recordId expected now values →
          (moment.state = stateAfter rows past ∨
            RaisedByOne recordId (stateAfter rows past) moment.state) ∧
          (moment.event = ⟨.deferUpdate recordId expected now values, some true⟩ →
            RaisedByOne recordId (stateAfter rows past) moment.state)) ∧
    (0 < limit → Wellformed worker.tables.database →
      ∀ record ∈ worker.tables.database.dispatch.records,
      worker.tables.IsCandidate now record → worker.tables.failures record.id = .clean →
      AlwaysRaises digests record.id worker.tables →
      (QuarantinedInTime digests limit worker record.id ↔
        Refused digests record.id worker.tables)) := by
  constructor
  · intro κ _ calls rows trace hrows h
    exact ⟨columns_always_checked h hrows, fun past moment future htrace recordId expected now
      values hrequest => deferral_raises_by_one h htrace hrequest⟩
  intro hlimit hwf record hrecord hcandidate hclean hraises
  constructor
  · -- what is not refused is an integrity error: it never defers, and there is a run with six
    -- attempts
    intro hquarantined
    by_contra hnot
    obtain ⟨error, herror⟩ := hraises 0 0
    have hintegrity : error = .response .integrity := by
      by_contra hother
      refine hnot (refused_of_error hwf hrecord hcandidate herror ?_)
      cases error with
      | payload => rfl
      | response refusal => exact decide_eq_false fun hkind => hother (congrArg _ hkind)
    have hsix := attemptsAt_integrity hlimit worker hwf
      (mem_dueIds.mpr ⟨record, hrecord, hcandidate, rfl⟩) (hintegrity ▸ herror) 6
    have hfive := (hquarantined (List.replicate (6 * (worker.tables.dueIds now).length)
      (onlyCall record.id 0 0 now)) fun call hcall => by
        rw [List.eq_of_mem_replicate hcall]
        exact ⟨by simp [onlyCall], by simp [onlyCall]⟩).1
    omega
  · intro hrefused
    refine Poisoned.quarantinedInTime hlimit ⟨hwf, hrecord, hrefused, Or.inl ⟨rfl, hclean⟩, ?_⟩
    exact fun later hdue => ⟨hcandidate.1, hcandidate.2.1, hcandidate.2.2.1, hdue,
      hcandidate.2.2.2.2⟩

/-- Digests that tell the deliveries of different responses apart. -/
def keyedDigests : Digests :=
  ⟨fun _ => "content", fun target => target.conversationId, fun responseKey targetKey =>
    responseKey ++ ":" ++ targetKey⟩

/-- A message whose stored envelope carries the id that the response of another message has. -/
def clashingDatabase : Database where
  messages := waitingDatabase.messages
  dispatch := waitingDatabase.dispatch
  delivery := ⟨[⟨"legacy-response:message:8", "v1:hermes-response:message:8", 8, "workspace",
      "thread", "content", 1, .generated, some 0, none, none, none, none, none,
      [.text "answer"]⟩],
    [newDelivery 1 "legacy-response:message:8"
      "v1:response-delivery:v1:hermes-response:message:8:chat" ⟨"wechat", "account", "chat"⟩ "chat"
      0], [], []⟩

/-- The stored column of the first message. -/
def clashingPayload : JsonValue :=
  .object [("response_id", .string "legacy-response:message:8"),
    ("parts", .array [.object [("type", .string "text"), ("text", .string "answer")]])]

/-- A worker on the two messages. -/
def clashingReconciler : Reconciler :=
  ⟨⟨clashingDatabase, fun id => if id = 1 then some clashingPayload else none, fun _ => .clean⟩, 0⟩

/-- Six attempts, and the record is as due as before the first. -/
theorem clashing_response_never_quarantined :
    (reconcileCalls keyedDigests reconciliationBatchSize clashingReconciler
        (List.replicate 6 (onlyCall 1 5 0 0))).2 = List.replicate 6 [(1, .raised)] ∧
    (reconcileCalls keyedDigests reconciliationBatchSize clashingReconciler
        (List.replicate 6 (onlyCall 1 5 0 0))).1.tables.failures 1 = .clean ∧
    (reconcileCalls keyedDigests reconciliationBatchSize clashingReconciler
        (List.replicate 6 (onlyCall 1 5 0 0))).1.tables.dueIds 0 = [1] := by
  decide +kernel

/-- A worker on the two messages of which the first has a stored column that is no envelope. -/
def poisonedReconciler : Reconciler :=
  ⟨⟨waitingDatabase, fun id => if id = 1 then some (.object []) else none, fun _ => .clean⟩, 0⟩

/-- A column that is no envelope is quarantined in time. -/
theorem invalid_payload_quarantined :
    QuarantinedInTime constantDigests reconciliationBatchSize poisonedReconciler 1 :=
  ((poison_quarantined_iff constantDigests reconciliationBatchSize poisonedReconciler 0).2
    (by decide)
    ⟨by simp [UniqueKeys, poisonedReconciler, waitingDatabase],
      by simp [UniqueKeys, poisonedReconciler, waitingDatabase, newRecord], by decide,
      by simp [UniqueKeys, poisonedReconciler, waitingDatabase, newRecord],
      by simp [UniqueKeys, poisonedReconciler, waitingDatabase]⟩
    { newRecord ⟨7, "identity", "workspace", "thread"⟩ 1 0 with status := .success }
    (by decide) (by decide +kernel) rfl (fun _ _ => ⟨.payload, rfl⟩)).mpr
    ⟨_, _, _, rfl, trivial⟩

end AgentGateway.Response
