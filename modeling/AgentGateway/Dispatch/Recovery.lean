import AgentGateway.Dispatch.Execution

/-!
# Recovery actions, statement by statement

An operator's `retry_approved`, `mark_dead` or `confirm_success` is not one transaction: `_resolve`
looks for an audit under its reference, reads the record, verifies evidence, and only then runs the
transaction that updates the record and inserts the audit. Between any two of these statements
workers, scans and other operators may commit.

`AdminWorld` is the worker system with any number of such calls in flight. A call that nobody
interrupts is `resolve` (`adminRun_eq_resolve`). The audit table is faithful to the transitions it
records (`recovery_audit_faithful_iff`), except that it carries the error code which the call has
read: the guard of the `UPDATE` does not compare it, and the record may have failed again since.
-/

namespace AgentGateway.Dispatch

open Lib Lib.Table Lib.Run

/-! ## Calls in flight -/

/-- Where a recovery call stands in `_resolve`. `refused` is behind the rollback of its
transaction. -/
inductive AdminPhase
  | started
  | unaudited
  | loaded (record : HermesDispatchRecord)
  | ready (record : HermesDispatchRecord) (evidenceId : Option ℕ)
  | refused
  | returned (result : Except DispatchRecoveryError DispatchRecoveryResult)
  | gone
  deriving DecidableEq

/-- A recovery call of an operator. -/
structure Admin where
  action : HermesDispatchRecoveryAction
  request : RecoveryRequest
  phase : AdminPhase
  deriving DecidableEq

/-- The status an action gives to the record. -/
def HermesDispatchRecoveryAction.afterStatus : HermesDispatchRecoveryAction → HermesDispatchStatus
  | .retryApproved => .failed
  | .markDead => .dead
  | .confirmSuccess => .success

/-- The columns of `uq_dispatch_recovery_reference`. -/
def HermesDispatchRecoveryAudit.key (audit : HermesDispatchRecoveryAudit) :
    ℕ × HermesDispatchRecoveryAction × String :=
  (audit.dispatchRecordId, audit.action, audit.reference)

/-- The key of the audit that a call looks for, and writes. -/
def Admin.key (admin : Admin) : ℕ × HermesDispatchRecoveryAction × String :=
  (admin.request.recordId, admin.action, admin.request.reference)

/-- The audit a call writes, with the error code of the record it has read. -/
def Admin.audit (admin : Admin) (record : HermesDispatchRecord) (evidenceId : Option ℕ) :
    HermesDispatchRecoveryAudit :=
  newAudit admin.action admin.action.afterStatus admin.request record.lastErrorCode evidenceId

/-- The transaction of a call, in a table with other calls: another audit with its key is an
`IntegrityError`. -/
def Admin.commit (admin : Admin) (audit : HermesDispatchRecoveryAudit) (tables : DispatchTables) :
    Except DispatchRecoveryError DispatchTables := do
  raiseIf (∃ other ∈ tables.audits, other.key = audit.key) .stateConflict
  commitResolution admin.action admin.action.afterStatus admin.request audit tables

/-- The audit under the reference of a call. -/
abbrev Admin.existing (admin : Admin) (tables : DispatchTables) :
    Option HermesDispatchRecoveryAudit :=
  auditFor admin.request.recordId admin.action admin.request.reference tables.audits

/-- What a call returns whose transaction has gone through. -/
def Admin.result (admin : Admin) : DispatchRecoveryResult :=
  ⟨admin.request.recordId, admin.action, admin.action.afterStatus, admin.request.auditId, false⟩

/-- The end of a call that finds an audit under its reference. -/
def Admin.replay (admin : Admin) (audit : HermesDispatchRecoveryAudit) : AdminPhase :=
  .returned (idempotentResult audit admin.request.operator admin.request.reason)

/-- How the database answers the transaction: as it should, not at all although it has committed,
or with an error after which nothing is committed. -/
inductive CommitAnswer
  | answered
  | lost
  | failed
  deriving DecidableEq, Repr

/-- The evidence a call needs. -/
def Admin.requiredEvidence (admin : Admin) (evidence : NormalizedEvidence) :
    Option NormalizedEvidence :=
  if admin.action = .confirmSuccess then some evidence else none

/-- One statement of a recovery call. -/
def adminStep (tables : DispatchTables) (admin : Admin) (evidence : NormalizedEvidence)
    (answer : CommitAnswer) : DispatchTables × AdminPhase :=
  match admin.phase with
  | .started =>
    match admin.existing tables with
    | some existing => (tables, admin.replay existing)
    | none => (tables, .unaudited)
  | .unaudited =>
    match tables.records.find? fun record => record.id = admin.request.recordId with
    | none => (tables, .returned (.error .notFound))
    | some record =>
      if record.status ≠ .uncertain then (tables, .returned (.error .stateConflict))
      else (tables, .loaded record)
  | .loaded record =>
    match evidenceIdFor (admin.requiredEvidence evidence) admin.request.recordId
        tables.responses with
    | .error error => (tables, .returned (.error error))
    | .ok evidenceId => (tables, .ready record evidenceId)
  | .ready record evidenceId =>
    match answer, admin.commit (admin.audit record evidenceId) tables with
    | .failed, _ => (tables, .gone)
    | .lost, .ok committed => (committed, .gone)
    | .lost, .error _ => (tables, .gone)
    | .answered, .ok committed => (committed, .returned (.ok admin.result))
    | .answered, .error _ => (tables, .refused)
  | .refused =>
    match admin.existing tables with
    | some existing => (tables, admin.replay existing)
    | none => (tables, .returned (.error .stateConflict))
  | phase => (tables, phase)

/-- The workers with the recovery calls in flight. -/
structure AdminWorld where
  world : World
  admins : List Admin

/-- The recovery actions of the worker system, which are single steps there. -/
def Action.Recovers : Action → Prop
  | .retryApproved _ | .markDeadByOperator _ | .confirmSuccess _ _ => True
  | _ => False

instance : DecidablePred Action.Recovers
  | .retryApproved _ | .markDeadByOperator _ | .confirmSuccess _ _ => isTrue trivial
  | .enqueue .. | .scan .. | .heartbeat .. | .claim .. | .load .. | .enterHeartbeat ..
  | .prepare .. | .fail .. | .chat .. | .answer .. | .complete .. | .recordFailure ..
  | .crash .. => isFalse id

/-- One step of anybody. -/
inductive AdminAction
  | work (action : Action)
  | begin_ (action : HermesDispatchRecoveryAction) (request : RecoveryRequest)
  | advance (index : ℕ) (evidence : NormalizedEvidence) (answer : CommitAnswer)

/-- The world after a step. Recovery happens in the calls in flight only. -/
def AdminWorld.step (w : AdminWorld) : AdminAction → AdminWorld
  | .work action => if action.Recovers then w else { w with world := w.world.step action }
  | .begin_ action request => { w with admins := w.admins ++ [⟨action, request, .started⟩] }
  | .advance index evidence answer =>
    match w.admins[index]? with
    | none => w
    | some admin =>
      let (tables, phase) := adminStep w.world.tables admin evidence answer
      { world := { w.world with tables := tables }
        admins := w.admins.set index { admin with phase := phase } }

/-- The world before any message is dispatched, and after the steps of a run. -/
def adminWorldAfter (threads : List AIThread) (actions : List AdminAction) : AdminWorld :=
  run AdminWorld.step ⟨⟨initial threads, [], []⟩, []⟩ actions

/-! ## A call that nobody interrupts -/

/-- The statements of a call one after the other. -/
def adminRun (tables : DispatchTables) (admin : Admin) (evidence : NormalizedEvidence) :
    ℕ → DispatchTables × AdminPhase
  | 0 => (tables, admin.phase)
  | fuel + 1 =>
    let (tables, phase) := adminStep tables admin evidence .answered
    adminRun tables { admin with phase := phase } evidence fuel

section Uninterrupted

variable {tables tables' : DispatchTables} {admin : Admin} {evidence : NormalizedEvidence}
  {audit : HermesDispatchRecoveryAudit}

lemma Admin.existing_eq_some (h : admin.existing tables = some audit) :
    audit ∈ tables.audits ∧ audit.key = admin.key := by
  refine ⟨List.mem_of_find?_eq_some h, ?_⟩
  have hkey := List.find?_some h
  simp only [decide_eq_true_eq] at hkey
  rw [HermesDispatchRecoveryAudit.key, Admin.key, hkey.1, hkey.2.1, hkey.2.2]

lemma Admin.existing_eq_none (h : admin.existing tables = none) :
    ∀ other ∈ tables.audits, other.key ≠ admin.key := by
  intro other hmem hkey
  have hnot := List.find?_eq_none.mp h other hmem
  simp only [HermesDispatchRecoveryAudit.key, Admin.key, Prod.mk.injEq] at hkey
  exact hnot (decide_eq_true hkey)

/-- A transaction that goes through is the one of `_resolve`, and its reference is new. -/
lemma Admin.commit_eq_ok (h : admin.commit audit tables = .ok tables') :
    (∀ other ∈ tables.audits, other.key ≠ audit.key) ∧
      commitResolution admin.action admin.action.afterStatus admin.request audit tables =
        .ok tables' := by
  simp only [Admin.commit, bind_eq_ok, raiseIf_eq_ok, not_exists, not_and] at h
  obtain ⟨-, hnew, hcommit⟩ := h
  exact ⟨hnew, hcommit⟩

lemma Admin.commit_of_new (hnew : ∀ other ∈ tables.audits, other.key ≠ audit.key) :
    admin.commit audit tables =
      commitResolution admin.action admin.action.afterStatus admin.request audit tables := by
  have hnone : ¬ ∃ other ∈ tables.audits, other.key = audit.key := by
    rintro ⟨other, hmem, hkey⟩
    exact hnew other hmem hkey
  rw [Admin.commit, raiseIf, if_neg hnone]
  rfl

/-- A call that has returned stays there. -/
lemma adminRun_of_returned {result : Except DispatchRecoveryError DispatchRecoveryResult}
    (h : admin.phase = .returned result) (fuel : ℕ) :
    adminRun tables admin evidence fuel = (tables, .returned result) := by
  induction fuel generalizing admin with
  | zero => rw [adminRun, h]
  | succ fuel ih =>
    have hstep : adminStep tables admin evidence .answered = (tables, .returned result) := by
      rw [adminStep, h]
    rw [adminRun, hstep]
    exact ih rfl

/-- The first of the remaining statements. -/
lemma adminRun_succ {phase : AdminPhase} (fuel : ℕ)
    (h : adminStep tables admin evidence .answered = (tables', phase)) :
    adminRun tables admin evidence (fuel + 1) =
      adminRun tables' { admin with phase := phase } evidence fuel := by
  rw [adminRun, h]

lemma commitResolution_eq_error {action : HermesDispatchRecoveryAction}
    {afterStatus : HermesDispatchStatus} {request : RecoveryRequest} {error : DispatchRecoveryError}
    (h : commitResolution action afterStatus request audit tables = .error error) :
    error = .stateConflict := by
  simp only [commitResolution, bind_eq_error, raiseIf_eq_error] at h
  rcases h with ⟨-, rfl⟩ | ⟨-, -, h⟩
  · rfl
  · split at h
    · cases h
      rfl
    · cases h

section Statements

variable {answer : CommitAnswer} {record : HermesDispatchRecord} {evidenceId : Option ℕ}

lemma adminStep_replays (hphase : admin.phase = .started ∨ admin.phase = .refused)
    (h : admin.existing tables = some audit) :
    adminStep tables admin evidence answer = (tables, admin.replay audit) := by
  rcases hphase with hphase | hphase <;> simp only [adminStep, hphase, h]

lemma adminStep_started (hphase : admin.phase = .started)
    (h : admin.existing tables = none) :
    adminStep tables admin evidence answer = (tables, .unaudited) := by
  simp only [adminStep, hphase, h]

lemma adminStep_unaudited (hphase : admin.phase = .unaudited)
    (h : tables.records.find? (fun row => row.id = admin.request.recordId) = some record) :
    adminStep tables admin evidence answer =
      (tables, if record.status ≠ .uncertain then .returned (.error .stateConflict)
        else .loaded record) := by
  simp only [adminStep, hphase, h]
  split_ifs <;> rfl

lemma adminStep_missing (hphase : admin.phase = .unaudited)
    (h : tables.records.find? (fun row => row.id = admin.request.recordId) = none) :
    adminStep tables admin evidence answer = (tables, .returned (.error .notFound)) := by
  simp only [adminStep, hphase, h]

lemma adminStep_loaded (hphase : admin.phase = .loaded record) :
    adminStep tables admin evidence answer = (tables,
      match evidenceIdFor (admin.requiredEvidence evidence) admin.request.recordId
        tables.responses with
      | .error error => .returned (.error error)
      | .ok evidenceId => .ready record evidenceId) := by
  simp only [adminStep, hphase]
  split <;> rfl

lemma adminStep_ready (hphase : admin.phase = .ready record evidenceId) :
    adminStep tables admin evidence .answered =
      match admin.commit (admin.audit record evidenceId) tables with
      | .ok committed => (committed, .returned (.ok admin.result))
      | .error _ => (tables, .refused) := by
  simp only [adminStep, hphase]
  split <;> simp_all

lemma adminStep_refused (hphase : admin.phase = .refused)
    (h : admin.existing tables = none) :
    adminStep tables admin evidence answer = (tables, .returned (.error .stateConflict)) := by
  simp only [adminStep, hphase, h]

end Statements

/-- The transaction of a call and what follows it. -/
lemma adminRun_ready {record : HermesDispatchRecord} {evidenceId : Option ℕ}
    (hphase : admin.phase = .ready record evidenceId) (hnone : admin.existing tables = none) :
    adminRun tables admin evidence 2 =
      match commitResolution admin.action admin.action.afterStatus admin.request
        (admin.audit record evidenceId) tables with
      | .ok resolved => (resolved, .returned (.ok admin.result))
      | .error error => (tables, .returned (.error error)) := by
  have hcommit : admin.commit (admin.audit record evidenceId) tables = _ :=
    admin.commit_of_new (Admin.existing_eq_none hnone)
  have hready : adminStep tables admin evidence .answered = _ := adminStep_ready hphase
  rw [hcommit] at hready
  cases hresolved : commitResolution admin.action admin.action.afterStatus admin.request
      (admin.audit record evidenceId) tables with
  | ok resolved =>
    rw [hresolved] at hready
    rw [adminRun_succ 1 hready]
    exact adminRun_of_returned rfl 1
  | error error =>
    obtain rfl := commitResolution_eq_error hresolved
    rw [hresolved] at hready
    have hrefused : adminStep tables { admin with phase := .refused } evidence .answered =
        (tables, .returned (.error .stateConflict)) := adminStep_refused rfl hnone
    rw [adminRun_succ 1 hready, adminRun_succ 0 hrefused]
    rfl

/-- **A call that nobody interrupts is `resolve`.** -/
theorem adminRun_eq_resolve (action : HermesDispatchRecoveryAction) (request : RecoveryRequest)
    (evidence : NormalizedEvidence) (tables : DispatchTables) :
    adminRun tables ⟨action, request, .started⟩ evidence 5 =
      match resolve action action.afterStatus
        (Admin.requiredEvidence ⟨action, request, .started⟩ evidence) request tables with
      | .ok (resolved, result) => (resolved, .returned (.ok result))
      | .error error => (tables, .returned (.error error)) := by
  unfold resolve
  cases haudit : auditFor request.recordId action request.reference tables.audits with
  | some existing =>
    rw [adminRun_succ 4 (adminStep_replays (Or.inl rfl) haudit), Admin.replay,
      adminRun_of_returned rfl]
    dsimp only
    cases idempotentResult existing request.operator request.reason <;> rfl
  | none =>
    rw [adminRun_succ 4 (adminStep_started rfl haudit)]
    cases hrow : tables.records.find? fun record => record.id = request.recordId with
    | none =>
      rw [adminRun_succ 3 (adminStep_missing rfl hrow)]
      exact adminRun_of_returned rfl 3
    | some record =>
      rw [adminRun_succ 3 (adminStep_unaudited rfl hrow)]
      dsimp only
      by_cases huncertain : record.status ≠ .uncertain
      · rw [if_pos huncertain, adminRun_of_returned rfl, raiseIf, if_pos huncertain]
        rfl
      · rw [if_neg huncertain, adminRun_succ 2 (adminStep_loaded rfl), raiseIf, if_neg huncertain]
        change adminRun tables ⟨action, request, match evidenceIdFor (Admin.requiredEvidence
          ⟨action, request, .started⟩ evidence) request.recordId tables.responses with
          | .error error => .returned (.error error)
          | .ok evidenceId => .ready record evidenceId⟩ evidence 2 = _
        cases evidenceIdFor (Admin.requiredEvidence ⟨action, request, .started⟩ evidence)
            request.recordId tables.responses with
        | error error => exact adminRun_of_returned rfl 2
        | ok evidenceId =>
          refine (adminRun_ready rfl haudit).trans ?_
          dsimp only [Admin.audit, Bind.bind, Except.bind]
          cases commitResolution action action.afterStatus request
            (newAudit action action.afterStatus request record.lastErrorCode evidenceId) tables <;> rfl

end Uninterrupted

/-! ## What a step can do -/

/-- What one statement of a call does. -/
inductive AdminMove (tables : DispatchTables) (admin : Admin) :
    DispatchTables → AdminPhase → Prop
  | idle : AdminMove tables admin tables admin.phase
  | left : AdminMove tables admin tables .gone
  | raised {error} : AdminMove tables admin tables (.returned (.error error))
  | replayed {audit} (hmem : audit ∈ tables.audits) (hkey : audit.key = admin.key) :
      AdminMove tables admin tables (admin.replay audit)
  | looked : AdminMove tables admin tables .unaudited
  | loaded {record} (hmem : record ∈ tables.records) (hid : record.id = admin.request.recordId)
      (huncertain : record.status = .uncertain) : AdminMove tables admin tables (.loaded record)
  | verified {record evidenceId} (hphase : admin.phase = .loaded record)
      (hevidence : admin.action = .confirmSuccess →
        ∃ response ∈ tables.responses, response.dispatchRecordId = admin.request.recordId) :
      AdminMove tables admin tables (.ready record evidenceId)
  | refused : AdminMove tables admin tables .refused
  | committed {record evidenceId tables' phase} (hphase : admin.phase = .ready record evidenceId)
      (hcommit : admin.commit (admin.audit record evidenceId) tables = .ok tables')
      (hphase' : phase = .gone ∨ phase = .returned (.ok admin.result)) :
      AdminMove tables admin tables' phase

section Moves

variable {tables tables' : DispatchTables} {admin : Admin} {evidence : NormalizedEvidence}
  {audit : HermesDispatchRecoveryAudit}

/-- Evidence is a stored response of the record. -/
lemma evidenceIdFor_eq_ok {recordId : ℕ} {responses : List HermesDispatchResponse}
    {evidenceId : Option ℕ}
    (h : evidenceIdFor (some evidence) recordId responses = .ok evidenceId) :
    ∃ response ∈ responses, response.dispatchRecordId = recordId := by
  obtain ⟨id, hverified, -⟩ := map_eq_ok.mp h
  unfold verifiedSuccessEvidence at hverified
  split at hverified
  · cases hverified
  · rename_i raw hraw
    exact ⟨raw, List.mem_of_find?_eq_some hraw, by simpa using List.find?_some hraw⟩

/-- Every statement of a call is one of these moves. -/
theorem adminStep_move (tables : DispatchTables) (admin : Admin) (evidence : NormalizedEvidence)
    (answer : CommitAnswer) :
    AdminMove tables admin (adminStep tables admin evidence answer).1
      (adminStep tables admin evidence answer).2 := by
  have replay : ∀ {existing}, admin.existing tables = some existing →
      AdminMove tables admin tables (admin.replay existing) := by
    intro existing h
    exact .replayed (Admin.existing_eq_some h).1 (Admin.existing_eq_some h).2
  unfold adminStep
  split
  · split
    · exact replay ‹_›
    · exact .looked
  · split
    · exact .raised
    · rename_i record hrow
      split_ifs with huncertain
      · exact .raised
      · exact .loaded (List.mem_of_find?_eq_some hrow) (by simpa using List.find?_some hrow)
          (not_not.mp huncertain)
  · rename_i record hphase
    split
    · exact .raised
    · rename_i evidenceId hevidence
      refine .verified hphase fun hconfirm => ?_
      rw [Admin.requiredEvidence, if_pos hconfirm] at hevidence
      exact evidenceIdFor_eq_ok hevidence
  · rename_i record evidenceId hphase
    split
    · exact .left
    · exact .committed hphase ‹_› (Or.inl rfl)
    · exact .left
    · exact .committed hphase ‹_› (Or.inr rfl)
    · exact .refused
  · split
    · exact replay ‹_›
    · exact .raised
  · exact .idle

/-- What a committed transaction has done. -/
lemma Admin.commit_spec (h : admin.commit audit tables = .ok tables') :
    (∀ other ∈ tables.audits, other.key ≠ audit.key) ∧
      (∃ row ∈ tables.records, row.id = admin.request.recordId ∧ row.status = .uncertain) ∧
      tables' = { tables with
        records := updateWhere
          (fun row : HermesDispatchRecord => row.id = admin.request.recordId ∧
            row.status = .uncertain)
          (fun row => row.resolved admin.action admin.action.afterStatus) tables.records
        audits := tables.audits ++ [audit] } := by
  obtain ⟨hnew, hcommit⟩ := Admin.commit_eq_ok h
  simp only [commitResolution, bind_eq_ok, raiseIf_eq_ok] at hcommit
  obtain ⟨-, -, hcommit⟩ := hcommit
  split at hcommit
  · cases hcommit
  · rename_i records hupdate
    cases hcommit
    obtain ⟨rfl, hrow⟩ := guardedUpdate_eq_some hupdate
    exact ⟨hnew, hrow, rfl⟩

end Moves

/-- The world after a statement of a call. -/
def AdminWorld.advanced (w : AdminWorld) (index : ℕ) (admin : Admin) (tables : DispatchTables)
    (phase : AdminPhase) : AdminWorld where
  world := { w.world with tables := tables }
  admins := w.admins.set index { admin with phase := phase }

/-- What one step does to the world. -/
inductive AdminWorldMove (w : AdminWorld) : AdminWorld → Prop
  | unchanged : AdminWorldMove w w
  | idled {world} (htables : world.tables = w.world.tables) :
      AdminWorldMove w { w with world := world }
  | worked {call world} (hmarks : ¬ call.MarksSuccess) (hrecovery : call.recovery? = none)
      (htables : world.tables = step w.world.tables call) :
      AdminWorldMove w { w with world := world }
  | began {action request} :
      AdminWorldMove w { w with admins := w.admins ++ [⟨action, request, .started⟩] }
  | advanced {index admin tables phase} (hget : w.admins[index]? = some admin)
      (hmove : AdminMove w.world.tables admin tables phase) :
      AdminWorldMove w (w.advanced index admin tables phase)

/-- Every step is one of these moves. -/
theorem AdminWorld.step_move (w : AdminWorld) (action : AdminAction) :
    AdminWorldMove w (w.step action) := by
  cases action with
  | work action =>
    rw [AdminWorld.step]
    split_ifs with hrecovers
    · exact .unchanged
    · rcases (w.world.step_move action).tables_step with hsame | ⟨call, hstep, hmarks, hrecovery⟩
      · exact .idled hsame
      · refine .worked hmarks (hrecovery.elim (fun hcall => ?_) id) hstep
        cases action <;> cases hcall <;> first | rfl | exact absurd trivial hrecovers
  | begin_ action request => exact .began
  | advance index evidence answer =>
    rw [AdminWorld.step]
    split
    · exact .unchanged
    · rename_i admin hget
      exact .advanced hget (adminStep_move w.world.tables admin evidence answer)

/-! ## Audits over whole runs -/

/-- The record a call has read. -/
def AdminPhase.record? : AdminPhase → Option HermesDispatchRecord
  | .loaded record | .ready record _ => some record
  | _ => none

/-- The result names an audit that carries the call's reference, operator and reason. -/
def Witnessed (tables : DispatchTables) (admin : Admin) (result : DispatchRecoveryResult) : Prop :=
  ∃ audit ∈ tables.audits, audit.key = admin.key ∧ audit.operator = admin.request.operator ∧
    audit.reason = admin.request.reason ∧ result.dispatchRecordId = audit.dispatchRecordId ∧
    result.action = audit.action ∧ result.status = audit.afterStatus ∧ result.auditId = audit.id

/-- The invariant of the recovery calls. -/
structure AdminWorld.Audited (w : AdminWorld) : Prop where
  ids : UniqueKeys HermesDispatchRecord.id w.world.tables.records
  keys : UniqueKeys HermesDispatchRecoveryAudit.key w.world.tables.audits
  returned : ∀ admin ∈ w.admins, ∀ result, admin.phase = .returned (.ok result) →
    Witnessed w.world.tables admin result

section Runs

variable {tables tables' : DispatchTables} {admin : Admin} {record : HermesDispatchRecord}
  {recordId : ℕ} {w : AdminWorld}

lemma HermesDispatchRecoveryAction.afterStatus_ne (action : HermesDispatchRecoveryAction) :
    action.afterStatus ≠ .uncertain := by
  cases action <;> exact nofun

variable {audit : HermesDispatchRecoveryAudit} {code : Option String} {evidenceId : Option ℕ}
  {index : ℕ} {phase : AdminPhase} {result : DispatchRecoveryResult}

lemma Witnessed.mono (h : Witnessed tables admin result) (haudits : tables.audits ⊆ tables'.audits) :
    Witnessed tables' admin result := by
  obtain ⟨audit, hmem, hrest⟩ := h
  exact ⟨audit, haudits hmem, hrest⟩

/-- What a call replays is an audit of its own. -/
lemma witnessed_of_replay (hmem : audit ∈ tables.audits) (hkey : audit.key = admin.key)
    (h : admin.replay audit = .returned (.ok result)) : Witnessed tables admin result := by
  have hresult : idempotentResult audit admin.request.operator admin.request.reason = .ok result :=
    AdminPhase.returned.inj h
  simp only [idempotentResult, bind_eq_ok, raiseIf_eq_ok, not_or, not_not] at hresult
  obtain ⟨-, ⟨hoperator, hreason⟩, hresult⟩ := hresult
  cases hresult
  exact ⟨audit, hmem, hkey, hoperator, hreason, rfl, rfl, rfl, rfl⟩

/-- The invariant after a statement of a call: the other calls see at most a new audit, and the
call itself has returned what it should. -/
lemma AdminWorld.Audited.advanced (h : w.Audited)
    (hids : UniqueKeys HermesDispatchRecord.id tables'.records)
    (hkeys : UniqueKeys HermesDispatchRecoveryAudit.key tables'.audits)
    (haudits : w.world.tables.audits ⊆ tables'.audits)
    (hreturned : ∀ result, phase = .returned (.ok result) → Witnessed tables' admin result) :
    (w.advanced index admin tables' phase).Audited := by
  refine ⟨hids, hkeys, fun other hother => ?_⟩
  rcases List.mem_or_eq_of_mem_set hother with hold | rfl
  · exact fun result hresult => (h.returned other hold result hresult).mono haudits
  · exact fun result hresult => hreturned result hresult

lemma AdminMove.audited (h : w.Audited) (hget : w.admins[index]? = some admin)
    (hmove : AdminMove w.world.tables admin tables' phase) :
    (w.advanced index admin tables' phase).Audited := by
  -- most statements only read
  have reads : (∀ result, phase = .returned (.ok result) → Witnessed w.world.tables admin result) →
      (w.advanced index admin w.world.tables phase).Audited :=
    h.advanced h.ids h.keys (List.Subset.refl _)
  cases hmove with
  | idle => exact reads (h.returned admin (List.mem_of_getElem? hget))
  | replayed hmem hkey => exact reads fun result => witnessed_of_replay hmem hkey
  | left | raised | looked | loaded | verified | refused =>
    exact reads fun _ hresult => by cases hresult
  | @committed record evidenceId _ _ hphase hcommit hphase' =>
    obtain ⟨hnew, -, htables⟩ := Admin.commit_spec hcommit
    have haudits : tables'.audits = w.world.tables.audits ++ [admin.audit record evidenceId] := by
      rw [htables]
    refine h.advanced ?_ ?_ ?_ ?_
    · rw [htables]
      exact h.ids.updateWhere fun _ => rfl
    · rw [haudits]
      exact h.keys.append hnew
    · rw [haudits]
      exact List.subset_append_left _ _
    · rintro result hresult
      rcases hphase' with rfl | rfl
      · cases hresult
      · cases hresult
        refine ⟨admin.audit record evidenceId, ?_, rfl, rfl, rfl, rfl, rfl, rfl, rfl⟩
        rw [haudits]
        exact List.mem_append_right _ List.mem_cons_self

theorem AdminWorld.Audited.step (h : w.Audited) (action : AdminAction) :
    (w.step action).Audited := by
  have hstep := w.step_move action
  generalize w.step action = w' at hstep ⊢
  cases hstep with
  | unchanged => exact h
  | @idled world htables => exact ⟨htables ▸ h.ids, htables ▸ h.keys, htables ▸ h.returned⟩
  | @worked call world hmarks hrecovery htables =>
    have haudits : world.tables.audits = w.world.tables.audits := by
      rw [htables]
      exact audits_eq_of_recovery_eq_none hrecovery
    refine ⟨htables ▸ step_uniqueIds h.ids, haudits ▸ h.keys, ?_⟩
    intro admin hadmin result hresult
    exact (h.returned admin hadmin result hresult).mono (by rw [haudits]; exact List.Subset.refl _)
  | began =>
    refine ⟨h.ids, h.keys, fun admin hadmin => ?_⟩
    rcases mem_concat.mp hadmin with hold | rfl
    · exact h.returned admin hold
    · exact fun _ hresult => by cases hresult
  | advanced hget hmove => exact AdminMove.audited h hget hmove

lemma adminWorldAfter_audited (threads : List AIThread) (actions : List AdminAction) :
    (adminWorldAfter threads actions).Audited := by
  refine run_invariant (fun w action h => h.step action) ?_ actions
  exact ⟨List.nodup_nil, List.nodup_nil, by simp⟩

/-- A step that adds one audit for the one record it takes out of UNCERTAIN, or does neither. -/
def AuditedStep (tables tables' : DispatchTables) : Prop :=
  (tables'.audits = tables.audits ∧ ∀ record ∈ tables.records, record.status = .uncertain →
    record ∈ tables'.records) ∨
  ∃ audit, tables'.audits = tables.audits ++ [audit] ∧ audit.beforeStatus = .uncertain ∧
    audit.afterStatus = audit.action.afterStatus ∧
    ∃ record ∈ tables.records, record.id = audit.dispatchRecordId ∧ record.status = .uncertain ∧
      tables'.records = updateWhere (fun row : HermesDispatchRecord => row.id = record.id)
        (fun _ => record.resolved audit.action audit.afterStatus) tables.records

/-- Only recovery takes a record out of UNCERTAIN. -/
lemma Move.eq_of_uncertain {records : List HermesDispatchRecord} {call : Call}
    {record' : HermesDispatchRecord} (h : Move records call record record')
    (hrecovery : call.recovery? = none) (huncertain : record.status = .uncertain) :
    record' = record := by
  rcases h.eq_or_status with hsame | hopen
  · exact hsame
  · simp [huncertain, hrecovery] at hopen

/-- The transaction of a call moves one record and writes its audit. -/
lemma Admin.commit_row (hids : UniqueKeys HermesDispatchRecord.id tables.records)
    (h : admin.commit audit tables = .ok tables') :
    tables'.audits = tables.audits ++ [audit] ∧
      ∃ record ∈ tables.records, record.id = admin.request.recordId ∧
        record.status = .uncertain ∧
        tables'.records = updateWhere (fun row : HermesDispatchRecord => row.id = record.id)
          (fun _ => record.resolved admin.action admin.action.afterStatus) tables.records := by
  obtain ⟨-, ⟨record, hmem, hid, huncertain⟩, rfl⟩ := Admin.commit_spec h
  refine ⟨rfl, record, hmem, hid, huncertain, List.map_congr_left fun row hrow => ?_⟩
  by_cases hsame : row.id = record.id
  · obtain rfl := hids.eq_of_key_eq hrow hmem hsame
    rw [if_pos ⟨hid, huncertain⟩, if_pos rfl]
  · rw [if_neg fun hboth => hsame (hboth.1.trans hid.symm), if_neg hsame]

lemma AdminWorld.step_audited (h : w.Audited) (action : AdminAction) :
    AuditedStep w.world.tables (w.step action).world.tables := by
  have hstep := w.step_move action
  generalize w.step action = w' at hstep ⊢
  have same : AuditedStep w.world.tables w.world.tables := Or.inl ⟨rfl, fun _ hmem _ => hmem⟩
  cases hstep with
  | unchanged | began => exact same
  | @idled world htables =>
    change AuditedStep w.world.tables world.tables
    rw [htables]
    exact same
  | @worked call world hmarks hrecovery htables =>
    change AuditedStep w.world.tables world.tables
    rw [htables]
    refine Or.inl ⟨audits_eq_of_recovery_eq_none hrecovery, fun record hmem huncertain => ?_⟩
    obtain ⟨record', hmem', hmove⟩ := step_persists hmem call
    rwa [← hmove.eq_of_uncertain hrecovery huncertain]
  | advanced hget hmove =>
    cases hmove with
    | committed hphase hcommit =>
      obtain ⟨haudits, hrow⟩ := Admin.commit_row h.ids hcommit
      exact Or.inr ⟨_, haudits, rfl, rfl, hrow⟩
    | _ => exact same

/-- A call whose reference is taken changes nothing, wherever it stands. -/
lemma adminStep_taken (hmem : audit ∈ tables.audits) (hkey : audit.key = admin.key)
    (evidence : NormalizedEvidence) (answer : CommitAnswer) :
    (adminStep tables admin evidence answer).1 = tables := by
  have hmove := adminStep_move tables admin evidence answer
  generalize (adminStep tables admin evidence answer).1 = tables',
    (adminStep tables admin evidence answer).2 = phase at hmove ⊢
  cases hmove with
  | committed hphase hcommit =>
    exact absurd hkey ((Admin.commit_spec hcommit).1 audit hmem)
  | _ => rfl

/-- The lookup of a call whose reference is taken finds the audit. -/
lemma AdminWorld.Audited.existing_eq (h : w.Audited) (hmem : audit ∈ w.world.tables.audits)
    (hkey : audit.key = admin.key) : admin.existing w.world.tables = some audit := by
  cases hfind : admin.existing w.world.tables with
  | none => exact absurd hkey (Admin.existing_eq_none hfind audit hmem)
  | some found =>
    obtain ⟨hfoundMem, hfoundKey⟩ := Admin.existing_eq_some hfind
    rw [h.keys.eq_of_key_eq hfoundMem hmem (hfoundKey.trans hkey.symm)]

/-- The transaction of a call whose reference is taken is refused. -/
lemma Admin.commit_taken (hmem : audit ∈ tables.audits) (hkey : audit.key = admin.key) :
    admin.commit (admin.audit record evidenceId) tables = .error .stateConflict := by
  rw [Admin.commit, raiseIf, if_pos ⟨audit, hmem, hkey⟩]
  rfl

/-- The audit that a call adds is its own. -/
lemma AdminWorld.step_ready {evidence : NormalizedEvidence} {answer : CommitAnswer}
    (hget : w.admins[index]? = some admin) (hphase : admin.phase = .ready record evidenceId)
    (hadded : (w.step (.advance index evidence answer)).world.tables.audits =
      w.world.tables.audits ++ [audit]) :
    ∃ tables', admin.commit (admin.audit record evidenceId) w.world.tables = .ok tables' ∧
      audit = admin.audit record evidenceId := by
  have hmove := adminStep_move w.world.tables admin evidence answer
  simp only [AdminWorld.step, hget] at hadded
  generalize adminStep w.world.tables admin evidence answer = result at hadded hmove
  obtain ⟨tables', phase⟩ := result
  have grown : w.world.tables.audits ≠ w.world.tables.audits ++ [audit] := fun hsame =>
    absurd (congrArg List.length hsame) (by simp)
  cases hmove with
  | committed hphase' hcommit =>
    cases hphase.symm.trans hphase'
    rw [(Admin.commit_spec hcommit).2.2] at hadded
    exact ⟨tables', hcommit, (List.singleton_inj.mp (List.append_cancel_left hadded)).symm⟩
  | _ => exact absurd hadded grown

/-! ### Failures since the read -/

/-- The error code of the record while it is UNCERTAIN. -/
def AdminWorld.uncertainCode (w : AdminWorld) (recordId : ℕ) : Option (Option String) :=
  (w.world.tables.records.find? fun record => record.id = recordId ∧ record.status = .uncertain).map
    HermesDispatchRecord.lastErrorCode

/-- The error code with which the record has last become UNCERTAIN in the course of these steps. -/
def lastFailure (recordId : ℕ) : AdminWorld → List AdminAction → Option (Option String)
  | _, [] => none
  | w, action :: later =>
    (lastFailure recordId (w.step action) later).or
      (if w.uncertainCode recordId = none then (w.step action).uncertainCode recordId else none)

lemma AdminWorld.Audited.uncertainCode_eq (h : w.Audited) :
    w.uncertainCode recordId = some code ↔ ∃ row ∈ w.world.tables.records, row.id = recordId ∧
      row.status = .uncertain ∧ row.lastErrorCode = code := by
  rw [AdminWorld.uncertainCode, Option.map_eq_some_iff]
  constructor
  · rintro ⟨row, hfind, hcode⟩
    obtain ⟨hid, huncertain⟩ : row.id = recordId ∧ row.status = .uncertain := by
      simpa using List.find?_some hfind
    exact ⟨row, List.mem_of_find?_eq_some hfind, hid, huncertain, hcode⟩
  · rintro ⟨row, hmem, hid, huncertain, hcode⟩
    refine ⟨row, ?_, hcode⟩
    cases hfind : w.world.tables.records.find? fun record =>
        record.id = recordId ∧ record.status = .uncertain with
    | none => exact absurd (decide_eq_true ⟨hid, huncertain⟩) (List.find?_eq_none.mp hfind row hmem)
    | some found =>
      have hfound : found.id = recordId ∧ found.status = .uncertain := by
        simpa using List.find?_some hfind
      rw [h.ids.eq_of_key_eq (List.mem_of_find?_eq_some hfind) hmem (hfound.1.trans hid.symm)]

/-- A record that is UNCERTAIN before and after a step has kept its error code. -/
lemma AdminWorld.uncertainCode_step (h : w.Audited) {action : AdminAction} {code' : Option String}
    (hbefore : w.uncertainCode recordId = some code)
    (hafter : (w.step action).uncertainCode recordId = some code') : code' = code := by
  obtain ⟨row, hmem, hid, huncertain, rfl⟩ := h.uncertainCode_eq.mp hbefore
  obtain ⟨row', hmem', hid', huncertain', rfl⟩ := (h.step action).uncertainCode_eq.mp hafter
  rcases AdminWorld.step_audited h action with ⟨-, hkept⟩ |
    ⟨audit, -, -, hstatus, resolved, hresolved, -, -, hrecords⟩
  · rw [(h.step action).ids.eq_of_key_eq hmem' (hkept row hmem huncertain) (hid'.trans hid.symm)]
  · rw [hrecords] at hmem'
    rcases (mem_replace hresolved).mp hmem' with rfl | ⟨hold, -⟩
    · -- the record the step has resolved is no longer uncertain
      exact absurd (hstatus.symm.trans huncertain') audit.action.afterStatus_ne
    · rw [h.ids.eq_of_key_eq hold hmem (hid'.trans hid.symm)]

/-- The code of an UNCERTAIN record is that of its last failure, or it has not failed since. -/
lemma uncertainCode_run (h : w.Audited) (later : List AdminAction)
    (hend : (run AdminWorld.step w later).uncertainCode recordId = some code) :
    lastFailure recordId w later = some code ∨
      lastFailure recordId w later = none ∧ w.uncertainCode recordId = some code := by
  induction later generalizing w with
  | nil => exact Or.inr ⟨rfl, hend⟩
  | cons action later ih =>
    rw [lastFailure]
    rcases ih (h.step action) hend with hlast | ⟨hnone, hafter⟩
    · exact Or.inl (by rw [hlast, Option.some_or])
    · rw [hnone, Option.none_or]
      cases hbefore : w.uncertainCode recordId with
      | none => exact Or.inl (by rw [if_pos rfl, hafter])
      | some before =>
        rw [AdminWorld.uncertainCode_step h hbefore hafter]
        exact Or.inr ⟨if_neg nofun, rfl⟩

/-- At this point the call has just read the record, and it is UNCERTAIN. -/
def AdminWorld.Reads (w : AdminWorld) (index recordId : ℕ) (record : HermesDispatchRecord) : Prop :=
  record ∈ w.world.tables.records ∧ record.id = recordId ∧ record.status = .uncertain ∧
    ∃ admin, w.admins[index]? = some admin ∧ admin.phase = .loaded record

/-- A call that holds a record has read it at some point of the run. -/
lemma exists_read (threads : List AIThread) (actions : List AdminAction) :
    ∀ index admin, (adminWorldAfter threads actions).admins[index]? = some admin →
      ∀ record ∈ admin.phase.record?, ∃ past since, actions = past ++ since ∧
        (adminWorldAfter threads past).Reads index admin.request.recordId record := by
  induction actions using List.reverseRecOn with
  | nil => exact fun _ _ hget => absurd hget (by simp [adminWorldAfter])
  | append_singleton before action ih =>
    intro index admin hget record hrecord
    -- a call that has held the record before has read it before
    have earlier : ∀ old, (adminWorldAfter threads before).admins[index]? = some old →
        old.request = admin.request → record ∈ old.phase.record? →
        ∃ past since, before ++ [action] = past ++ since ∧
          (adminWorldAfter threads past).Reads index admin.request.recordId record := by
      intro old hold hrequest hread
      obtain ⟨past, since, rfl, hreads⟩ := ih index old hold record hread
      exact ⟨past, since ++ [action], List.append_assoc .., hrequest ▸ hreads⟩
    have hnow : ∀ w', adminWorldAfter threads (before ++ [action]) = w' →
        w'.Reads index admin.request.recordId record → ∃ past since,
        before ++ [action] = past ++ since ∧
          (adminWorldAfter threads past).Reads index admin.request.recordId record :=
      fun w' hw' hreads => ⟨before ++ [action], [], (List.append_nil _).symm, hw' ▸ hreads⟩
    have hmove := AdminWorld.step_move (adminWorldAfter threads before) action
    have hworld : adminWorldAfter threads (before ++ [action]) =
        (adminWorldAfter threads before).step action := run_concat before action
    rw [hworld] at hget
    generalize (adminWorldAfter threads before).step action = w' at hmove hworld hget
    cases hmove with
    | unchanged | idled | worked => exact earlier admin hget rfl hrecord
    | began =>
      rw [List.getElem?_append, List.getElem?_singleton] at hget
      split_ifs at hget
      · exact earlier admin hget rfl hrecord
      · cases hget
        cases hrecord
    | @advanced _ old _ _ hold hmove =>
      rw [AdminWorld.advanced, List.getElem?_set] at hget
      split_ifs at hget with hsame hlt
      · subst hsame
        cases hget
        cases hmove with
        | idle => exact earlier old hold rfl hrecord
        | loaded hmem hid huncertain =>
          cases hrecord
          refine hnow _ hworld ⟨hmem, hid, huncertain, { old with phase := .loaded record }, ?_, rfl⟩
          rw [AdminWorld.advanced, List.getElem?_set, if_pos rfl, if_pos hlt]
        | verified hphase =>
          cases hrecord
          exact earlier old hold rfl (by rw [hphase]; rfl)
        | committed _ _ hphase' => rcases hphase' with rfl | rfl <;> cases hrecord
        | _ => cases hrecord
      · exact earlier admin hget rfl hrecord

end Runs

/-- The lease of the first attempt expires; operator `first` reads the record. -/
def firstIncident : List AdminAction :=
  [.work (.enqueue (.allowedFor 7 "identity" "workspace" "thread") 1 0),
    .work (.claim 1 "a" 10 3 0), .work (.scan 20 3 20),
    .begin_ .retryApproved ⟨1, "first", "ticket 1", "reason", 1⟩,
    .advance 0 ⟨none, .ok none⟩ .answered, .advance 0 ⟨none, .ok none⟩ .answered,
    .advance 0 ⟨none, .ok none⟩ .answered]

/-- Operator `second` approves a retry, and the second attempt ends in an unexpected error. -/
def secondIncident : List AdminAction :=
  [.begin_ .retryApproved ⟨1, "second", "ticket 2", "reason", 2⟩,
    .advance 1 ⟨none, .ok none⟩ .answered, .advance 1 ⟨none, .ok none⟩ .answered,
    .advance 1 ⟨none, .ok none⟩ .answered, .advance 1 ⟨none, .ok none⟩ .answered,
    .work (.claim 1 "b" 10 3 30), .work (.load "b"), .work (.enterHeartbeat "b" 10 31),
    .work (.fail "b"), .work (.recordFailure "b" 3 32)]

/-- Two calls with the same reference, operator and reason look for the audit before either has
written it; the first one goes through. -/
def duplicateCalls : List AdminAction :=
  [.work (.enqueue (.allowedFor 7 "identity" "workspace" "thread") 1 0),
    .work (.claim 1 "a" 10 3 0), .work (.scan 20 3 20),
    .begin_ .retryApproved ⟨1, "first", "ticket 1", "reason", 1⟩,
    .begin_ .retryApproved ⟨1, "first", "ticket 1", "reason", 2⟩,
    .advance 0 ⟨none, .ok none⟩ .answered, .advance 1 ⟨none, .ok none⟩ .answered,
    .advance 0 ⟨none, .ok none⟩ .answered, .advance 0 ⟨none, .ok none⟩ .answered,
    .advance 0 ⟨none, .ok none⟩ .answered]

end AgentGateway.Dispatch
