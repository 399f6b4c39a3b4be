import AgentGateway.Admission.Store
import AgentGateway.Dispatch.System

/-!
# Processing one message

`MessageAdmissionService.process` from the moment the message is persisted. Any number of calls run
at the same time, on the same or on different messages, and any of them can fail or die between two
of its statements. A call is therefore a `Process` at some `Stage`; one step of it is one statement
or one transaction, `perform`, and `Stage.handle` is what the `except` clauses around that point do
with an error.

Everything the database or the policy evaluation picks comes with the step: clock readings,
generated tokens and ids, the evaluated admission, and an injected `Fault`, which may strike before
or after the transaction has been committed.
-/

namespace AgentGateway.Admission

open Lib Lib.Table Lib.Run Dispatch

/-- The tables the admission of a message writes. -/
structure Tables where
  outcomes : List MessageAdmissionOutcome
  dispatch : DispatchTables

/-- `_get_dispatch_for_message`. -/
def getDispatchForMessage (messageId : Int) (tables : Tables) : Option HermesDispatchRecord :=
  tables.dispatch.records.find? fun record => record.messageId = messageId

/-! ## Stages -/

/-- `MessageIngestionOutcome`, without `message_created` and `hermes_dispatch`, which come from the
message store and from the dispatcher. -/
structure MessageIngestionOutcome where
  messageId : Int
  admission : AdmissionOutcome
  shouldCreateTask : Bool
  workspaceId : Option String
  aiThreadId : Option String
  dispatchRecordId : Option ℕ
  deriving DecidableEq

/-- What `process` returns for an admission and its dispatch record. -/
def ingestionOutcome (admission : AdmissionOutcome) (dispatchRecordId : Option ℕ) :
    MessageIngestionOutcome where
  messageId := admission.messageId
  admission := admission
  shouldCreateTask := admission.shouldCreateTask
  workspaceId := admission.workspaceId
  aiThreadId := admission.aiThreadId
  dispatchRecordId := dispatchRecordId

/-- Where a call of `process` stands: what it has read so far, and which statement is next.
The token is the claim the call works under; `replaying`, `enqueuing`, `inserting` and `rereading`
are reached with and without one. -/
inductive Stage
  /-- about to read the outcome of the message -/
  | begun
  /-- the outcome is missing or pending; about to read the dispatch record -/
  | noted (stored : Option MessageAdmissionOutcome)
  /-- about to insert the outcome of a dispatch record that has none -/
  | adoptingLegacy (record : HermesDispatchRecord)
  /-- that insert met another one; about to read what is there -/
  | legacyTaken (record : HermesDispatchRecord)
  /-- about to insert the pending outcome -/
  | creating
  /-- that insert met another one; about to read what is there -/
  | pendingTaken
  /-- about to claim a pending outcome -/
  | claiming (stored : MessageAdmissionOutcome)
  /-- the claim matched no row; about to read why -/
  | claimMissed
  /-- the claim is committed; about to read the row back -/
  | claimedUnread (token : String)
  /-- the first statement under the claim: is there a dispatch record? -/
  | claimed (token : String) (outcome : MessageAdmissionOutcome)
  | evaluating (token : String) (outcome : MessageAdmissionOutcome)
  /-- `_complete_allowed_admission_atomically`, the reads of `stage_enqueue` -/
  | staging (tries : ℕ) (token : String) (admission : AdmissionOutcome)
  /-- the writes and the commit of that transaction -/
  | committing (tries : ℕ) (token : String) (admission : AdmissionOutcome) (insert : Bool)
  /-- not allowed; is there a dispatch record? -/
  | denying (token : String) (admission : AdmissionOutcome)
  | completingDenied (token : String) (admission : AdmissionOutcome)
  /-- about to read the denied outcome back -/
  | confirming (token : String) (admission : AdmissionOutcome)
  /-- about to complete the claim from an existing dispatch record -/
  | adopting (token : String) (record : HermesDispatchRecord)
  | adopted (token : String) (record : HermesDispatchRecord)
  /-- `_replay_persisted_admission` -/
  | replaying (token : Option String) (stored : MessageAdmissionOutcome)
  /-- the reads of `enqueue` -/
  | enqueuing (token : Option String) (admission : AdmissionOutcome)
  /-- the insert and the commit of `enqueue` -/
  | inserting (token : Option String) (admission : AdmissionOutcome)
  /-- that insert met another one; about to read what is there -/
  | rereading (token : Option String) (admission : AdmissionOutcome)
  /-- `_release_admission_claim` -/
  | failing (token : String)
  | returned (result : MessageIngestionOutcome)
  | raised
  deriving DecidableEq

/-- The claim token a call holds. -/
def Stage.token? : Stage → Option String
  | .claimedUnread token => some token
  | .claimed token _ => some token
  | .evaluating token _ => some token
  | .staging _ token _ => some token
  | .committing _ token _ _ => some token
  | .denying token _ => some token
  | .completingDenied token _ => some token
  | .confirming token _ => some token
  | .adopting token _ => some token
  | .adopted token _ => some token
  | .replaying token _ => token
  | .enqueuing token _ => token
  | .inserting token _ => token
  | .rereading token _ => token
  | .failing token => some token
  | _ => none

/-- The call is over. -/
def Stage.over : Stage → Bool
  | .returned _ => true
  | .raised => true
  | _ => false

/-- The outermost handler: a call that works under a claim gives it back before it raises. -/
def unwind : Option String → Stage
  | some token => .failing token
  | none => .raised

/-- What the `except` clauses around a stage do with an error. -/
def Stage.handle (error : AdmissionError) : Stage → Stage
  | .adoptingLegacy record => if error = .integrity then .legacyTaken record else .raised
  | .creating => if error = .integrity then .pendingTaken else .raised
  -- the read-back of a claim is not yet inside the `try` of `process`
  | .claimedUnread _ => .raised
  | .staging 0 token admission =>
    if error = .integrity then .staging 1 token admission else .failing token
  | .committing 0 token admission _ =>
    if error = .integrity then .staging 1 token admission else .failing token
  | .enqueuing token admission =>
    if error = .integrity then .rereading token admission else unwind token
  | .inserting token admission =>
    if error = .integrity then .rereading token admission else unwind token
  | .failing _ => .raised
  | .returned result => .returned result
  | stage => unwind stage.token?

/-! ## Statements -/

/-- An error of the dispatch record store, raised through `process`. -/
def raiseDispatch {α : Type} : Except HermesDispatchRecordError α → Except AdmissionError α
  | .ok value => .ok value
  | .error error => .error (.dispatch error)

/-- The `INSERT` of `stage_enqueue`, with the unique columns of the table. -/
def insertRecord (admission : AdmissionOutcome) (id : ℕ) (createdAt : Timestamp)
    (records : List HermesDispatchRecord) :
    Except AdmissionError (List HermesDispatchRecord) := do
  let target ← raiseDispatch (dispatchTarget admission)
  raiseIf (∃ record ∈ records, record.id = id ∨ record.messageId = target.messageId ∨
    record.idempotencyKey = buildHermesDispatchIdempotencyKey target.messageId) .integrity
  return records ++ [newRecord target id createdAt]

/-- The reads of `stage_enqueue`: whether the message has a compatible record already. -/
def stagedRecord (admission : AdmissionOutcome) (records : List HermesDispatchRecord) :
    Except AdmissionError (Option HermesDispatchRecord) := do
  let target ← raiseDispatch (dispatchTarget admission)
  match existingFor target records with
  | none => return none
  | some existing =>
    let record ← raiseDispatch (compatibleRecordOrRaise existing target)
    return some record

/-- What `stage_enqueue` flushes: nothing when its reads have found a record. -/
def insertStaged (insert : Bool) (admission : AdmissionOutcome) (id : ℕ) (createdAt : Timestamp)
    (records : List HermesDispatchRecord) :
    Except AdmissionError (List HermesDispatchRecord) :=
  if insert then insertRecord admission id createdAt records else .ok records

/-- An error the environment makes a statement raise; `applied` when its transaction has been
committed all the same. -/
structure Fault where
  error : AdmissionError
  applied : Bool
  deriving DecidableEq

/-- What a step takes from outside. -/
structure Input where
  token : String
  request : RequestFacts
  now : Timestamp
  lease : ℕ
  dbNow : Timestamp
  admission : AdmissionOutcome
  recordId : ℕ
  createdAt : Timestamp
  /-- a synchronous dispatcher is configured -/
  synchronous : Bool
  fault : Option Fault

/-- `_claim_existing` begins by looking at the state of the row it was given. -/
def claimExisting (stored : MessageAdmissionOutcome) : Stage :=
  if stored.state = .completed then .replaying none stored else .claiming stored

def Tables.withOutcomes (tables : Tables) (outcomes : List MessageAdmissionOutcome) : Tables :=
  { tables with outcomes := outcomes }

def Tables.withRecords (tables : Tables) (records : List HermesDispatchRecord) : Tables :=
  { tables with dispatch := { tables.dispatch with records := records } }

/-- One statement or transaction of a call, from the stage it is at. -/
def perform (messageId : Int) (input : Input) (tables : Tables) :
    Stage → Except AdmissionError (Tables × Stage)
  | .begun =>
    match getByMessageId messageId tables.outcomes with
    | none => .ok (tables, .noted none)
    | some stored =>
      .ok (tables, if stored.state = .completed then .replaying none stored
        else .noted (some stored))
  | .noted stored =>
    match stored, getDispatchForMessage messageId tables with
    | some stored, _ => .ok (tables, claimExisting stored)
    | none, some record => .ok (tables, .adoptingLegacy record)
    | none, none => .ok (tables, .creating)
  | .adoptingLegacy record =>
    let row := legacyDispatchOutcome record input.dbNow
    match insertOutcome row tables.outcomes with
    | none => .error .integrity
    | some outcomes => .ok (tables.withOutcomes outcomes, .replaying none row)
  | .legacyTaken record =>
    match getByMessageId record.messageId tables.outcomes with
    | none => .error .integrity
    | some existing => do
      let stored ← compatibleLegacyDispatchOutcome existing record
      return (tables, .replaying none stored)
  | .creating =>
    let row := pendingOutcome messageId input.request input.token (input.now + input.lease)
    match insertOutcome row tables.outcomes with
    | none => .error .integrity
    | some outcomes => .ok (tables.withOutcomes outcomes, .claimed input.token row)
  | .pendingTaken =>
    match getByMessageId messageId tables.outcomes with
    | none => .error .integrity
    | some existing => .ok (tables, claimExisting existing)
  | .claiming stored =>
    match claimOutcome stored.messageId input.token input.now (input.now + input.lease)
        tables.outcomes with
    | none => .ok (tables, .claimMissed)
    | some outcomes => .ok (tables.withOutcomes outcomes, .claimedUnread input.token)
  | .claimMissed =>
    match getByMessageId messageId tables.outcomes with
    | none => .error (.pending messageId)
    | some current =>
      if current.state = .completed then .ok (tables, .replaying none current)
      else .error (.pending messageId)
  | .claimedUnread token =>
    match getByMessageId messageId tables.outcomes with
    | none => .error (.stateConflict messageId)
    | some outcome => .ok (tables, .claimed token outcome)
  | .claimed token outcome =>
    match getDispatchForMessage messageId tables with
    | some record => .ok (tables, .adopting token record)
    | none => .ok (tables, .evaluating token outcome)
  | .evaluating token outcome => do
    let _ ← requestFacts outcome
    let admission := { input.admission with messageId := messageId }
    if admission.admitted = true ∧ admission.reason = .allowed then
      return (tables, .staging 0 token admission)
    else
      return (tables, .denying token admission)
  | .staging tries token admission => do
    let existing ← stagedRecord admission tables.dispatch.records
    return (tables, .committing tries token admission existing.isNone)
  | .committing _ token admission insert => do
    let records ← insertStaged insert admission input.recordId input.createdAt
      tables.dispatch.records
    let outcomes ← stageCompletion token admission input.dbNow tables.outcomes
    -- a record stays, so that one the reads have found can be read again
    let dispatchRecordId := if insert then some input.recordId
      else (getDispatchForMessage messageId tables).map HermesDispatchRecord.id
    return ((tables.withRecords records).withOutcomes outcomes,
      if insert && input.synchronous then .enqueuing none admission
      else .returned (ingestionOutcome admission dispatchRecordId))
  | .denying token admission =>
    match getDispatchForMessage messageId tables with
    | some record => .ok (tables, .adopting token record)
    | none => .ok (tables, .completingDenied token admission)
  | .completingDenied token admission => do
    let outcomes ← completeDenied token admission input.dbNow tables.outcomes
    return (tables.withOutcomes outcomes, .confirming token admission)
  | .confirming _ admission =>
    match getByMessageId messageId tables.outcomes with
    | none => .error (.stateConflict messageId)
    | some _ => .ok (tables, .returned (ingestionOutcome admission none))
  | .adopting token record =>
    match completeClaimFromLegacyDispatch token record input.dbNow tables.outcomes with
    | .ok outcomes => .ok (tables.withOutcomes outcomes, .adopted token record)
    -- no row matched: the claim is lost, and what is there is read back all the same
    | .error (.stateConflict _) => .ok (tables, .adopted token record)
    | .error error => .error error
  | .adopted token record =>
    match getByMessageId record.messageId tables.outcomes with
    | none => .error (.stateConflict record.messageId)
    | some existing => do
      let stored ← compatibleLegacyDispatchOutcome existing record
      return (tables, .replaying (some token) stored)
  | .replaying token stored => do
    let admission ← toAdmissionOutcome stored
    match admission.admitted, getDispatchForMessage admission.messageId tables with
    | true, none => return (tables, .enqueuing token admission)
    | true, some _ =>
      -- the target columns of a record never change, so one read stands for the two
      let existing ← stagedRecord admission tables.dispatch.records
      return (tables, .returned
        (ingestionOutcome admission (existing.map HermesDispatchRecord.id)))
    | false, none => return (tables, .returned (ingestionOutcome admission none))
    | false, some _ =>
      .error (.invariant "persisted denied admission conflicts with an existing dispatch record")
  | .enqueuing token admission => do
    let existing ← stagedRecord admission tables.dispatch.records
    match existing with
    | none => return (tables, .inserting token admission)
    | some record => return (tables, .returned (ingestionOutcome admission (some record.id)))
  | .inserting _ admission => do
    let records ← insertRecord admission input.recordId input.createdAt tables.dispatch.records
    return (tables.withRecords records,
      .returned (ingestionOutcome admission (some input.recordId)))
  | .rereading _ admission => do
    let existing ← stagedRecord admission tables.dispatch.records
    raiseIf (existing = none) .integrity
    return (tables, .returned
      (ingestionOutcome admission (existing.map HermesDispatchRecord.id)))
  | .failing token =>
    .ok (tables.withOutcomes (releaseClaim messageId token evaluationErrorCode tables.outcomes),
      .raised)
  | .returned result => .ok (tables, .returned result)
  | .raised => .ok (tables, .raised)

/-! ## The system -/

/-- A running call of `process`. -/
structure Process where
  messageId : Int
  stage : Stage
  deriving DecidableEq

/-- One step of a call, with the fault the environment may have put into it. -/
def Process.advance (process : Process) (input : Input) (tables : Tables) : Tables × Process :=
  match perform process.messageId input tables process.stage with
  | .error error => (tables, { process with stage := process.stage.handle error })
  | .ok (tables', stage) =>
    match input.fault with
    | none => (tables', { process with stage := stage })
    | some fault => (if fault.applied then tables' else tables,
        { process with stage := process.stage.handle fault.error })

/-- The tables and the calls on them, each known by its place in the list. -/
structure State where
  tables : Tables
  processes : List Process

/-- The token is new, as that of a random UUID is. -/
def State.Fresh (state : State) (token : String) : Prop :=
  (∀ process ∈ state.processes, process.stage.token? ≠ some token) ∧
    ∀ row ∈ state.tables.outcomes, row.claimToken ≠ some token

instance (state : State) (token : String) : Decidable (state.Fresh token) :=
  inferInstanceAs (Decidable ((∀ _ ∈ state.processes, _) ∧ ∀ _ ∈ state.tables.outcomes, _))

/-- What can happen next. -/
inductive Action
  /-- a new call on a message -/
  | begin (messageId : Int)
  | advance (pid : ℕ) (input : Input)
  /-- the call dies where it stands -/
  | crash (pid : ℕ)
  /-- a dispatch worker, a scan or an operator commits; none of them enqueues a record -/
  | dispatch (call : Call)

def Call.isEnqueue : Call → Bool
  | .enqueue .. => true
  | _ => false

/-- One step of the system. -/
def State.step (state : State) : Action → State
  | .begin messageId => { state with processes := state.processes ++ [⟨messageId, .begun⟩] }
  | .advance pid input =>
    match state.processes[pid]? with
    | none => state
    | some process =>
      if state.Fresh input.token then
        { tables := (process.advance input state.tables).1
          processes := state.processes.set pid (process.advance input state.tables).2 }
      else state
  | .crash pid =>
    { state with processes := state.processes.modify pid fun process =>
        { process with stage := .raised } }
  | .dispatch call =>
    if Call.isEnqueue call then state
    else { state with tables :=
      { state.tables with dispatch := Dispatch.step state.tables.dispatch call } }

/-- The state after a run that starts on the given tables, with no call under way. -/
def stateAfter (tables : Tables) (actions : List Action) : State :=
  run State.step ⟨tables, []⟩ actions

end AgentGateway.Admission
