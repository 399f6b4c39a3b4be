import AgentGateway.Dispatch.Fencing

/-!
# Dispatch workers

Any number of `HermesDispatchWorker`s over the dispatch tables. A claim that goes through starts a
worker, which then runs `process_claim` step by step: load the record, enter the lease heartbeat,
run the checks of `dispatch_record`, call `client.chat` once, and report the result. Between any
two steps it may stall for as long as it likes, or crash. Everything the outside decides (clocks,
what the checks read, what the call answers) sits in the action.

The trace records the calls of `client.chat` and how they ended.
-/

namespace AgentGateway.Dispatch

open Lib Lib.Table Lib.Run Admission Hermes

/-! ## Workers and the world -/

/-- Where a worker stands in `process_claim`. -/
inductive Phase
  | claimed
  | loaded (record : HermesDispatchRecord)
  | leased (record : HermesDispatchRecord)
  | prepared (record : HermesDispatchRecord) (invocation : Invocation)
  | chatting (record : HermesDispatchRecord) (invocation : Invocation)
  | raised (error : DispatchException)
  | answered (outcome : HermesDispatchOutcome)
  | gone
  deriving DecidableEq, Repr

/-- A worker, with the claim it was started for. -/
structure Worker where
  recordId : ℕ
  token : String
  phase : Phase
  deriving DecidableEq, Repr

/-- What the outside sees of the chat calls. -/
inductive Event
  | chatCalled (recordId : ℕ) (token : String)
  | chatReturned (recordId : ℕ) (token : String)
  | chatRaised (recordId : ℕ) (token : String) (error : ChatError)
  deriving DecidableEq, Repr

/-- The tables, all workers ever started, and the trace of chat calls, oldest first. -/
structure World where
  tables : DispatchTables
  workers : List Worker
  trace : List Event
  deriving DecidableEq, Repr

/-- One step of anybody. The first group acts on the tables alone; the others are the steps of the
worker with the given token. `fail` is an unexpected exception inside `dispatch_record` before the
chat call, such as a lost database connection. -/
inductive Action
  | enqueue (admission : AdmissionOutcome) (id : ℕ) (createdAt : Timestamp)
  | scan (now : Timestamp) (retryLimit : ℕ) (dbNow : Timestamp)
  | heartbeat (recordId : ℕ) (token : String) (lease : ℕ) (now : Timestamp)
  | retryApproved (request : RecoveryRequest)
  | markDeadByOperator (request : RecoveryRequest)
  | confirmSuccess (request : RecoveryRequest) (evidence : NormalizedEvidence)
  | claim (recordId : ℕ) (token : String) (lease : ℕ) (retryLimit : Int) (now : Timestamp)
  | load (token : String)
  | enterHeartbeat (token : String) (lease : ℕ) (now : Timestamp)
  | prepare (token : String) (facts : DispatchFacts)
  | fail (token : String)
  | chat (token : String)
  | answer (token : String) (result : Except ChatError HermesChatResult)
  | complete (token : String) (responseId : ℕ) (dbNow : Timestamp)
  | recordFailure (token : String) (retryLimit : ℕ) (dbNow : Timestamp)
  | crash (token : String)

/-- The call on the tables that an action of the first group makes. -/
def Action.call? : Action → Option Call
  | .enqueue admission id createdAt => some (.enqueue admission id createdAt)
  | .scan now retryLimit dbNow => some (.finalizeExhausted now retryLimit dbNow)
  | .heartbeat recordId token lease now => some (.renewLease recordId token lease now)
  | .retryApproved request => some (.retryApproved request)
  | .markDeadByOperator request => some (.markDeadByOperator request)
  | .confirmSuccess request evidence => some (.confirmSuccess request evidence)
  | _ => none

/-- The token of a worker's action. -/
def Action.worker? : Action → Option String
  | .load token | .enterHeartbeat token _ _ | .prepare token _ | .fail token | .chat token
  | .answer token _ | .complete token _ _ | .recordFailure token _ _ | .crash token => some token
  | _ => none

/-- `_record_failure`: the store call for the error a dispatch has raised. -/
def failureCall (worker : Worker) (error : DispatchException) (retryLimit : ℕ)
    (dbNow : Timestamp) : Call :=
  if dispatchFailureStatus error = .failed then
    .markFailed worker.recordId worker.token (dispatchErrorCode error) (some retryLimit) dbNow
  else
    .markUncertain worker.recordId worker.token (dispatchErrorCode error) dbNow

/-- One step of a worker: the tables it leaves, its next phase and what it shows. An action that
does not fit the phase does nothing. -/
def workerStep (tables : DispatchTables) (worker : Worker) (action : Action) :
    DispatchTables × Phase × List Event :=
  match action, worker.phase with
  | .load _, .claimed =>
    match tables.records.find? fun record => record.id = worker.recordId with
    | none => (tables, .gone, [])
    | some record =>
      if record.status = .running ∧ record.claimToken = some worker.token then
        (tables, .loaded record, [])
      else (tables, .gone, [])
  | .enterHeartbeat _ lease now, .loaded record =>
    match attempt tables (.renewLease worker.recordId worker.token lease now) with
    | some renewed => (renewed, .leased record, [])
    | none => (tables, .gone, [])
  | .prepare _ facts, .leased record =>
    match prepareDispatch facts record tables.threads with
    | (threads, .error error) => ({ tables with threads := threads }, .raised error, [])
    | (threads, .ok invocation) =>
      ({ tables with threads := threads }, .prepared record invocation, [])
  | .fail _, .leased _ | .fail _, .prepared _ _ => (tables, .raised (.chat .unexpected), [])
  | .chat _, .prepared record invocation =>
    (tables, .chatting record invocation, [.chatCalled worker.recordId worker.token])
  | .answer _ result, .chatting record invocation =>
    match result with
    | .ok result =>
      (tables, .answered (dispatchOutcome record invocation result),
        [.chatReturned worker.recordId worker.token])
    | .error error =>
      (tables, .raised (.chat error), [.chatRaised worker.recordId worker.token error])
  | .complete _ responseId dbNow, .answered outcome =>
    (step tables (.completeSuccess worker.recordId worker.token outcome responseId dbNow),
      .gone, [])
  | .recordFailure _ retryLimit dbNow, .raised error =>
    (step tables (failureCall worker error retryLimit dbNow), .gone, [])
  | .crash _, _ => (tables, .gone, [])
  | _, phase => (tables, phase, [])

/-- A claim that goes through starts a worker. Tokens are drawn fresh, so an action that reuses
one does not happen. -/
def claimStep (world : World) (recordId : ℕ) (token : String) (lease : ℕ) (retryLimit : Int)
    (now : Timestamp) : World :=
  if ∃ worker ∈ world.workers, worker.token = token then world
  else
    match attempt world.tables (.claim recordId token lease retryLimit now) with
    | none => world
    | some tables =>
      { world with
        tables := tables
        workers := world.workers ++ [⟨recordId, token, .claimed⟩] }

/-- The world after an action. -/
def World.step (world : World) (action : Action) : World :=
  match action with
  | .claim recordId token lease retryLimit now => claimStep world recordId token lease retryLimit now
  | action =>
    match action.call?, action.worker? with
    | some call, _ => { world with tables := Dispatch.step world.tables call }
    | none, some token =>
      match world.workers.find? fun worker => worker.token = token with
      | none => world
      | some worker =>
        let (tables, phase, events) := workerStep world.tables worker action
        { tables := tables
          workers := updateWhere (fun other : Worker => other.token = token)
            (fun other => { other with phase := phase }) world.workers
          trace := world.trace ++ events }
    | none, none => world

/-- The world before any message is dispatched, and after the actions of a run. -/
def worldAfter (threads : List AIThread) (actions : List Action) : World :=
  run World.step ⟨initial threads, [], []⟩ actions

/-! ## What a step of a worker can do -/

/-- The phases in which a worker has yet to call `client.chat`. -/
def Phase.Armed : Phase → Prop
  | .claimed | .loaded _ | .leased _ | .prepared _ _ => True
  | _ => False

instance : DecidablePred Phase.Armed
  | .claimed | .loaded _ | .leased _ | .prepared _ _ => isTrue trivial
  | .chatting _ _ | .raised _ | .answered _ | .gone => isFalse id

/-- The preparation of a call changes the tables at most by claiming the first Hermes session of a
thread. -/
def ClaimsSession (tables tables' : DispatchTables) : Prop :=
  tables' = tables ∨ ∃ threadId,
    tables' = step tables (.claimHermesThread threadId (initialHermesThreadId threadId))

lemma hermesThreadFor_eq_ok {thread : AIThread} {threads claimed : List AIThread}
    {hermesThreadId : String} (h : hermesThreadFor thread threads = .ok (claimed, hermesThreadId)) :
    claimed = threads ∨
      claimHermesThread thread.id (initialHermesThreadId thread.id) threads = some claimed := by
  unfold hermesThreadFor at h
  split at h
  · cases h
    exact Or.inl rfl
  · split at h
    · cases h
    · rename_i result hclaimed
      cases h
      exact Or.inr hclaimed

lemma prepareDispatch_claimsSession (facts : DispatchFacts) (record : HermesDispatchRecord)
    (tables : DispatchTables) :
    ClaimsSession tables
      { tables with threads := (prepareDispatch facts record tables.threads).1 } := by
  unfold prepareDispatch
  split
  · exact Or.inl rfl
  · split
    · exact Or.inl rfl
    · rename_i message profile locked _ _ claimed hermesThreadId hthread
      rcases hermesThreadFor_eq_ok hthread with rfl | hclaimed
      · exact Or.inl rfl
      · refine Or.inr ⟨locked.id, ?_⟩
        rw [step, attempt, hclaimed]
        rfl

/-- What one step of a worker does: the tables, its next phase and the events. -/
inductive WorkerMove (tables : DispatchTables) (worker : Worker) :
    DispatchTables → Phase → List Event → Prop
  | idle : WorkerMove tables worker tables worker.phase []
  | leave : WorkerMove tables worker tables .gone []
  | load {record} (hphase : worker.phase = .claimed) :
      WorkerMove tables worker tables (.loaded record) []
  | renew {record lease now} (hphase : worker.phase = .loaded record) :
      WorkerMove tables worker
        (step tables (.renewLease worker.recordId worker.token lease now)) (.leased record) []
  | reject {error tables'} (hphase : worker.phase.Armed)
      (htables : ClaimsSession tables tables') :
      WorkerMove tables worker tables' (.raised error) []
  | prepare {record invocation tables'} (hphase : worker.phase = .leased record)
      (htables : ClaimsSession tables tables') :
      WorkerMove tables worker tables' (.prepared record invocation) []
  | chat {record invocation} (hphase : worker.phase = .prepared record invocation) :
      WorkerMove tables worker tables (.chatting record invocation)
        [.chatCalled worker.recordId worker.token]
  | returned {record invocation outcome} (hphase : worker.phase = .chatting record invocation) :
      WorkerMove tables worker tables (.answered outcome)
        [.chatReturned worker.recordId worker.token]
  | raised {record invocation error} (hphase : worker.phase = .chatting record invocation) :
      WorkerMove tables worker tables (.raised (.chat error))
        [.chatRaised worker.recordId worker.token error]
  | complete {outcome responseId dbNow} (hphase : worker.phase = .answered outcome) :
      WorkerMove tables worker
        (step tables (.completeSuccess worker.recordId worker.token outcome responseId dbNow))
        .gone []
  | report {error retryLimit dbNow} (hphase : worker.phase = .raised error) :
      WorkerMove tables worker (step tables (failureCall worker error retryLimit dbNow)) .gone []

/-- Every step of a worker is one of these moves. -/
theorem workerStep_move (tables : DispatchTables) (worker : Worker) (action : Action) :
    WorkerMove tables worker (workerStep tables worker action).1
      (workerStep tables worker action).2.1 (workerStep tables worker action).2.2 := by
  unfold workerStep
  split
  · rename_i token hphase
    split
    · exact WorkerMove.leave
    · split_ifs
      · exact WorkerMove.load hphase
      · exact WorkerMove.leave
  · rename_i token lease now record hphase
    split
    · rename_i renewed hrenew
      rw [← step_of_attempt_eq_some hrenew]
      exact WorkerMove.renew hphase
    · exact WorkerMove.leave
  · rename_i token facts record hphase
    have harmed : worker.phase.Armed := by
      rw [hphase]
      trivial
    have hsession := prepareDispatch_claimsSession facts record tables
    rcases hprepare : prepareDispatch facts record tables.threads with
      ⟨threads, error | invocation⟩ <;> rw [hprepare] at hsession
    · exact WorkerMove.reject harmed hsession
    · exact WorkerMove.prepare hphase hsession
  · rename_i token record hphase
    exact WorkerMove.reject (by rw [hphase]; trivial) (Or.inl rfl)
  · rename_i token record invocation hphase
    exact WorkerMove.reject (by rw [hphase]; trivial) (Or.inl rfl)
  · rename_i token record invocation hphase
    exact WorkerMove.chat hphase
  · rename_i token result record invocation hphase
    cases result with
    | error error => exact WorkerMove.raised hphase
    | ok result => exact WorkerMove.returned hphase
  · rename_i token responseId dbNow outcome hphase
    exact WorkerMove.complete hphase
  · rename_i token retryLimit dbNow error hphase
    exact WorkerMove.report hphase
  · exact WorkerMove.leave
  · exact WorkerMove.idle

/-- The world after a claim, and after a worker has moved, apart from its tables. -/
def World.started (world : World) (tables : DispatchTables) (recordId : ℕ) (token : String) :
    World :=
  { world with tables := tables, workers := world.workers ++ [⟨recordId, token, .claimed⟩] }

@[inherit_doc World.started]
def World.worked (world : World) (worker : Worker) (phase : Phase) (events : List Event) : World :=
  { world with
    workers := updateWhere (fun other : Worker => other.token = worker.token)
      (fun other => { other with phase := phase }) world.workers
    trace := world.trace ++ events }

/-- What one action does to the world. -/
inductive WorldMove (world : World) (action : Action) : World → Prop
  | unchanged : WorldMove world action world
  | store {call} (hcall : action.call? = some call) :
      WorldMove world action { world with tables := step world.tables call }
  | started {recordId token lease retryLimit now tables}
      (hfresh : ∀ worker ∈ world.workers, worker.token ≠ token)
      (hclaim : attempt world.tables (.claim recordId token lease retryLimit now) = some tables) :
      WorldMove world action (world.started tables recordId token)
  | worked {worker tables phase events} (hmem : worker ∈ world.workers)
      (hmove : WorkerMove world.tables worker tables phase events) :
      WorldMove world action { world.worked worker phase events with tables := tables }

/-- Every step of the world is one of these moves. -/
theorem World.step_move (world : World) (action : Action) :
    WorldMove world action (world.step action) := by
  unfold World.step
  split
  · rename_i recordId token lease retryLimit now
    unfold claimStep
    split_ifs with hused
    · exact WorldMove.unchanged
    · split
      · exact WorldMove.unchanged
      · rename_i tables hclaim
        refine WorldMove.started ?_ hclaim
        exact fun worker hmem htoken => hused ⟨worker, hmem, htoken⟩
  · cases hcall : action.call? with
    | some call => exact WorldMove.store hcall
    | none =>
      cases htoken : action.worker? with
      | none => exact WorldMove.unchanged
      | some token =>
        dsimp only
        split
        · exact WorldMove.unchanged
        · rename_i worker hfind
          have hworker : worker.token = token := by simpa using List.find?_some hfind
          subst hworker
          exact WorldMove.worked (List.mem_of_find?_eq_some hfind)
            (workerStep_move world.tables worker action)

/-! ## The worker system runs on the dispatch tables -/

/-- `mark_success`, which no dispatch worker calls. -/
def Call.MarksSuccess : Call → Prop
  | .markSuccess .. => True
  | _ => False

/-- A worker that is about to report its dispatch as failed. -/
def Phase.ReportsFailed (phase : Phase) : Prop :=
  ∃ error, phase = .raised error ∧ dispatchFailureStatus error = .failed

/-- A call that a step of a worker makes: it is no claim and no recovery, and it reports a failure
only for the worker's own record. -/
structure WorkerCall (worker : Worker) (phase : Phase) (events : List Event) (call : Call) :
    Prop where
  recovery : call.recovery? = none
  marks : ¬ call.MarksSuccess
  claims : ∀ recordId token lease retryLimit now, call ≠ .claim recordId token lease retryLimit now
  failed : ∀ recordId token errorCode retryLimit dbNow,
    call = .markFailed recordId token errorCode retryLimit dbNow →
      worker.recordId = recordId ∧ worker.token = token ∧ worker.phase.ReportsFailed ∧
        phase = .gone ∧ events = []

/-- A worker's step makes at most one call on the tables. -/
lemma WorkerMove.tables_cases {tables tables' : DispatchTables} {worker : Worker} {phase : Phase}
    {events : List Event} (h : WorkerMove tables worker tables' phase events) :
    tables' = tables ∨ ∃ call, tables' = step tables call ∧ WorkerCall worker phase events call := by
  have hsession : ClaimsSession tables tables' → tables' = tables ∨
      ∃ call, tables' = step tables call ∧ WorkerCall worker phase events call := by
    rintro (rfl | ⟨threadId, rfl⟩)
    · exact Or.inl rfl
    · exact Or.inr ⟨_, rfl, rfl, id, nofun, nofun⟩
  cases h with
  | renew | complete => exact Or.inr ⟨_, rfl, rfl, id, nofun, nofun⟩
  | reject hphase htables | prepare hphase htables => exact hsession htables
  | @report error _ _ hphase =>
    refine Or.inr ⟨_, rfl, ?_⟩
    unfold failureCall
    split_ifs with hfailed
    · refine ⟨rfl, id, nofun, fun recordId token errorCode retryLimit dbNow hcall => ?_⟩
      injection hcall with hid htoken
      exact ⟨hid, htoken, ⟨error, hphase, hfailed⟩, rfl, rfl⟩
    · exact ⟨rfl, id, nofun, nofun⟩
  | _ => exact Or.inl rfl

/-- One action is at most one call on the tables. -/
lemma WorldMove.tables_step {world world' : World} {action : Action}
    (h : WorldMove world action world') :
    world'.tables = world.tables ∨
      ∃ call, world'.tables = step world.tables call ∧ ¬ call.MarksSuccess ∧
        (action.call? = some call ∨ call.recovery? = none) := by
  cases h with
  | unchanged => exact Or.inl rfl
  | @store call hcall =>
    refine Or.inr ⟨call, rfl, ?_, Or.inl hcall⟩
    cases action <;> cases hcall <;> exact id
  | started hfresh hclaim =>
    exact Or.inr ⟨_, (step_of_attempt_eq_some hclaim).symm, id, Or.inr rfl⟩
  | worked hmem hmove =>
    exact hmove.tables_cases.imp_right fun ⟨call, hstep, hcall⟩ =>
      ⟨call, hstep, hcall.marks, Or.inr hcall.recovery⟩

lemma exists_tablesAfter (threads : List AIThread) (actions : List Action) :
    ∃ calls, (worldAfter threads actions).tables = tablesAfter threads calls := by
  induction actions using List.reverseRecOn with
  | nil => exact ⟨[], rfl⟩
  | append_singleton actions action ih =>
    obtain ⟨calls, hcalls⟩ := ih
    rw [worldAfter, run_concat]
    rcases ((worldAfter threads actions).step_move action).tables_step with hsame | ⟨call, hstep, -⟩
    · exact ⟨calls, hsame.trans hcalls⟩
    · refine ⟨calls ++ [call], ?_⟩
      rw [tablesAfter_concat, ← hcalls]
      exact hstep

/-- The tables of the worker system are tables of the dispatch system, so whatever holds after
every run of committed calls holds for any interleaving of workers: above all, no two records of a
thread run at the same time. -/
theorem worldAfter_tables (threads : List AIThread) (actions : List Action) :
    (∃ calls, (worldAfter threads actions).tables = tablesAfter threads calls) ∧
      ThreadsExclusive (worldAfter threads actions).tables.records := by
  obtain ⟨calls, hcalls⟩ := exists_tablesAfter threads actions
  refine ⟨⟨calls, hcalls⟩, ?_⟩
  rw [hcalls]
  exact tablesAfter_threadsExclusive threads calls

end AgentGateway.Dispatch
