import AgentGateway.Delivery.Ledger

/-!
# Delivery workers

Any number of `ChannelDeliveryWorker`s over the delivery tables. A claim that goes through starts
a worker, which then runs the loop of `run_once`: start an attempt for the next part, send it, and
record the receipt or the failure. Every store call is one step, and between any two steps the
worker may stall for as long as it likes, or crash. A crash after a store call stands for a call
that was committed and raised anyway; the receipt is the one call after which the worker goes on
when it raised, so there the two cases are told apart.

The trace records the calls of `send_text` and `send_media` and how they ended.
-/

namespace AgentGateway.Delivery

open Lib Lib.Table Lib.Run Hermes Response

/-! ## Failures -/

/-- What can be raised while a part is delivered, by the first class in `classify_delivery_error`
that matches. The last two carry the `code` attribute, if there is a string one. -/
inductive DeliveryException
  | accountMismatch
  | preSendAuth
  | retryable
  | permanent
  | uncertain
  | apiError (statusCode : Int)
  | timeoutError
  | transportError
  | responseError
  | valueError (code : Option String)
  | other (code : Option String)
  deriving DecidableEq, Repr

/-- `DeliveryFailureKind`. -/
inductive DeliveryFailureKind
  | retryable | permanent | uncertain
  deriving DecidableEq, Repr

/-- `classify_delivery_error`. -/
def classifyDeliveryError : DeliveryException → DeliveryFailureKind
  | .accountMismatch => .permanent
  | .preSendAuth => .retryable
  | .retryable => .retryable
  | .permanent => .permanent
  | .uncertain => .uncertain
  | .apiError statusCode =>
    if statusCode = 429 then .retryable
    else if 500 ≤ statusCode ∧ statusCode < 600 then .uncertain
    else .permanent
  | .timeoutError | .transportError | .responseError => .uncertain
  | .valueError _ => .permanent
  | .other _ => .uncertain

/-- The code of an exception that may have none. -/
def codeOrUnexpected : Option String → String
  | some code => if IsBlank code then "unexpected_delivery_error" else
      String.ofList (code.toList.take 128)
  | none => "unexpected_delivery_error"

/-- `delivery_error_code`. -/
def deliveryErrorCode : DeliveryException → String
  | .accountMismatch => "wechat_presend_account_mismatch"
  | .preSendAuth => "wechat_presend_auth_unavailable"
  | .retryable => "delivery_retryable_error"
  | .permanent => "delivery_permanent_error"
  | .uncertain => "delivery_uncertain_error"
  | .apiError statusCode => "wechat_api_error:http_" ++ toString statusCode
  | .timeoutError => "wechat_timeout_error"
  | .transportError => "wechat_transport_error"
  | .responseError => "wechat_response_error"
  | .valueError code | .other code => codeOrUnexpected code

/-! ## Workers and the world -/

/-- Where a worker stands in `run_once`, with the delivery row it holds and its attempt. The last
four phases before `gone` are the branch taken when `mark_part_delivered` has raised. -/
inductive Phase
  | looping (delivery : DeliveryOutboxRecord)
  | attempting (delivery : DeliveryOutboxRecord) (attempt : DeliveryAttempt)
  | sending (delivery : DeliveryOutboxRecord) (attempt : DeliveryAttempt)
  | sent (delivery : DeliveryOutboxRecord) (attempt : DeliveryAttempt) (receiptPayload : String)
      (providerMessageId : Option String)
  | failing (delivery : DeliveryOutboxRecord) (attempt : DeliveryAttempt)
      (error : DeliveryException)
  | ambiguous (delivery : DeliveryOutboxRecord) (attempt : DeliveryAttempt)
  | receiptFound (delivery : DeliveryOutboxRecord) (attempt : DeliveryAttempt)
  | receiptMissing (delivery : DeliveryOutboxRecord) (attempt : DeliveryAttempt)
  | unsettled (delivery : DeliveryOutboxRecord) (attempt : DeliveryAttempt)
  | gone
  deriving DecidableEq, Repr

/-- A worker, with the claim it was started for. -/
structure Worker where
  deliveryId : ℕ
  token : String
  phase : Phase
  deriving DecidableEq, Repr

/-- A call of `send_text` or `send_media`: for a part of a delivery, under a claim, as an attempt. -/
structure Send where
  deliveryId : ℕ
  partOrdinal : ℕ
  token : String
  attemptId : ℕ
  deriving DecidableEq, Repr

/-- What the outside sees of the sends. -/
inductive Event
  | called (send : Send)
  | returned (send : Send)
  | raised (send : Send) (error : DeliveryException)
  deriving DecidableEq, Repr

/-- The send an event is about. -/
def Event.send : Event → Send
  | .called send | .returned send | .raised send _ => send

/-- The end of a send. -/
def Event.IsAnswer : Event → Prop
  | .called _ => False
  | .returned _ | .raised _ _ => True

/-- The send of a worker's attempt. -/
def Worker.send (worker : Worker) (delivery : DeliveryOutboxRecord) (attempt : DeliveryAttempt) :
    Send :=
  ⟨worker.deliveryId, delivery.nextPartOrdinal, worker.token, attempt.id⟩

/-- The tables, all workers ever started, and the trace of sends, oldest first. -/
structure World where
  tables : DeliveryTables
  workers : List Worker
  trace : List Event
  deriving DecidableEq, Repr

/-- One step of anybody. The first group acts on the tables alone; the others are the steps of the
worker with the given token. `abort` is any failure before the send: the part lookup, the sender,
the artifact. `mark` carries whether the call raises although nothing is wrong with its arguments,
and then whether it was committed; `settle` is the next step after that. -/
inductive Action
  | save (outcome : HermesDispatchOutcome) (target : DeliveryTarget) (deliveryId : ℕ)
      (now : Timestamp)
  | recover (deliveryId : ℕ) (channel : String) (cutoff now : Timestamp)
  | retry (deliveryId : ℕ) (allowUncertain : Bool) (availableAt : Option Timestamp)
      (now : Timestamp)
  | claim (channel token : String) (now : Timestamp)
  | start (token : String) (attemptId : ℕ)
  | abort (token : String) (error : DeliveryException)
  | send (token : String)
  | answer (token : String) (result : Except DeliveryException (String × Option String))
  | mark (token : String) (raised : Option Bool) (now : Timestamp)
  | settle (token : String) (now : Timestamp)
  | report (token : String) (maxAttempts : ℕ) (availableAt now : Timestamp)
  | crash (token : String)

/-- The call on the tables that an action of the first group makes. -/
def Action.call? : Action → Option Call
  | .save outcome target deliveryId now => some (.saveGenerated outcome target deliveryId now)
  | .recover deliveryId channel cutoff now => some (.recoverClaim deliveryId channel cutoff now)
  | .retry deliveryId allowUncertain availableAt now =>
    some (.retry deliveryId allowUncertain availableAt now)
  | _ => none

/-- The token of a worker's action. -/
def Action.worker? : Action → Option String
  | .start token _ | .abort token _ | .send token | .answer token _ | .mark token _ _
  | .settle token _ | .report token _ _ _ | .crash token => some token
  | _ => none

def receiptUncertainError : String := "delivery_receipt_persistence_uncertain"

/-- `_record_failure`: the store call for the error a part has raised. -/
def failureCall (worker : Worker) (attempt : DeliveryAttempt) (error : DeliveryException)
    (maxAttempts : ℕ) (availableAt now : Timestamp) : Call :=
  match classifyDeliveryError error with
  | .retryable =>
    if attempt.attemptNumber < maxAttempts then
      .markAttemptRetryable worker.deliveryId worker.token attempt.id (deliveryErrorCode error)
        availableAt now
    else
      .markAttemptFailed worker.deliveryId worker.token attempt.id "delivery_attempts_exhausted" now
  | .permanent =>
    .markAttemptFailed worker.deliveryId worker.token attempt.id (deliveryErrorCode error) now
  | .uncertain =>
    .markAttemptUncertain worker.deliveryId worker.token attempt.id (deliveryErrorCode error) now

/-- `delivery = self._outbox.get(delivery.id) or delivery`. -/
def reloaded (worker : Worker) (delivery : DeliveryOutboxRecord) (tables : DeliveryTables) :
    DeliveryOutboxRecord :=
  (get worker.deliveryId tables).getD delivery

/-- The receipt step: `mark_part_delivered` goes through, or it raises. -/
def markStep (tables : DeliveryTables) (worker : Worker) (delivery : DeliveryOutboxRecord)
    (attempt : DeliveryAttempt) (payload : String) (messageId : Option String)
    (raised : Option Bool) (now : Timestamp) : DeliveryTables × Phase :=
  match markPartDelivered worker.deliveryId worker.token attempt.id delivery.nextPartOrdinal payload
      messageId now tables, raised with
  | .ok marked, none => (marked, .looping (reloaded worker delivery marked))
  | .ok marked, some true => (marked, .ambiguous delivery attempt)
  | _, _ => (tables, .ambiguous delivery attempt)

/-- One step of a worker: the tables it leaves, its next phase and what it shows. An action that
does not fit the phase does nothing. -/
def workerStep (digests : Digests) (tables : DeliveryTables) (worker : Worker) (action : Action) :
    DeliveryTables × Phase × List Event :=
  match action, worker.phase with
  | .start _ attemptId, .looping delivery =>
    if delivery.status = .delivering then
      match startAttempt worker.deliveryId worker.token delivery.nextPartOrdinal attemptId
          tables with
      | .ok (started, attempt) => (started, .attempting delivery attempt, [])
      | .error _ => (tables, .gone, [])
    else (tables, .gone, [])
  | .abort _ error, .attempting delivery attempt => (tables, .failing delivery attempt error, [])
  | .send _, .attempting delivery attempt =>
    (tables, .sending delivery attempt, [.called (worker.send delivery attempt)])
  | .answer _ result, .sending delivery attempt =>
    match result with
    | .ok (payload, messageId) =>
      (tables, .sent delivery attempt payload messageId,
        [.returned (worker.send delivery attempt)])
    | .error error =>
      (tables, .failing delivery attempt error, [.raised (worker.send delivery attempt) error])
  | .mark _ raised now, .sent delivery attempt payload messageId =>
    let (marked, phase) := markStep tables worker delivery attempt payload messageId raised now
    (marked, phase, [])
  | .settle _ _, .ambiguous delivery attempt =>
    if (getReceipt worker.deliveryId delivery.nextPartOrdinal tables).isSome then
      (tables, .receiptFound delivery attempt, [])
    else (tables, .receiptMissing delivery attempt, [])
  | .settle _ _, .receiptFound delivery _ =>
    (tables, .looping (reloaded worker delivery tables), [])
  | .settle _ _, .receiptMissing delivery attempt =>
    if ∃ current ∈ get worker.deliveryId tables, current.status ≠ .delivering then
      (tables, .gone, [])
    else (tables, .unsettled delivery attempt, [])
  | .settle _ now, .unsettled _ attempt =>
    (step digests tables (.markAttemptUncertain worker.deliveryId worker.token attempt.id
      receiptUncertainError now), .gone, [])
  | .report _ maxAttempts availableAt now, .failing _ attempt error =>
    (step digests tables (failureCall worker attempt error maxAttempts availableAt now), .gone, [])
  | .crash _, _ => (tables, .gone, [])
  | _, phase => (tables, phase, [])

/-- A claim that goes through starts a worker. The token is a fresh UUID: no other worker has it,
and it has no blanks around it. -/
def claimStep (world : World) (channel token : String) (now : Timestamp) : World :=
  if strip token ≠ token ∨ ∃ worker ∈ world.workers, worker.token = token then world
  else
    match claimNext channel token now world.tables with
    | .ok (claimed, some deliveryId) =>
      match get deliveryId claimed with
      | some delivery =>
        { world with
          tables := claimed
          workers := world.workers ++ [⟨deliveryId, token, .looping delivery⟩] }
      | none => world
    | _ => world

/-- The world after an action. -/
def World.step (digests : Digests) (world : World) (action : Action) : World :=
  match action with
  | .claim channel token now => claimStep world channel token now
  | action =>
    match action.call?, action.worker? with
    | some call, _ => { world with tables := Delivery.step digests world.tables call }
    | none, some token =>
      match world.workers.find? fun worker => worker.token = token with
      | none => world
      | some worker =>
        let (tables, phase, events) := workerStep digests world.tables worker action
        { tables := tables
          workers := updateWhere (fun other : Worker => other.token = token)
            (fun other => { other with phase := phase }) world.workers
          trace := world.trace ++ events }
    | none, none => world

/-- The world before anything is delivered, and after the actions of a run. -/
def worldAfter (digests : Digests) (actions : List Action) : World :=
  run (World.step digests) ⟨initial, [], []⟩ actions

/-! ## Moves -/

/-- What one step of a worker does: the tables, its next phase and the events. -/
inductive WorkerMove (digests : Digests) (tables : DeliveryTables) (worker : Worker) :
    DeliveryTables → Phase → List Event → Prop
  | idle : WorkerMove digests tables worker tables worker.phase []
  | leave : WorkerMove digests tables worker tables .gone []
  | start {delivery attemptId tables' attempt} (hphase : worker.phase = .looping delivery)
      (hstart : startAttempt worker.deliveryId worker.token delivery.nextPartOrdinal attemptId
        tables = .ok (tables', attempt)) :
      WorkerMove digests tables worker tables' (.attempting delivery attempt) []
  | abort {delivery attempt error} (hphase : worker.phase = .attempting delivery attempt) :
      WorkerMove digests tables worker tables (.failing delivery attempt error) []
  | send {delivery attempt} (hphase : worker.phase = .attempting delivery attempt) :
      WorkerMove digests tables worker tables (.sending delivery attempt)
        [.called (worker.send delivery attempt)]
  | returned {delivery attempt payload messageId}
      (hphase : worker.phase = .sending delivery attempt) :
      WorkerMove digests tables worker tables (.sent delivery attempt payload messageId)
        [.returned (worker.send delivery attempt)]
  | raised {delivery attempt error} (hphase : worker.phase = .sending delivery attempt) :
      WorkerMove digests tables worker tables (.failing delivery attempt error)
        [.raised (worker.send delivery attempt) error]
  | marked {delivery attempt payload messageId now tables' phase}
      (hphase : worker.phase = .sent delivery attempt payload messageId)
      (hmark : markPartDelivered worker.deliveryId worker.token attempt.id
        delivery.nextPartOrdinal payload messageId now tables = .ok tables')
      (hnext : phase = .looping (reloaded worker delivery tables') ∨
        phase = .ambiguous delivery attempt) :
      WorkerMove digests tables worker tables' phase []
  | lost {delivery attempt payload messageId}
      (hphase : worker.phase = .sent delivery attempt payload messageId) :
      WorkerMove digests tables worker tables (.ambiguous delivery attempt) []
  | found {delivery attempt} (hphase : worker.phase = .ambiguous delivery attempt)
      (hreceipt : (getReceipt worker.deliveryId delivery.nextPartOrdinal tables).isSome) :
      WorkerMove digests tables worker tables (.receiptFound delivery attempt) []
  | missing {delivery attempt} (hphase : worker.phase = .ambiguous delivery attempt) :
      WorkerMove digests tables worker tables (.receiptMissing delivery attempt) []
  | resume {delivery attempt} (hphase : worker.phase = .receiptFound delivery attempt) :
      WorkerMove digests tables worker tables (.looping (reloaded worker delivery tables)) []
  | unsettle {delivery attempt} (hphase : worker.phase = .receiptMissing delivery attempt) :
      WorkerMove digests tables worker tables (.unsettled delivery attempt) []
  | settle {delivery attempt now} (hphase : worker.phase = .unsettled delivery attempt) :
      WorkerMove digests tables worker
        (step digests tables (.markAttemptUncertain worker.deliveryId worker.token attempt.id
          receiptUncertainError now)) .gone []
  | report {delivery attempt error maxAttempts availableAt now}
      (hphase : worker.phase = .failing delivery attempt error) :
      WorkerMove digests tables worker
        (step digests tables (failureCall worker attempt error maxAttempts availableAt now))
        .gone []

section Moves

variable {digests : Digests} {tables : DeliveryTables} {worker : Worker}

/-- The receipt step goes through, or leaves the tables as they were. -/
lemma markStep_move {delivery : DeliveryOutboxRecord} {attempt : DeliveryAttempt}
    {payload : String} {messageId : Option String}
    (hphase : worker.phase = .sent delivery attempt payload messageId) (raised : Option Bool)
    (now : Timestamp) :
    WorkerMove digests tables worker
      (markStep tables worker delivery attempt payload messageId raised now).1
      (markStep tables worker delivery attempt payload messageId raised now).2 [] := by
  unfold markStep
  split
  · rename_i hmark
    exact .marked hphase hmark (Or.inl rfl)
  · rename_i hmark
    exact .marked hphase hmark (Or.inr rfl)
  · exact .lost hphase

/-- Every step of a worker is one of these moves. -/
theorem workerStep_move (digests : Digests) (tables : DeliveryTables) (worker : Worker)
    (action : Action) :
    WorkerMove digests tables worker (workerStep digests tables worker action).1
      (workerStep digests tables worker action).2.1
      (workerStep digests tables worker action).2.2 := by
  unfold workerStep
  split
  · rename_i hphase
    split_ifs
    · split
      · rename_i hstart
        exact .start hphase hstart
      · exact .leave
    · exact .leave
  · rename_i hphase
    exact .abort hphase
  · rename_i hphase
    exact .send hphase
  · rename_i result _ _ hphase
    cases result with
    | ok result => exact .returned hphase
    | error error => exact .raised hphase
  · rename_i raised now _ _ _ _ hphase
    exact markStep_move hphase raised now
  · rename_i hphase
    split_ifs with hreceipt
    · exact .found hphase hreceipt
    · exact .missing hphase
  · rename_i hphase
    exact .resume hphase
  · rename_i hphase
    split_ifs
    · exact .leave
    · exact .unsettle hphase
  · rename_i hphase
    exact .settle hphase
  · rename_i hphase
    exact .report hphase
  · exact .leave
  · exact .idle

end Moves

/-- What one action does to the world. -/
inductive WorldMove (digests : Digests) (world : World) (action : Action) : World → Prop
  | unchanged : WorldMove digests world action world
  | store {call} (hcall : action.call? = some call) :
      WorldMove digests world action { world with tables := step digests world.tables call }
  | started {channel token now tables delivery}
      (hfresh : ∀ worker ∈ world.workers, worker.token ≠ token) (hstrip : strip token = token)
      (hclaim : claimNext channel token now world.tables = .ok (tables, some delivery.id))
      (hmem : delivery ∈ tables.deliveries) :
      WorldMove digests world action
        { world with
          tables := tables
          workers := world.workers ++ [⟨delivery.id, token, .looping delivery⟩] }
  | worked {worker tables phase events} (hmem : worker ∈ world.workers)
      (hmove : WorkerMove digests world.tables worker tables phase events) :
      WorldMove digests world action
        { tables := tables
          workers := updateWhere (fun other : Worker => other.token = worker.token)
            (fun other => { other with phase := phase }) world.workers
          trace := world.trace ++ events }

/-- Every step of the world is one of these moves. -/
theorem World.step_move (digests : Digests) (world : World) (action : Action) :
    WorldMove digests world action (world.step digests action) := by
  unfold World.step
  split
  · rename_i channel token now
    unfold claimStep
    split_ifs with hused
    · exact .unchanged
    · rw [not_or, not_not, not_exists] at hused
      split
      · rename_i hclaim
        split
        · rename_i hget
          obtain ⟨hmem, rfl⟩ := get_eq_some hget
          refine .started ?_ hused.1 hclaim hmem
          exact fun worker hmem htoken => hused.2 worker ⟨hmem, htoken⟩
        · exact .unchanged
      · exact .unchanged
  · cases hcall : action.call? with
    | some call => exact .store hcall
    | none =>
      cases action.worker? with
      | none => exact .unchanged
      | some token =>
        dsimp only
        split
        · exact .unchanged
        · rename_i worker hfind
          have hworker : worker.token = token := by simpa using List.find?_some hfind
          subst hworker
          exact .worked (List.mem_of_find?_eq_some hfind)
            (workerStep_move digests world.tables worker action)

/-! ## The workers run on the delivery tables -/

section Refinement

variable {digests : Digests} {tables tables' : DeliveryTables} {worker : Worker} {phase : Phase}
  {events : List Event} {world world' : World} {action : Action}

/-- A call a worker makes: no worker ever retries a delivery that has been given up. -/
def Call.IsRetry : Call → Prop
  | .retry _ _ _ _ => True
  | _ => False

lemma not_isRetry_failureCall (worker : Worker) (attempt : DeliveryAttempt)
    (error : DeliveryException) (maxAttempts : ℕ) (availableAt now : Timestamp) :
    ¬ (failureCall worker attempt error maxAttempts availableAt now).IsRetry := by
  unfold failureCall
  split
  · split_ifs <;> exact id
  · exact id
  · exact id

/-- A worker's move is at most one call on the tables, and no retry. -/
lemma WorkerMove.tablesStep (hkeys : Keyed tables)
    (h : WorkerMove digests tables worker tables' phase events) :
    ∃ call : Call, ¬ call.IsRetry ∧ TablesStep digests tables call tables' := by
  have hnothing : ∃ call : Call, ¬ call.IsRetry ∧ TablesStep digests tables call tables :=
    ⟨.claimNext "" "" 0, id, .unchanged⟩
  cases h with
  | start _ hstart => exact ⟨_, id, startAttempt_step hkeys hstart⟩
  | marked _ hmark => exact ⟨_, id, markPartDelivered_step hkeys hmark⟩
  | settle => exact ⟨_, id, step_cases hkeys⟩
  | report => exact ⟨_, not_isRetry_failureCall _ _ _ _ _ _, step_cases hkeys⟩
  | _ => exact hnothing

/-- An action is at most one call on the tables; a retry is an operator's. -/
lemma WorldMove.tablesStep (hkeys : Keyed world.tables)
    (h : WorldMove digests world action world') :
    ∃ call : Call, (call.IsRetry → action.call? = some call) ∧
      TablesStep digests world.tables call world'.tables := by
  cases h with
  | unchanged => exact ⟨.claimNext "" "" 0, False.elim, .unchanged⟩
  | store hcall => exact ⟨_, fun _ => hcall, step_cases hkeys⟩
  | started _ _ hclaim => exact ⟨_, False.elim, claimNext_step hkeys hclaim⟩
  | worked _ hmove =>
    obtain ⟨call, hretry, hstep⟩ := hmove.tablesStep hkeys
    exact ⟨call, fun h => absurd h hretry, hstep⟩

end Refinement

end AgentGateway.Delivery
