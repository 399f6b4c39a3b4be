import AgentGateway.Dispatch.Worker

/-!
# How often a dispatch reaches Hermes

A chat call is an external effect, so the number of calls for a record is accounted for. Every
claim arms one worker for one call. A record can be claimed again only after the previous call is
known not to have executed anything (Hermes answered with a status below 500) or after an operator
has approved a retry, so the armed workers and the calls made so far stay within one more than the
rejections and approvals.

The account is kept per record by the status of the record: `Budgeted` is the invariant.
-/

namespace AgentGateway.Dispatch

open Lib Lib.Table Lib.Run

/-! ## The account of a record -/

/-- The event is a chat call for the record. -/
def IsChatOf (recordId : ℕ) : Event → Prop
  | .chatCalled id _ => id = recordId
  | _ => False

/-- The event is the end of a chat call for the record in an API error below 500. -/
def IsRejectionOf (recordId : ℕ) : Event → Prop
  | .chatRaised id _ (.apiError statusCode) => id = recordId ∧ statusCode < 500
  | _ => False

instance (recordId : ℕ) : DecidablePred (IsChatOf recordId)
  | .chatCalled id _ => inferInstanceAs (Decidable (id = recordId))
  | .chatReturned _ _ | .chatRaised _ _ _ => isFalse id

instance (recordId : ℕ) : DecidablePred (IsRejectionOf recordId)
  | .chatRaised id _ (.apiError statusCode) =>
    inferInstanceAs (Decidable (id = recordId ∧ statusCode < 500))
  | .chatRaised _ _ .transportError | .chatRaised _ _ .timeoutError
  | .chatRaised _ _ .executionTimeoutError | .chatRaised _ _ .responseError
  | .chatRaised _ _ .unexpected | .chatCalled _ _ | .chatReturned _ _ => isFalse id

/-- How often `client.chat` was called for the record. -/
def chatCalls (world : World) (recordId : ℕ) : ℕ := rowcount (IsChatOf recordId) world.trace

/-- How many of these calls ended in an API error below 500. -/
def rejections (world : World) (recordId : ℕ) : ℕ :=
  rowcount (IsRejectionOf recordId) world.trace

/-- How many retries of the record an operator has approved. -/
def approvals (tables : DispatchTables) (recordId : ℕ) : ℕ :=
  rowcount (fun audit : HermesDispatchRecoveryAudit => audit.dispatchRecordId = recordId ∧
    audit.action = .retryApproved) tables.audits

/-- How many workers of the record have yet to make their call. -/
def armed (world : World) (recordId : ℕ) : ℕ :=
  rowcount (fun worker : Worker => worker.recordId = recordId ∧ worker.phase.Armed) world.workers

/-- The calls of the record that have been made or may still be made. -/
def load (world : World) (recordId : ℕ) : ℕ := chatCalls world recordId + armed world recordId

/-- What the record may use up beyond its first call. -/
def budget (world : World) (recordId : ℕ) : ℕ :=
  rejections world recordId + approvals world.tables recordId

/-- The first call is still to come for a record that can be claimed, and spent otherwise. -/
def slack : HermesDispatchStatus → ℕ
  | .queued | .failed => 0
  | .running | .success | .uncertain | .dead => 1

lemma slack_le_one (status : HermesDispatchStatus) : slack status ≤ 1 := by
  cases status <;> simp [slack]

/-- A worker that holds the record and is about to report it as failed. -/
def ReportsFor (record : HermesDispatchRecord) (worker : Worker) : Prop :=
  record.status = .running ∧ worker.recordId = record.id ∧
    record.claimToken = some worker.token ∧ worker.phase.ReportsFailed

/-- The invariant: no record spends more than its budget allows in its status. -/
structure Budgeted (world : World) : Prop where
  tokens : UniqueKeys Worker.token world.workers
  ids : UniqueKeys HermesDispatchRecord.id world.tables.records
  known : ∀ recordId, (∀ record ∈ world.tables.records, record.id ≠ recordId) →
    load world recordId = 0
  bounded : ∀ record ∈ world.tables.records,
    load world record.id ≤ budget world record.id + slack record.status
  failing : ∀ record ∈ world.tables.records, ∀ worker ∈ world.workers,
    ReportsFor record worker → load world record.id ≤ budget world record.id

/-! ## One step of a worker -/

section WorkerSteps

variable {tables tables' : DispatchTables} {worker : Worker} {phase : Phase}
  {events : List Event}

/-- A worker disarms itself by its call: its share of the load does not grow. -/
lemma WorkerMove.load_le (h : WorkerMove tables worker tables' phase events) (recordId : ℕ) :
    rowcount (IsChatOf recordId) events +
        (if worker.recordId = recordId ∧ phase.Armed then 1 else 0) ≤
      if worker.recordId = recordId ∧ worker.phase.Armed then 1 else 0 := by
  cases h with
  | idle => simp
  | load hphase | renew hphase | prepare hphase => simp [hphase, Phase.Armed]
  | leave | reject | complete | report => simp [Phase.Armed]
  | chat hphase =>
    by_cases hid : worker.recordId = recordId <;>
      simp [hphase, hid, rowcount_cons, IsChatOf, Phase.Armed]
  | returned | raised => simp [rowcount_cons, IsChatOf, Phase.Armed]

lemma Phase.ReportsFailed.not_armed (h : phase.ReportsFailed) : ¬ phase.Armed := by
  obtain ⟨error, rfl, -⟩ := h
  exact id

/-- A worker that has just decided to report a failure had not called, or was rejected just
now. -/
lemma WorkerMove.reportsFailed (h : WorkerMove tables worker tables' phase events)
    (hreports : phase.ReportsFailed) :
    (phase = worker.phase ∧ events = []) ∨ (worker.phase.Armed ∧ events = []) ∨
      ∃ statusCode < 500,
        events = [.chatRaised worker.recordId worker.token (.apiError statusCode)] := by
  obtain ⟨error, hraised, hfailed⟩ := hreports
  cases h with
  | idle => exact Or.inl ⟨rfl, rfl⟩
  | reject hphase => exact Or.inr (Or.inl ⟨hphase, rfl⟩)
  | @raised _ _ error' hphase =>
    cases hraised
    -- of all errors of the call only an API error below 500 counts as failed
    cases error' with
    | apiError statusCode =>
      have hcode : statusCode < 500 := by
        by_contra hge
        simp [dispatchFailureStatus, not_lt.mp hge] at hfailed
      exact Or.inr (Or.inr ⟨statusCode, hcode, rfl⟩)
    | _ => simp [dispatchFailureStatus] at hfailed
  | _ => cases hraised

/-- The failure it reports is covered: it has given up its call, or its call was rejected. -/
lemma WorkerMove.load_lt_of_reportsFailed (h : WorkerMove tables worker tables' phase events)
    (hreports : phase.ReportsFailed) :
    (phase = worker.phase ∧ events = []) ∨
      rowcount (IsChatOf worker.recordId) events + (if phase.Armed then 1 else 0) + 1 ≤
        (if worker.phase.Armed then 1 else 0) +
          rowcount (IsRejectionOf worker.recordId) events := by
  rw [if_neg hreports.not_armed]
  rcases h.reportsFailed hreports with hsame | ⟨harmed, rfl⟩ | ⟨statusCode, hcode, rfl⟩
  · exact Or.inl hsame
  · rw [if_pos harmed]
    exact Or.inr le_rfl
  · refine Or.inr ?_
    simp [rowcount_cons, IsChatOf, IsRejectionOf, hcode]

end WorkerSteps

/-! ## The account over one step -/

section Account

variable {world : World} {call : Call} {recordId : ℕ} {tables : DispatchTables}

lemma rowcount_le_append {ρ : Type*} {p : ρ → Prop} [DecidablePred p] (rows added : List ρ) :
    rowcount p rows ≤ rowcount p (rows ++ added) := by
  rw [rowcount_append]
  omega

/-- Audits are never taken back. -/
lemma approvals_le_step (tables : DispatchTables) (call : Call) (recordId : ℕ) :
    approvals tables recordId ≤ approvals (step tables call) recordId := by
  unfold approvals
  cases hcall : call.recovery? with
  | none => rw [audits_eq_of_recovery_eq_none hcall]
  | some recovery =>
    obtain ⟨id, action, afterStatus⟩ := recovery
    rcases recovery_step hcall with hsame | ⟨audit, -, -, haudits⟩
    · rw [hsame]
    · rw [haudits]
      exact rowcount_le_append _ _

/-- An approved retry is paid for by its audit. -/
lemma approvals_lt_step {afterStatus : HermesDispatchStatus}
    (hcall : call.recovery? = some (recordId, .retryApproved, afterStatus))
    (hchanged : step tables call ≠ tables) :
    approvals tables recordId < approvals (step tables call) recordId := by
  rcases recovery_step hcall with hsame | ⟨audit, hid, haction, haudits⟩
  · exact absurd hsame hchanged
  · unfold approvals
    rw [haudits, rowcount_append, rowcount_cons, rowcount_nil, if_pos ⟨hid, haction⟩]
    omega

variable {record record' : HermesDispatchRecord}

/-- A record that an approved retry has made claimable has its audit. -/
lemma approvals_lt_of_resolved (hids : UniqueKeys HermesDispatchRecord.id tables.records)
    (hmem : record ∈ tables.records) (hmem' : record' ∈ (step tables call).records)
    (hid : record'.id = record.id)
    (hcall : call.recovery? = some (record.id, .retryApproved, .failed))
    (huncertain : record.status = .uncertain) (hstatus : record'.status = .failed) :
    approvals tables record.id < approvals (step tables call) record.id := by
  refine approvals_lt_step hcall fun hsame => ?_
  rw [hsame] at hmem'
  rw [hids.eq_of_key_eq hmem' hmem hid, huncertain] at hstatus
  cases hstatus

lemma Claimable.slack_eq_zero {retryLimit : ℕ} (h : Claimable retryLimit record) :
    slack record.status = 0 := by
  rcases h with hqueued | ⟨hfailed, -⟩
  · rw [hqueued]
    rfl
  · rw [hfailed]
    rfl

/-- A record becomes claimable only by a failure its holder reports or by an approved retry. -/
lemma Move.slack_cases {records : List HermesDispatchRecord} (h : Move records call record record') :
    slack record.status ≤ slack record'.status ∨
    (∃ token errorCode retryLimit dbNow,
      call = .markFailed record.id token errorCode retryLimit dbNow ∧
      record.status = .running ∧ record.claimToken = some token) ∨
    (call.recovery? = some (record.id, .retryApproved, .failed) ∧ record.status = .uncertain ∧
      record'.status = .failed) := by
  cases h with
  | stay | renewed => exact Or.inl le_rfl
  | claimed | exhausted | expired => exact Or.inl (slack_le_one _)
  | completed hcall hheld =>
    cases call with
    | markFailed id token' errorCode' retryLimit dbNow' =>
      simp only [Call.completion?, Option.some.injEq, Prod.mk.injEq] at hcall
      obtain ⟨rfl, rfl, rfl⟩ := hcall
      exact Or.inr (Or.inl ⟨_, _, _, _, rfl, hheld.2.1, hheld.2.2.1⟩)
    | markSuccess | markUncertain | markDead | completeSuccess => exact Or.inl (slack_le_one _)
    | _ => cases hcall
  | resolved hcall huncertain =>
    cases call with
    | retryApproved request =>
      simp only [Call.recovery?, Option.some.injEq, Prod.mk.injEq] at hcall
      obtain ⟨hid, rfl, rfl⟩ := hcall
      exact Or.inr (Or.inr ⟨by rw [Call.recovery?, hid], huncertain, rfl⟩)
    | markDeadByOperator | confirmSuccess =>
      simp only [Call.recovery?, Option.some.injEq, Prod.mk.injEq] at hcall
      obtain ⟨-, rfl, rfl⟩ := hcall
      exact Or.inl (slack_le_one _)
    | _ => cases hcall

/-- A call on the tables keeps the account, if a failure it reports is covered by the budget. -/
lemma Budgeted.step_tables (h : Budgeted world)
    (hclaim : ∀ recordId token lease retryLimit now,
      call = .claim recordId token lease retryLimit now →
      ∀ worker ∈ world.workers, worker.token ≠ token)
    (hfailed : ∀ record ∈ world.tables.records, ∀ token errorCode retryLimit dbNow,
      call = .markFailed record.id token errorCode retryLimit dbNow → record.status = .running →
      record.claimToken = some token → load world record.id ≤ budget world record.id) :
    Budgeted { world with tables := step world.tables call } := by
  have hbudget : ∀ recordId, budget world recordId ≤
      budget { world with tables := step world.tables call } recordId := fun recordId =>
    Nat.add_le_add_left (approvals_le_step world.tables call recordId) _
  refine ⟨h.tokens, step_uniqueIds h.ids, ?_, ?_, ?_⟩
  · intro recordId hunknown
    refine h.known recordId fun record hmem hid => ?_
    obtain ⟨record', hmem', hmove⟩ := step_persists hmem call
    exact hunknown record' hmem' (hmove.identity.1.trans hid)
  · intro record' hmem'
    change load world record'.id ≤ _
    rcases step_origin hmem' with ⟨record, hmem, hmove⟩ |
      ⟨admission, target, id, createdAt, hcall, -, rfl, hnew⟩
    · rw [hmove.identity.1]
      have hbounded := h.bounded record hmem
      have hmore := hbudget record.id
      rcases hmove.slack_cases with hslack | ⟨token, errorCode, retryLimit, dbNow, hcall, hrunning,
        htoken⟩ | ⟨hcall, huncertain, hstatus⟩
      · omega
      · have := hfailed record hmem token errorCode retryLimit dbNow hcall hrunning htoken
        omega
      · have hpaid := approvals_lt_of_resolved h.ids hmem hmem' hmove.identity.1 hcall huncertain
          hstatus
        rw [huncertain] at hbounded
        simp only [budget, slack] at hbounded ⊢
        change _ ≤ rejections world record.id + _ + _
        omega
    · -- a new record has not been worked on
      rw [h.known _ hnew]
      exact Nat.zero_le _
  · intro record' hmem' worker hworker ⟨hrunning, hid, htoken, hreports⟩
    change load world record'.id ≤ _
    rcases step_origin hmem' with ⟨record, hmem, hmove⟩ | ⟨_, target, id, at', -, -, rfl, -⟩
    · rcases hmove.holds_cases hrunning htoken with ⟨hrun, htok⟩ | ⟨lease, limit, now, hcall⟩
      · rw [hmove.identity.1] at hid ⊢
        exact (h.failing record hmem worker hworker ⟨hrun, hid, htok, hreports⟩).trans (hbudget _)
      · exact absurd rfl (hclaim _ _ _ _ _ hcall worker hworker)
    · cases hrunning

end Account

section WorkerAccount

variable {world : World} {worker : Worker} {tables' : DispatchTables} {phase : Phase}
  {events : List Event}

/-- How a worker's step changes the load of a record. -/
lemma load_worked (h : Budgeted world) (hmem : worker ∈ world.workers) (phase : Phase)
    (events : List Event) (recordId : ℕ) :
    load (world.worked worker phase events) recordId +
        (if worker.recordId = recordId ∧ worker.phase.Armed then 1 else 0) =
      load world recordId + rowcount (IsChatOf recordId) events +
        if worker.recordId = recordId ∧ phase.Armed then 1 else 0 := by
  have hcount := h.tokens.rowcount_updateWhere
    (p := fun worker : Worker => worker.recordId = recordId ∧ worker.phase.Armed)
    (f := fun other => { other with phase := phase }) hmem
  simp only [load, chatCalls, armed, World.worked, rowcount_append] at hcount ⊢
  omega

lemma load_worked_le (h : Budgeted world) (hmem : worker ∈ world.workers)
    (hmove : WorkerMove world.tables worker tables' phase events) (recordId : ℕ) :
    load (world.worked worker phase events) recordId ≤ load world recordId := by
  have hload := load_worked h hmem phase events recordId
  have hshare := hmove.load_le recordId
  omega

lemma budget_worked (recordId : ℕ) :
    budget (world.worked worker phase events) recordId =
      budget world recordId + rowcount (IsRejectionOf recordId) events := by
  simp only [budget, rejections, World.worked, rowcount_append]
  omega

/-- A worker's own step keeps the account. -/
lemma Budgeted.worked (h : Budgeted world) (hmem : worker ∈ world.workers)
    (hmove : WorkerMove world.tables worker tables' phase events) :
    Budgeted (world.worked worker phase events) := by
  have hload := load_worked_le h hmem hmove
  refine ⟨h.tokens.updateWhere fun _ => rfl, h.ids, ?_, ?_, ?_⟩
  · intro recordId hunknown
    have hzero := h.known recordId hunknown
    have hle := hload recordId
    omega
  · intro record hrecord
    have hbounded := h.bounded record hrecord
    have hle := hload record.id
    rw [budget_worked]
    omega
  · intro record hrecord worker' hworker' hreports
    rw [budget_worked]
    have hle := hload record.id
    rcases updateWhere_cases hworker' with ⟨hother, -⟩ | ⟨moved, hmoved, htoken, rfl⟩
    · have hfailing := h.failing record hrecord worker' hother hreports
      omega
    · obtain rfl := h.tokens.eq_of_key_eq hmoved hmem htoken
      obtain ⟨hrunning, hid, hclaim, hphase⟩ := hreports
      rcases hmove.load_lt_of_reportsFailed hphase with ⟨hsame, rfl⟩ | hlt
      · -- nothing happened, so the worker was about to report before
        have hfailing := h.failing record hrecord moved hmem
          ⟨hrunning, hid, hclaim, hsame ▸ hphase⟩
        omega
      · have hbounded := h.bounded record hrecord
        rw [hrunning] at hbounded
        have hshare := load_worked h hmem phase events record.id
        dsimp only at hid
        simp only [hid, true_and, slack] at hshare hbounded hlt
        omega

end WorkerAccount

/-! ## The account over a run -/

section Run

variable {world world' : World} {action : Action} {token : String}

/-- A worker that a claim starts uses up the call its record can still make. -/
lemma Budgeted.armed {record : HermesDispatchRecord} (h : Budgeted world)
    (hfresh : ∀ worker ∈ world.workers, worker.token ≠ token) (hmem : record ∈ world.tables.records)
    (hrunning : record.status = .running) (hclaim : record.claimToken = some token)
    (hload : load world record.id ≤ budget world record.id) :
    Budgeted (world.started world.tables record.id token) := by
  have hstarted : ∀ id, load (world.started world.tables record.id token) id =
      load world id + if record.id = id then 1 else 0 := by
    intro id
    have harmed : Phase.claimed.Armed := trivial
    simp only [load, chatCalls, Dispatch.armed, World.started, rowcount_append, rowcount_cons,
      rowcount_nil, harmed, and_true]
    omega
  refine ⟨h.tokens.append hfresh, h.ids, ?_, ?_, ?_⟩
  · intro id hunknown
    rw [hstarted, if_neg (hunknown record hmem), h.known id hunknown]
  · intro other hother
    rw [hstarted]
    change _ ≤ budget world other.id + _
    split_ifs with hsame
    · obtain rfl := h.ids.eq_of_key_eq hmem hother hsame
      rw [hrunning]
      exact Nat.succ_le_succ hload
    · exact h.bounded other hother
  · rintro other hother worker hworker ⟨hruns, hid, htoken, hreports⟩
    rcases mem_concat.mp hworker with hold | rfl
    · -- the worker reports for its own claim, which is not the one that has just been granted
      have hne : record.id ≠ other.id := by
        intro hsame
        obtain rfl := h.ids.eq_of_key_eq hmem hother hsame
        cases hclaim.symm.trans htoken
        exact hfresh worker hold rfl
      rw [hstarted, if_neg hne]
      exact h.failing other hother worker hold ⟨hruns, hid, htoken, hreports⟩
    · obtain ⟨error, hphase, -⟩ := hreports
      cases hphase

/-- A claim arms one worker and spends the first call of its record. -/
lemma Budgeted.started {recordId : ℕ} {lease : ℕ} {retryLimit : Int} {now : Timestamp}
    {tables : DispatchTables} (h : Budgeted world)
    (hfresh : ∀ worker ∈ world.workers, worker.token ≠ token)
    (hclaim : attempt world.tables (.claim recordId token lease retryLimit now) = some tables) :
    Budgeted (world.started tables recordId token) := by
  obtain ⟨claimable, hclaimable, ⟨rfl, hstatus, -⟩, hclaimed⟩ := claim_guard hclaim
  obtain rfl := step_of_attempt_eq_some hclaim
  have htables : Budgeted { world with
      tables := Dispatch.step world.tables (.claim claimable.id token lease retryLimit now) } := by
    refine h.step_tables ?_ ?_
    · rintro _ _ _ _ _ ⟨⟩
      exact hfresh
    · rintro _ - _ _ _ _ ⟨⟩
  -- it had not spent its first call
  have hbounded := h.bounded claimable hclaimable
  rw [hstatus.slack_eq_zero] at hbounded
  have harmed := htables.armed hfresh hclaimed rfl rfl
    (hbounded.trans (Nat.add_le_add_left (approvals_le_step _ _ _) _))
  exact harmed

/-- The account survives every action. -/
theorem Budgeted.step (h : Budgeted world) (action : Action) : Budgeted (world.step action) := by
  have hstep := world.step_move action
  generalize world.step action = world' at hstep ⊢
  cases hstep with
  | unchanged => exact h
  | store hcall =>
    -- the outside neither claims nor reports for a worker
    refine h.step_tables ?_ ?_
    · rintro recordId token lease retryLimit now rfl
      cases action <;> cases hcall
    · rintro record - token errorCode retryLimit dbNow rfl
      cases action <;> cases hcall
  | started hfresh hclaim => exact h.started hfresh hclaim
  | @worked worker _ _ _ hmem hmove =>
    have hworked := h.worked hmem hmove
    rcases hmove.tables_cases with rfl | ⟨call, rfl, -, -, hclaim, hreport⟩
    · exact hworked
    · refine Budgeted.step_tables hworked (fun _ _ _ _ _ hcall => absurd hcall (hclaim _ _ _ _ _)) ?_
      intro record hrecord token errorCode retryLimit dbNow hcall hrunning htoken
      obtain ⟨hid, rfl, hphase, -, rfl⟩ := hreport _ _ _ _ _ hcall
      have hfailing := h.failing record hrecord worker hmem ⟨hrunning, hid, htoken, hphase⟩
      have hle := load_worked_le h hmem hmove record.id
      rw [budget_worked]
      omega

lemma worldAfter_budgeted (threads : List AIThread) (actions : List Action) :
    Budgeted (worldAfter threads actions) := by
  refine run_invariant (fun world action h => h.step action) ?_ actions
  exact ⟨List.nodup_nil, List.nodup_nil, fun _ _ => rfl, by rintro _ ⟨⟩, by rintro _ ⟨⟩⟩

end Run

/-! ## What the trace says about the workers -/

/-- The event is a chat call of the worker with the token. -/
def IsChatBy (token : String) : Event → Prop
  | .chatCalled _ caller => caller = token
  | _ => False

instance (token : String) : DecidablePred (IsChatBy token)
  | .chatCalled _ caller => inferInstanceAs (Decidable (caller = token))
  | .chatReturned _ _ | .chatRaised _ _ _ => isFalse id

/-- The call made under the claim ended in an API error below 500. -/
def Rejected (trace : List Event) (recordId : ℕ) (token : String) : Prop :=
  ∃ statusCode < 500, .chatRaised recordId token (.apiError statusCode) ∈ trace

/-- The second invariant: a worker that has called is disarmed, calls once, and reports a failure
only when it has not called or its call was rejected. -/
structure Traced (world : World) : Prop where
  tokens : UniqueKeys Worker.token world.workers
  disarmed : ∀ recordId token, .chatCalled recordId token ∈ world.trace →
    ∃ worker ∈ world.workers, worker.recordId = recordId ∧ worker.token = token ∧
      ¬ worker.phase.Armed
  once : ∀ token, rowcount (IsChatBy token) world.trace ≤ 1
  reports : ∀ worker ∈ world.workers, worker.phase.ReportsFailed →
    (∀ recordId, .chatCalled recordId worker.token ∉ world.trace) ∨
      Rejected world.trace worker.recordId worker.token

section Trace

variable {world : World} {worker : Worker} {tables' tables : DispatchTables} {phase : Phase}
  {events : List Event} {recordId : ℕ} {token : String}

lemma Rejected.mono {trace : List Event} (h : Rejected trace recordId token) (events : List Event) :
    Rejected (trace ++ events) recordId token := by
  obtain ⟨statusCode, hlt, hmem⟩ := h
  exact ⟨statusCode, hlt, List.mem_append_left _ hmem⟩

/-- A worker whose call is in the trace cannot be armed. -/
lemma Traced.not_armed (h : Traced world) (hmem : worker ∈ world.workers)
    (hcalled : .chatCalled recordId worker.token ∈ world.trace) : ¬ worker.phase.Armed := by
  obtain ⟨caller, hcaller, -, htoken, hdisarmed⟩ := h.disarmed recordId worker.token hcalled
  obtain rfl := h.tokens.eq_of_key_eq hcaller hmem htoken
  exact hdisarmed

/-- Nobody is armed again. -/
lemma WorkerMove.armed_of_armed (h : WorkerMove tables worker tables' phase events)
    (harmed : phase.Armed) : worker.phase.Armed := by
  cases h with
  | idle => exact harmed
  | load hphase | renew hphase | prepare hphase =>
    rw [hphase]
    trivial
  | _ => cases harmed

/-- The only call a worker shows is its own, and it makes it while armed. -/
lemma WorkerMove.chatCalled (h : WorkerMove tables worker tables' phase events)
    (hcalled : .chatCalled recordId token ∈ events) :
    recordId = worker.recordId ∧ token = worker.token ∧ worker.phase.Armed ∧ ¬ phase.Armed ∧
      events = [.chatCalled recordId token] := by
  cases h with
  | chat hphase =>
    obtain ⟨rfl, rfl⟩ : recordId = worker.recordId ∧ token = worker.token := by
      simpa using hcalled
    exact ⟨rfl, rfl, by rw [hphase]; trivial, id, rfl⟩
  | returned | raised => simp at hcalled
  | _ => cases hcalled

/-- The step of a worker keeps the trace invariant. -/
lemma Traced.worked (h : Traced world) (hmem : worker ∈ world.workers)
    (hmove : WorkerMove world.tables worker tables' phase events) :
    Traced (world.worked worker phase events) := by
  have hnew : ({ worker with phase := phase } : Worker) ∈
      (world.worked worker phase events).workers := mem_updateWhere_of_pos hmem rfl
  refine ⟨h.tokens.updateWhere fun _ => rfl, ?_, ?_, ?_⟩
  -- a worker that has called is disarmed, and stays so
  · intro recordId token hcalled
    rcases List.mem_append.mp hcalled with hold | hadded
    · obtain ⟨caller, hcaller, hid, rfl, hdisarmed⟩ := h.disarmed recordId token hold
      by_cases hsame : caller.token = worker.token
      · obtain rfl := h.tokens.eq_of_key_eq hcaller hmem hsame
        exact ⟨_, hnew, hid, rfl, fun harmed => hdisarmed (hmove.armed_of_armed harmed)⟩
      · exact ⟨caller, mem_updateWhere_of_not hcaller hsame, hid, rfl, hdisarmed⟩
    · obtain ⟨rfl, rfl, -, hdisarmed, -⟩ := hmove.chatCalled hadded
      exact ⟨_, hnew, rfl, rfl, hdisarmed⟩
  · intro token
    change rowcount (IsChatBy token) (world.trace ++ events) ≤ 1
    rw [rowcount_append]
    have honce := h.once token
    by_cases hcalls : ∃ recordId, .chatCalled recordId token ∈ events
    · -- the worker was armed, so there is no earlier call of its own
      obtain ⟨recordId, hcalled⟩ := hcalls
      obtain ⟨-, rfl, harmed, -, rfl⟩ := hmove.chatCalled hcalled
      have hzero : rowcount (IsChatBy worker.token) world.trace = 0 := by
        refine rowcount_eq_zero.mpr fun event hevent hby => ?_
        cases event with
        | chatCalled recordId' caller =>
          cases hby
          exact h.not_armed hmem hevent harmed
        | _ => cases hby
      rw [hzero]
      simp [rowcount_cons, IsChatBy]
    · have hzero : rowcount (IsChatBy token) events = 0 := by
        refine rowcount_eq_zero.mpr fun event hevent hby => hcalls ?_
        cases event with
        | chatCalled recordId caller =>
          cases hby
          exact ⟨recordId, hevent⟩
        | _ => cases hby
      omega
  -- a failure is reported without a call, or because the call was rejected
  · intro worker' hworker' hreports
    change (∀ recordId, _ ∉ world.trace ++ events) ∨ Rejected (world.trace ++ events) _ _
    rcases updateWhere_cases hworker' with ⟨hother, hne⟩ | ⟨moved, hmoved, htoken, rfl⟩
    · rcases h.reports worker' hother hreports with hnone | hrejected
      · refine Or.inl fun recordId hcalled => ?_
        rcases List.mem_append.mp hcalled with hold | hadded
        · exact hnone recordId hold
        · exact hne (hmove.chatCalled hadded).2.1
      · exact Or.inr (hrejected.mono events)
    · obtain rfl := h.tokens.eq_of_key_eq hmoved hmem htoken
      rcases hmove.reportsFailed hreports with ⟨hsame, rfl⟩ | ⟨harmed, rfl⟩ |
        ⟨statusCode, hcode, rfl⟩
      · rw [List.append_nil]
        exact h.reports moved hmem (hsame ▸ hreports)
      · rw [List.append_nil]
        exact Or.inl fun recordId hcalled => h.not_armed hmem hcalled harmed
      · exact Or.inr ⟨statusCode, hcode, List.mem_append_right _ (List.mem_singleton_self _)⟩

lemma Traced.started (h : Traced world) (hfresh : ∀ worker ∈ world.workers, worker.token ≠ token)
    (tables : DispatchTables) : Traced (world.started tables recordId token) := by
  refine ⟨h.tokens.append hfresh, ?_, h.once, ?_⟩
  · intro id caller hcalled
    obtain ⟨worker, hworker, hworker'⟩ := h.disarmed id caller hcalled
    exact ⟨worker, List.mem_append_left _ hworker, hworker'⟩
  · intro worker hworker hreports
    rcases mem_concat.mp hworker with hold | rfl
    · exact h.reports worker hold hreports
    · exact absurd trivial hreports.not_armed

theorem Traced.step (h : Traced world) (action : Action) : Traced (world.step action) := by
  have hstep := world.step_move action
  generalize world.step action = world' at hstep ⊢
  cases hstep with
  | unchanged => exact h
  | store => exact ⟨h.tokens, h.disarmed, h.once, h.reports⟩
  | started hfresh => exact h.started hfresh _
  | worked hmem hmove =>
    have hworked := h.worked hmem hmove
    exact ⟨hworked.tokens, hworked.disarmed, hworked.once, hworked.reports⟩

lemma worldAfter_traced (threads : List AIThread) (actions : List Action) :
    Traced (worldAfter threads actions) := by
  refine run_invariant (fun world action h => h.step action) ?_ actions
  exact ⟨List.nodup_nil, (fun _ _ h => by cases h), fun _ => Nat.zero_le _, by rintro _ ⟨⟩⟩

end Trace

/-! ## After a claim -/

/-- The record is under the claim or out of reach of any claim. -/
def Spent (tables : DispatchTables) (recordId : ℕ) (token : String) : Prop :=
  ∃ record ∈ tables.records, record.id = recordId ∧ slack record.status = 1 ∧
    (record.status = .running → record.claimToken = some token)

/-- The claim has ended in a failure: its worker has not called, or its call was rejected. -/
def Harmless (world : World) (recordId : ℕ) (token : String) : Prop :=
  (∃ worker ∈ world.workers, worker.token = token ∧ ¬ worker.phase.Armed) ∧
    (.chatCalled recordId token ∈ world.trace → Rejected world.trace recordId token)

/-- No claim on the record has been granted since `start`. -/
def OnlyKnown (start world : World) (recordId : ℕ) : Prop :=
  ∀ worker ∈ world.workers, worker.recordId = recordId →
    ∃ earlier ∈ start.workers, earlier.token = worker.token

/-- What holds from the moment `start` in which the claim is held. -/
def Since (start world : World) (recordId : ℕ) (token : String) : Prop :=
  approvals start.tables recordId < approvals world.tables recordId ∨
  (approvals start.tables recordId = approvals world.tables recordId ∧
    Spent world.tables recordId token ∧ OnlyKnown start world recordId) ∨
  Harmless world recordId token

section Since

variable {start world : World} {tables : DispatchTables} {call : Call} {recordId : ℕ}
  {token : String}

lemma Holds.spent (h : Holds tables recordId token) : Spent tables recordId token := by
  obtain ⟨record, hmem, hid, hrunning, htoken⟩ := h
  refine ⟨record, hmem, hid, ?_, fun _ => htoken⟩
  rw [hrunning]
  rfl

/-- A spent record does not change hands. -/
lemma Move.keeps_claim {records : List HermesDispatchRecord} {record record' : HermesDispatchRecord}
    (h : Move records call record record') (hslack : slack record.status = 1)
    (hclaim : record.status = .running → record.claimToken = some token)
    (hrunning : record'.status = .running) : record'.claimToken = some token := by
  rcases h.running_cases hrunning with ⟨hrun, hkept⟩ | ⟨_, _, _, _, -, hguard, -⟩
  · rw [hkept]
    exact hclaim hrun
  · rw [hguard.2.1.slack_eq_zero] at hslack
    cases hslack

/-- A spent record stays so until a retry is approved or its holder reports a failure. -/
lemma Spent.step (h : Spent tables recordId token)
    (hids : UniqueKeys HermesDispatchRecord.id tables.records) (call : Call) :
    Spent (step tables call) recordId token ∨
    approvals tables recordId < approvals (step tables call) recordId ∨
    ∃ errorCode retryLimit dbNow, call = .markFailed recordId token errorCode retryLimit dbNow := by
  obtain ⟨record, hmem, rfl, hslack, hclaim⟩ := h
  obtain ⟨record', hmem', hmove⟩ := step_persists hmem call
  rcases hmove.slack_cases with hle | ⟨token', errorCode, retryLimit, dbNow, hcall, hrunning,
    htoken⟩ | ⟨hcall, huncertain, hstatus⟩
  · refine Or.inl ⟨record', hmem', hmove.identity.1, ?_, hmove.keeps_claim hslack hclaim⟩
    have hone := slack_le_one record'.status
    omega
  · rw [hclaim hrunning] at htoken
    cases htoken
    exact Or.inr (Or.inr ⟨errorCode, retryLimit, dbNow, hcall⟩)
  · exact Or.inr (Or.inl (approvals_lt_of_resolved hids hmem hmem' hmove.identity.1 hcall
      huncertain hstatus))

/-- A failure that left nothing executed stays one: its worker never calls again. -/
lemma Harmless.step (h : Harmless world recordId token) (htraced : Traced world)
    (action : Action) : Harmless (world.step action) recordId token := by
  obtain ⟨⟨owner, howner, rfl, hdisarmed⟩, hcalled⟩ := h
  have hstep := world.step_move action
  generalize world.step action = world' at hstep ⊢
  cases hstep with
  | unchanged | store => exact ⟨⟨owner, howner, rfl, hdisarmed⟩, hcalled⟩
  | started =>
    exact ⟨⟨owner, List.mem_append_left _ howner, rfl, hdisarmed⟩, hcalled⟩
  | @worked worker _ _ events hmem hmove =>
    constructor
    · by_cases hsame : owner.token = worker.token
      · obtain rfl := htraced.tokens.eq_of_key_eq howner hmem hsame
        exact ⟨_, mem_updateWhere_of_pos hmem rfl, rfl,
          fun harmed => hdisarmed (hmove.armed_of_armed harmed)⟩
      · exact ⟨owner, mem_updateWhere_of_not howner hsame, rfl, hdisarmed⟩
    · intro hcalled'
      rcases List.mem_append.mp hcalled' with hold | hadded
      · exact (hcalled hold).mono events
      · obtain ⟨-, htoken, harmed, -⟩ := hmove.chatCalled hadded
        obtain rfl := htraced.tokens.eq_of_key_eq howner hmem htoken
        exact absurd harmed hdisarmed

/-- A call that is no claim and reports no failure leaves a spent record spent or adds an
approval. -/
lemma Since.of_step_tables (happrovals : approvals start.tables recordId =
      approvals tables recordId) (hspent : Spent tables recordId token)
    (hids : UniqueKeys HermesDispatchRecord.id tables.records)
    (hknown : OnlyKnown start world recordId)
    (hfailed : ∀ errorCode retryLimit dbNow,
      call = .markFailed recordId token errorCode retryLimit dbNow → Harmless world recordId token)
    (htables : world.tables = step tables call) : Since start world recordId token := by
  have hle := approvals_le_step tables call recordId
  rcases hspent.step hids call with hspent' | hlt | ⟨errorCode, retryLimit, dbNow, hcall⟩
  · rw [← htables] at hle hspent'
    rcases hle.lt_or_eq with hlt | heq
    · exact Or.inl (happrovals ▸ hlt)
    · exact Or.inr (Or.inl ⟨happrovals.trans heq, hspent', hknown⟩)
  · rw [← htables] at hlt
    exact Or.inl (happrovals ▸ hlt)
  · exact Or.inr (Or.inr (hfailed errorCode retryLimit dbNow hcall))

lemma OnlyKnown.worked {worker : Worker} {phase : Phase} {events : List Event}
    (h : OnlyKnown start world recordId) (tables : DispatchTables) :
    OnlyKnown start { world.worked worker phase events with tables := tables } recordId := by
  intro worker' hworker' hid
  rcases updateWhere_cases hworker' with ⟨hother, -⟩ | ⟨moved, hmoved, -, rfl⟩
  · exact h worker' hother hid
  · exact h moved hmoved hid

/-- No action leaves the three cases. -/
lemma Since.step (h : Since start world recordId token) (hbudgeted : Budgeted world)
    (htraced : Traced world) (action : Action) :
    Since start (world.step action) recordId token := by
  rcases h with happroved | ⟨happrovals, hspent, hknown⟩ | hharmless
  · refine Or.inl (happroved.trans_le ?_)
    rcases (world.step_move action).tables_step with hsame | ⟨call, hstep, -⟩
    · rw [hsame]
    · rw [hstep]
      exact approvals_le_step _ _ _
  · have hstep := world.step_move action
    generalize world.step action = world' at hstep ⊢
    cases hstep with
    | unchanged => exact Or.inr (Or.inl ⟨happrovals, hspent, hknown⟩)
    | store hcall =>
      refine Since.of_step_tables happrovals hspent hbudgeted.ids hknown ?_ rfl
      rintro errorCode retryLimit dbNow rfl
      cases action <;> cases hcall
    | started hfresh hclaim =>
      refine Since.of_step_tables happrovals hspent hbudgeted.ids ?_ ?_
        (step_of_attempt_eq_some hclaim).symm
      · intro worker hworker hid
        rcases mem_concat.mp hworker with hold | rfl
        · exact hknown worker hold hid
        · -- a spent record cannot be claimed
          obtain ⟨record, hmem, hrecord, hslack, -⟩ := hspent
          obtain ⟨claimable, hclaimable, ⟨hid', hstatus, -⟩, -⟩ := claim_guard hclaim
          obtain rfl := hbudgeted.ids.eq_of_key_eq hmem hclaimable
            (hrecord.trans (hid.symm.trans hid'.symm))
          rw [hstatus.slack_eq_zero] at hslack
          cases hslack
      · intro errorCode retryLimit' dbNow hcall
        cases hcall
    | @worked worker _ _ _ hmem hmove =>
      rcases hmove.tables_cases with rfl | ⟨call, rfl, -, -, -, hreport⟩
      · exact Or.inr (Or.inl ⟨happrovals, hspent, hknown.worked _⟩)
      · refine Since.of_step_tables happrovals hspent hbudgeted.ids (hknown.worked _) ?_ rfl
        -- the holder reports: the trace says that it has not called or was rejected
        intro errorCode retryLimit dbNow hcall
        obtain ⟨rfl, rfl, hreports, rfl, rfl⟩ := hreport _ _ _ _ _ hcall
        refine ⟨⟨_, mem_updateWhere_of_pos hmem rfl, rfl, id⟩, ?_⟩
        change _ ∈ world.trace ++ [] → Rejected (world.trace ++ []) _ _
        rw [List.append_nil]
        intro hcalled
        exact (htraced.reports worker hmem hreports).resolve_left fun hnone => hnone _ hcalled
  · exact Or.inr (Or.inr (hharmless.step htraced action))

end Since

/-- From a moment in which a claim is held, the three cases hold for the rest of the run. -/
lemma worldAfter_since {threads : List AIThread} {pre : List Action} {recordId : ℕ}
    {token : String} (hheld : Holds (worldAfter threads pre).tables recordId token)
    (post : List Action) :
    Since (worldAfter threads pre) (worldAfter threads (pre ++ post)) recordId token := by
  induction post using List.reverseRecOn with
  | nil =>
    rw [List.append_nil]
    exact Or.inr (Or.inl ⟨rfl, hheld.spent, fun worker hworker _ => ⟨worker, hworker, rfl⟩⟩)
  | append_singleton post action ih =>
    have hlast : worldAfter threads (pre ++ (post ++ [action])) =
        (worldAfter threads (pre ++ post)).step action := by
      rw [← List.append_assoc]
      exact run_concat (pre ++ post) action
    rw [hlast]
    exact ih.step (worldAfter_budgeted _ _) (worldAfter_traced _ _) action

/-- Every call of `client.chat` is accounted for. In every run of any number of workers, scans,
heartbeats and operators, with crashes and stalls anywhere:

* a record is called at most once more often than its calls were rejected below 500 and its
  retries approved,
* a claim makes at most one call,
* from a moment in which a claim is held under which `client.chat` is called, a claim granted later
  makes a call only when the call under the first claim was rejected below 500, or when a retry has
  been approved since that moment. -/
theorem chat_calls_accounted (threads : List AIThread) (actions : List Action) :
    (∀ recordId, chatCalls (worldAfter threads actions) recordId ≤
      1 + rejections (worldAfter threads actions) recordId +
        approvals (worldAfter threads actions).tables recordId) ∧
    (∀ token, rowcount (IsChatBy token) (worldAfter threads actions).trace ≤ 1) ∧
    ∀ pre post recordId token token', actions = pre ++ post →
      Holds (worldAfter threads pre).tables recordId token →
      (∀ worker ∈ (worldAfter threads pre).workers, worker.token ≠ token') →
      .chatCalled recordId token ∈ (worldAfter threads actions).trace →
      .chatCalled recordId token' ∈ (worldAfter threads actions).trace →
      Rejected (worldAfter threads actions).trace recordId token ∨
        approvals (worldAfter threads pre).tables recordId <
          approvals (worldAfter threads actions).tables recordId := by
  have hbudgeted := worldAfter_budgeted threads actions
  have htraced := worldAfter_traced threads actions
  refine ⟨?_, htraced.once, ?_⟩
  · intro recordId
    by_cases hknown : ∃ record ∈ (worldAfter threads actions).tables.records, record.id = recordId
    · obtain ⟨record, hmem, rfl⟩ := hknown
      have hbounded := hbudgeted.bounded record hmem
      have hone := slack_le_one record.status
      simp only [load, budget] at hbounded
      omega
    · have hzero := hbudgeted.known recordId fun record hmem hid => hknown ⟨record, hmem, hid⟩
      simp only [load] at hzero
      omega
  · rintro pre post recordId token token' rfl hheld hlater hcalled hcalled'
    rcases worldAfter_since hheld post with happroved | ⟨-, -, hknown⟩ | ⟨-, hrejected⟩
    · exact Or.inr happroved
    · -- the later worker would have been known at that moment
      obtain ⟨worker, hworker, hid, htoken, -⟩ := htraced.disarmed recordId token' hcalled'
      obtain ⟨earlier, hearlier, hsame⟩ := hknown worker hworker hid
      exact absurd (hsame.trans htoken) (hlater earlier hearlier)
    · exact Or.inl (hrejected hcalled)

/-! ## A stalled worker -/

/-- A thread and what the checks read of it. -/
def stalledThread : AIThread :=
  ⟨"thread", "workspace", none, .privateThread, none, "key", .active, some "session"⟩

def stalledFacts : DispatchFacts where
  message := some ⟨7, "wechat", "account", "conversation", "private", none, "hello"⟩
  thread := some stalledThread
  workspace := some ⟨"workspace", "identity", .active⟩
  sourceBindingThreadId := some "thread"
  profile := none
  expectedThreadKey := ""
  contextAvailable := false
  availableTools := []

/-- Worker `a` stalls right before its call, its lease expires, and an operator approves a
retry. -/
def stalledRun : List Action :=
  [.enqueue (.allowedFor 7 "identity" "workspace" "thread") 1 0,
    .claim 1 "a" 10 3 0, .load "a", .enterHeartbeat "a" 10 1, .prepare "a" stalledFacts,
    .scan 20 3 20, .retryApproved ⟨1, "operator", "reference", "reason", 1⟩]

/-- Worker `b` calls Hermes and gets its answer. -/
def retriedRun : List Action :=
  [.claim 1 "b" 10 3 30, .load "b", .enterHeartbeat "b" 10 31, .prepare "b" stalledFacts,
    .chat "b", .answer "b" (.ok ⟨"answer", "session", none⟩)]

/-- Worker `a` wakes up and makes its call after the successful one, with no new approval. -/
theorem chat_call_after_success :
    .chatReturned 1 "b" ∈ (worldAfter [stalledThread] (stalledRun ++ retriedRun)).trace ∧
    (worldAfter [stalledThread] (stalledRun ++ retriedRun ++ [.chat "a"])).trace =
      (worldAfter [stalledThread] (stalledRun ++ retriedRun)).trace ++ [.chatCalled 1 "a"] ∧
    (worldAfter [stalledThread] (stalledRun ++ retriedRun ++ [.chat "a"])).tables.audits =
      (worldAfter [stalledThread] (stalledRun ++ retriedRun)).tables.audits := by
  decide +kernel

end AgentGateway.Dispatch
