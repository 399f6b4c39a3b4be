import AgentGateway.Delivery.Outbox
import AgentGateway.Response.Store
import AgentGateway.Lib.Run

/-!
# The delivery tables as a transition system

Any number of delivery workers and operators act on the same tables, together with the dispatch
workers that save responses. A run is the list of the committed calls in commit order; a call that
raises leaves the tables as they were.

`Write` says once what a call can do: it rewrites one delivery and its response, and touches
attempts and receipts of that delivery only. `step_cases` reduces every call to it.
-/

namespace AgentGateway.Delivery

open Lib Lib.Table Lib.Run Hermes Response

/-! ## Calls and steps -/

/-- A call on the delivery tables, with the clock readings and generated ids it uses.
`recoverClaim` is one round of the loop of `recover_stale_claims`, which commits on its own. -/
inductive Call
  | saveGenerated (outcome : HermesDispatchOutcome) (target : DeliveryTarget) (deliveryId : ℕ)
      (now : Timestamp)
  | claimNext (channel claimToken : String) (now : Timestamp)
  | recoverClaim (deliveryId : ℕ) (channel : String) (cutoff now : Timestamp)
  | startAttempt (deliveryId : ℕ) (claimToken : String) (partOrdinal attemptId : ℕ)
  | markPartDelivered (deliveryId : ℕ) (claimToken : String) (attemptId partOrdinal : ℕ)
      (receiptPayload : String) (providerMessageId : Option String) (now : Timestamp)
  | markAttemptRetryable (deliveryId : ℕ) (claimToken : String) (attemptId : ℕ)
      (errorCode : String) (availableAt now : Timestamp)
  | markAttemptFailed (deliveryId : ℕ) (claimToken : String) (attemptId : ℕ)
      (errorCode : String) (now : Timestamp)
  | markAttemptUncertain (deliveryId : ℕ) (claimToken : String) (attemptId : ℕ)
      (errorCode : String) (now : Timestamp)
  | retry (deliveryId : ℕ) (allowUncertain : Bool) (availableAt : Option Timestamp)
      (now : Timestamp)

/-- What a call raises. -/
inductive CallError
  | store (error : DeliveryStoreError)
  | response (error : ResponsePersistenceError)
  deriving DecidableEq, Repr

/-- The tables of an outbox call. -/
def stored {α : Type} (tables : α → DeliveryTables) (result : Except DeliveryStoreError α) :
    Except CallError DeliveryTables :=
  match result with
  | .ok value => .ok (tables value)
  | .error error => .error (.store error)

/-- The tables a call commits, or what it raises. -/
def attempt (digests : Digests) (tables : DeliveryTables) :
    Call → Except CallError DeliveryTables
  | .saveGenerated outcome target deliveryId now =>
    match saveGenerated digests outcome target deliveryId now tables with
    | .ok (saved, _, _) => .ok saved
    | .error error => .error (.response error)
  | .claimNext channel claimToken now => stored Prod.fst (claimNext channel claimToken now tables)
  | .recoverClaim deliveryId channel cutoff now =>
    stored id (recoverClaim deliveryId channel cutoff now tables)
  | .startAttempt deliveryId claimToken partOrdinal attemptId =>
    stored Prod.fst (startAttempt deliveryId claimToken partOrdinal attemptId tables)
  | .markPartDelivered deliveryId claimToken attemptId partOrdinal payload messageId now =>
    stored id (markPartDelivered deliveryId claimToken attemptId partOrdinal payload messageId now
      tables)
  | .markAttemptRetryable deliveryId claimToken attemptId errorCode availableAt now =>
    stored id (markAttemptRetryable deliveryId claimToken attemptId errorCode availableAt now
      tables)
  | .markAttemptFailed deliveryId claimToken attemptId errorCode now =>
    stored id (markAttemptFailed deliveryId claimToken attemptId errorCode now tables)
  | .markAttemptUncertain deliveryId claimToken attemptId errorCode now =>
    stored id (markAttemptUncertain deliveryId claimToken attemptId errorCode now tables)
  | .retry deliveryId allowUncertain availableAt now =>
    stored id (retry deliveryId allowUncertain availableAt now tables)

/-- The tables after a call: a call that raises has been rolled back. -/
def step (digests : Digests) (tables : DeliveryTables) (call : Call) : DeliveryTables :=
  match attempt digests tables call with
  | .ok committed => committed
  | .error _ => tables

/-- The tables before anything is delivered. -/
def initial : DeliveryTables := ⟨[], [], [], []⟩

/-- The tables after the calls of a run. -/
def tablesAfter (digests : Digests) (calls : List Call) : DeliveryTables :=
  run (step digests) initial calls

/-! ## Keys -/

/-- The keys and references the schema and the store keep. One delivery per response is not a
constraint of the schema: `save_generated` refuses a second target. -/
structure Keyed (tables : DeliveryTables) : Prop where
  deliveries : UniqueKeys DeliveryOutboxRecord.id tables.deliveries
  responses : UniqueKeys ResponseRecord.responseId tables.responses
  attempts : UniqueKeys DeliveryAttempt.id tables.attempts
  targets : UniqueKeys DeliveryOutboxRecord.responseId tables.deliveries
  response : References DeliveryOutboxRecord.responseId ResponseRecord.responseId
    tables.deliveries tables.responses
  delivery : References ResponseRecord.responseId DeliveryOutboxRecord.responseId
    tables.responses tables.deliveries
  attemptOf : References DeliveryAttempt.deliveryId DeliveryOutboxRecord.id
    tables.attempts tables.deliveries
  receiptOf : References DeliveryReceipt.deliveryId DeliveryOutboxRecord.id
    tables.receipts tables.deliveries

/-- The tables with one delivery and its response rewritten, and new attempts and receipts. -/
def DeliveryTables.commit (tables : DeliveryTables) (delivery : DeliveryOutboxRecord)
    (response : ResponseRecord) (attempts : List DeliveryAttempt)
    (receipts : List DeliveryReceipt) : DeliveryTables where
  responses := updateWhere (fun row : ResponseRecord => row.responseId = response.responseId)
    (fun _ => response) tables.responses
  deliveries := updateWhere (fun row : DeliveryOutboxRecord => row.id = delivery.id)
    (fun _ => delivery) tables.deliveries
  attempts := attempts
  receipts := receipts

/-- The delivery, the token, the attempt and the plan of a call that ends an attempt without a
receipt. -/
def Call.finish? : Call → Option (ℕ × String × ℕ × FinishPlan)
  | .markAttemptRetryable deliveryId claimToken attemptId _ availableAt _ =>
    some (deliveryId, claimToken, attemptId, ⟨.failed, .queued, none, some availableAt⟩)
  | .markAttemptFailed deliveryId claimToken attemptId _ _ =>
    some (deliveryId, claimToken, attemptId, ⟨.failed, .failed, some .failed, none⟩)
  | .markAttemptUncertain deliveryId claimToken attemptId _ _ =>
    some (deliveryId, claimToken, attemptId, ⟨.uncertain, .uncertain, some .uncertain, none⟩)
  | _ => none

/-- The response after an attempt has ended as planned. -/
def FinishPlan.response (plan : FinishPlan) (errorCode : String) (now : Timestamp)
    (response : ResponseRecord) : ResponseRecord :=
  match plan.responseStatus with
  | none => response
  | some status => response.finished status errorCode now

/-- What a call writes, given the delivery and its response: the two rows, the attempts and the
receipts. -/
inductive Write (tables : DeliveryTables) (call : Call) (delivery : DeliveryOutboxRecord)
    (response : ResponseRecord) :
    DeliveryOutboxRecord → ResponseRecord → List DeliveryAttempt → List DeliveryReceipt → Prop
  | claimed {channel claimToken now} (hcall : call = .claimNext channel claimToken now)
      (hstatus : delivery.status = .queued) :
      Write tables call delivery response (delivery.claimed (strip claimToken) now)
        (response.claimed now) tables.attempts tables.receipts
  | released {now partOrdinal} (hstatus : delivery.status = .delivering)
      (hidle : ∀ attempt ∈ tables.attempts,
        ¬ IsActive delivery.id delivery.nextPartOrdinal attempt) :
      Write tables call delivery response (delivery.reclaimed false now)
        (response.released partOrdinal) tables.attempts tables.receipts
  | expired {now active} (hstatus : delivery.status = .delivering)
      (hmem : active ∈ tables.attempts)
      (hactive : IsActive delivery.id delivery.nextPartOrdinal active) :
      Write tables call delivery response (delivery.reclaimed true now) (response.expired now)
        (updateWhere (fun row : DeliveryAttempt => row.id = active.id)
          (fun row => row.expired now) tables.attempts)
        tables.receipts
  | started {claimToken attemptId attemptNumber}
      (hcall : call = .startAttempt delivery.id claimToken delivery.nextPartOrdinal attemptId)
      (hstatus : delivery.status = .delivering)
      (hidle : ∀ attempt ∈ tables.attempts,
        ¬ IsActive delivery.id delivery.nextPartOrdinal attempt)
      (hfresh : ∀ attempt ∈ tables.attempts, attempt.id ≠ attemptId) :
      Write tables call delivery response delivery response
        (tables.attempts ++
          [newAttempt delivery delivery.nextPartOrdinal attemptNumber attemptId])
        tables.receipts
  | delivered {claimToken active payload messageId now}
      (hcall : call = .markPartDelivered delivery.id claimToken active.id
        delivery.nextPartOrdinal payload messageId now)
      (hstatus : delivery.status = .delivering) (hmem : active ∈ tables.attempts)
      (hactive : IsActive delivery.id delivery.nextPartOrdinal active) :
      Write tables call delivery response
        (delivery.advanced delivery.nextPartOrdinal
          (decide (delivery.nextPartOrdinal + 1 = response.partCount)) now)
        (if delivery.nextPartOrdinal + 1 = response.partCount then response.delivered now
          else response)
        (updateWhere (fun row : DeliveryAttempt => row.id = active.id)
          (fun row => row.delivered messageId payload now) tables.attempts)
        (tables.receipts ++
          [newReceipt delivery delivery.nextPartOrdinal active.id messageId payload now])
  | finished {claimToken active plan errorCode now}
      (hcall : call.finish? = some (delivery.id, claimToken, active.id, plan))
      (hstatus : delivery.status = .delivering) (hmem : active ∈ tables.attempts)
      (hactive : IsActive delivery.id delivery.nextPartOrdinal active) :
      Write tables call delivery response (delivery.finished plan errorCode now)
        (plan.response errorCode now response)
        (updateWhere (fun row : DeliveryAttempt => row.id = active.id)
          (fun row => row.finished plan errorCode now) tables.attempts)
        tables.receipts
  | retried {allowUncertain availableAt now}
      (hcall : call = .retry delivery.id allowUncertain availableAt now)
      (hstatus : delivery.status ∈ retryableStatuses allowUncertain) :
      Write tables call delivery response (delivery.requeued (availableAt.getD now))
        (response.reopened delivery.nextPartOrdinal) tables.attempts tables.receipts

/-- What a call does to the tables: nothing, one write, or a new response with its delivery. -/
inductive TablesStep (digests : Digests) (tables : DeliveryTables) (call : Call) :
    DeliveryTables → Prop
  | unchanged : TablesStep digests tables call tables
  | write {delivery response delivery' response' attempts receipts}
      (hdelivery : delivery ∈ tables.deliveries) (hresponse : response ∈ tables.responses)
      (hof : response.responseId = delivery.responseId)
      (hwrite : Write tables call delivery response delivery' response' attempts receipts) :
      TablesStep digests tables call (tables.commit delivery' response' attempts receipts)
  | saved {outcome target deliveryId now} {request : SaveRequest}
      (hcall : call = .saveGenerated outcome target deliveryId now)
      (hresponses : ∀ response ∈ tables.responses,
        response.responseId ≠ request.envelope.responseId)
      (hdeliveries : ∀ delivery ∈ tables.deliveries, delivery.id ≠ deliveryId) :
      TablesStep digests tables call { tables with
        responses := tables.responses ++ [request.newResponse now]
        deliveries := tables.deliveries ++
          [request.newDelivery deliveryId request.envelope.responseId now] }

section Write

variable {digests : Digests} {tables : DeliveryTables} {call : Call}
  {delivery delivery' : DeliveryOutboxRecord} {response response' : ResponseRecord}
  {attempts : List DeliveryAttempt} {receipts : List DeliveryReceipt}

/-- What a write keeps of the two rows. -/
lemma Write.identity (h : Write tables call delivery response delivery' response' attempts receipts) :
    delivery'.id = delivery.id ∧ delivery'.responseId = delivery.responseId ∧
      response'.responseId = response.responseId ∧ response'.partCount = response.partCount := by
  cases h with
  | delivered =>
    unfold DeliveryOutboxRecord.advanced
    split_ifs <;> exact ⟨rfl, rfl, rfl, rfl⟩
  | finished =>
    unfold FinishPlan.response
    split <;> exact ⟨rfl, rfl, rfl, rfl⟩
  | _ => exact ⟨rfl, rfl, rfl, rfl⟩

/-- A commit, read off the rows it rewrites. -/
lemma commit_eq (hdelivery : delivery'.id = delivery.id)
    (hresponse : response'.responseId = response.responseId)
    (attempts : List DeliveryAttempt) (receipts : List DeliveryReceipt) :
    tables.commit delivery' response' attempts receipts =
      ⟨updateWhere (fun row : ResponseRecord => row.responseId = response.responseId)
          (fun _ => response') tables.responses,
        updateWhere (fun row : DeliveryOutboxRecord => row.id = delivery.id) (fun _ => delivery')
          tables.deliveries,
        attempts, receipts⟩ := by
  rw [DeliveryTables.commit, hdelivery, hresponse]

/-- A write on the delivery and the response of a call is a step. -/
lemma Write.step (h : Write tables call delivery response delivery' response' attempts receipts)
    (hdelivery : delivery ∈ tables.deliveries) (hresponse : response ∈ tables.responses)
    (hof : response.responseId = delivery.responseId) :
    TablesStep digests tables call
      ⟨updateWhere (fun row : ResponseRecord => row.responseId = response.responseId)
          (fun _ => response') tables.responses,
        updateWhere (fun row : DeliveryOutboxRecord => row.id = delivery.id) (fun _ => delivery')
          tables.deliveries,
        attempts, receipts⟩ := by
  rw [← commit_eq h.identity.1 h.identity.2.2.1]
  exact .write hdelivery hresponse hof h

end Write

/-! ## Inversion of the calls -/

section Inversion

variable {tables tables' : DeliveryTables} {delivery : DeliveryOutboxRecord}
  {response : ResponseRecord} {deliveryId partOrdinal attemptId : ℕ}
  {claimToken expected : String} {now : Timestamp}

/-- The update of a delivery is decided by its row. -/
lemma updateDelivery_eq {deliveries : List DeliveryOutboxRecord}
    (hkeys : UniqueKeys DeliveryOutboxRecord.id deliveries) (hmem : delivery ∈ deliveries)
    {guard : DeliveryOutboxRecord → Prop} [DecidablePred guard]
    {values : DeliveryOutboxRecord → DeliveryOutboxRecord} :
    updateDelivery delivery.id expected guard values deliveries =
      if guard delivery then .ok (updateWhere (fun row : DeliveryOutboxRecord =>
        row.id = delivery.id) (fun _ => values delivery) deliveries)
      else .error (.stateConflict delivery.id expected) := by
  rw [updateDelivery, hkeys.guardedUpdate_eq hmem, ← hkeys.updateWhere_const hmem]
  split_ifs <;> rfl

variable {responses : List ResponseRecord} {active started : DeliveryAttempt}
  {channel errorCode token : String} {digests : Digests} {plan : FinishPlan} {cutoff : Timestamp}
  {claimed : Option ℕ} {statuses : List ResponseStatus} {values : ResponseRecord → ResponseRecord}

/-- The update of a response is decided by its row. -/
lemma updateResponse_eq (hkeys : UniqueKeys ResponseRecord.responseId responses)
    (hmem : response ∈ responses) {expected : ResponseStatus} :
    updateResponse deliveryId expected response.responseId statuses values responses =
      if response.status ∈ statuses then .ok (updateWhere (fun row : ResponseRecord =>
        row.responseId = response.responseId) (fun _ => values response) responses)
      else .error (.responseConflict deliveryId expected.value) := by
  rw [updateResponse, hkeys.guardedUpdate_eq hmem, ← hkeys.updateWhere_const hmem]
  split_ifs <;> rfl

/-- What the update of the response of a delivery has done. -/
lemma updateResponse_eq_ok (hkeys : Keyed tables) (hmem : delivery ∈ tables.deliveries)
    {expected : ResponseStatus}
    (h : updateResponse deliveryId expected delivery.responseId statuses values
      tables.responses = .ok responses) :
    ∃ response ∈ tables.responses, response.responseId = delivery.responseId ∧
      responses = updateWhere (fun row : ResponseRecord => row.responseId = response.responseId)
        (fun _ => values response) tables.responses := by
  obtain ⟨response, hresponse, hof⟩ := hkeys.response delivery hmem
  rw [← hof, updateResponse_eq hkeys.responses hresponse] at h
  split_ifs at h with hstatus
  exact ⟨response, hresponse, hof, (Except.ok.inj h).symm⟩

lemma get_eq_some (h : get deliveryId tables = some delivery) :
    delivery ∈ tables.deliveries ∧ delivery.id = deliveryId :=
  ⟨List.mem_of_find?_eq_some h, by simpa using List.find?_some h⟩

lemma requiredDelivery_eq_ok (h : requiredDelivery deliveryId tables = .ok delivery) :
    delivery ∈ tables.deliveries ∧ delivery.id = deliveryId := by
  unfold requiredDelivery at h
  split at h
  · cases h
  · rename_i found hget
    cases h
    exact get_eq_some hget

lemma requiredString_eq_ok {value fieldName result : String} {maxLength : ℕ}
    (h : requiredString value fieldName maxLength = .ok result) : result = strip value := by
  simp only [requiredString, bind_eq_ok, raiseIf_eq_ok] at h
  obtain ⟨-, -, -, -, h⟩ := h
  exact (Except.ok.inj h).symm

lemma claimedDelivery_eq_ok (h : claimedDelivery deliveryId claimToken tables = .ok delivery) :
    delivery ∈ tables.deliveries ∧ delivery.id = deliveryId ∧ delivery.status = .delivering ∧
      delivery.claimToken = some (strip claimToken) := by
  simp only [claimedDelivery, bind_eq_ok, raiseIf_eq_ok] at h
  obtain ⟨token, htoken, found, hfound, -, hclaimed, h⟩ := h
  obtain rfl := requiredString_eq_ok htoken
  cases h
  obtain ⟨hmem, hid⟩ := requiredDelivery_eq_ok hfound
  rw [not_or, not_not, not_not] at hclaimed
  exact ⟨hmem, hid, hclaimed⟩

lemma claimedPart_eq_ok (h : claimedPart deliveryId claimToken partOrdinal tables = .ok delivery) :
    delivery ∈ tables.deliveries ∧ delivery.id = deliveryId ∧ delivery.status = .delivering ∧
      delivery.claimToken = some (strip claimToken) ∧ delivery.nextPartOrdinal = partOrdinal := by
  simp only [claimedPart, bind_eq_ok, raiseIf_eq_ok] at h
  obtain ⟨found, hfound, -, hpart, h⟩ := h
  cases h
  obtain ⟨hmem, hid, hstatus, htoken⟩ := claimedDelivery_eq_ok hfound
  exact ⟨hmem, hid, hstatus, htoken, (not_not.mp hpart).symm⟩

lemma activeAttempt_eq_some (h : activeAttempt deliveryId partOrdinal tables = some active) :
    active ∈ tables.attempts ∧ IsActive deliveryId partOrdinal active := by
  have hmem := List.mem_of_mem_head? h
  rw [List.mem_insertionSort, List.mem_filter] at hmem
  exact ⟨hmem.1, of_decide_eq_true hmem.2⟩

lemma activeAttempt_eq_none :
    activeAttempt deliveryId partOrdinal tables = none ↔
      ∀ attempt ∈ tables.attempts, ¬ IsActive deliveryId partOrdinal attempt := by
  rw [activeAttempt, List.head?_eq_none_iff, ← List.length_eq_zero_iff,
    List.length_insertionSort, List.length_eq_zero_iff, List.filter_eq_nil_iff]
  simp only [decide_eq_true_eq]

lemma requiredAttempt_eq_ok
    (h : requiredAttempt attemptId deliveryId partOrdinal tables = .ok active) :
    active ∈ tables.attempts ∧ active.id = attemptId ∧ active.deliveryId = deliveryId ∧
      active.partOrdinal = partOrdinal := by
  unfold requiredAttempt at h
  split at h
  · cases h
  · rename_i found hfind
    simp only [bind_eq_ok, raiseIf_eq_ok] at h
    obtain ⟨-, hmatch, h⟩ := h
    cases h
    rw [not_or, not_not, not_not] at hmatch
    exact ⟨List.mem_of_find?_eq_some hfind, by simpa using List.find?_some hfind, hmatch⟩

/-- What a claim of `claim_next` has done. -/
lemma claimDelivery_eq_ok (hkeys : Keyed tables)
    (h : claimDelivery deliveryId channel token now tables = .ok (some tables')) :
    ∃ delivery ∈ tables.deliveries, ∃ response ∈ tables.responses,
      response.responseId = delivery.responseId ∧ delivery.id = deliveryId ∧
      ClaimableAt channel now delivery ∧
      tables' = tables.commit (delivery.claimed token now) (response.claimed now) tables.attempts
        tables.receipts := by
  unfold claimDelivery at h
  split at h
  · cases h
  · rename_i deliveries hupdate
    obtain ⟨-, delivery, hmem, rfl, hclaimable⟩ := guardedUpdate_eq_some hupdate
    rw [hkeys.deliveries.guardedUpdate_eq hmem, if_pos hclaimable,
      hkeys.deliveries.updateWhere_const hmem] at hupdate
    obtain rfl := Option.some.inj hupdate
    have hid : (delivery.claimed token now).id = delivery.id := rfl
    rw [hkeys.deliveries.find?_replace hmem hid] at h
    simp only [bind_eq_ok] at h
    obtain ⟨responses, hresponses, h⟩ := h
    obtain ⟨response, hresponse, hof, rfl⟩ := updateResponse_eq_ok hkeys hmem hresponses
    cases h
    exact ⟨delivery, hmem, response, hresponse, hof, rfl, hclaimable, rfl⟩

lemma claimTries_eq_ok {tries : ℕ}
    (h : claimTries channel token now tries tables = .ok (tables', claimed)) :
    tables' = tables ∧ claimed = none ∨
      ∃ deliveryId, claimed = some deliveryId ∧
        claimDelivery deliveryId channel token now tables = .ok (some tables') := by
  induction tries with
  | zero =>
    cases h
    exact Or.inl ⟨rfl, rfl⟩
  | succ tries ih =>
    unfold claimTries at h
    split at h
    · cases h
      exact Or.inl ⟨rfl, rfl⟩
    · split at h
      · cases h
      · rename_i deliveryId _ _ claimedTables hclaim
        cases h
        exact Or.inr ⟨deliveryId, rfl, hclaim⟩
      · exact ih h

/-- The transaction of `recover_stale_claims` is one write. -/
lemma reclaimDelivery_step (hkeys : Keyed tables) (hmem : delivery ∈ tables.deliveries)
    (hstatus : delivery.status = .delivering)
    (h : reclaimDelivery delivery (activeAttempt delivery.id delivery.nextPartOrdinal tables)
      channel token cutoff now tables = .ok (some tables')) :
    TablesStep digests tables (.recoverClaim delivery.id channel cutoff now) tables' := by
  unfold reclaimDelivery at h
  rw [hkeys.deliveries.guardedUpdate_eq hmem, hkeys.deliveries.updateWhere_const hmem] at h
  split_ifs at h
  · dsimp only at h
    split at h
    · -- an attempt is on its way
      rename_i active hfound
      obtain ⟨hattempt, hactive⟩ := activeAttempt_eq_some hfound
      rw [hkeys.attempts.guardedUpdate_eq hattempt, if_pos hactive.2.2] at h
      simp only [bind_eq_ok] at h
      obtain ⟨responses, hresponses, h⟩ := h
      obtain ⟨response, hresponse, hof, rfl⟩ := updateResponse_eq_ok hkeys hmem hresponses
      cases h
      rw [hfound]
      exact (Write.expired hstatus hattempt hactive).step hmem hresponse hof
    · rename_i hfound
      simp only [bind_eq_ok] at h
      obtain ⟨responses, hresponses, h⟩ := h
      obtain ⟨response, hresponse, hof, rfl⟩ := updateResponse_eq_ok hkeys hmem hresponses
      cases h
      rw [hfound]
      exact (Write.released hstatus (activeAttempt_eq_none.mp hfound)).step hmem hresponse hof
  · cases h

/-- One round of `recover_stale_claims` is one write or nothing. -/
lemma recoverClaim_step (hkeys : Keyed tables)
    (h : recoverClaim deliveryId channel cutoff now tables = .ok tables') :
    TablesStep digests tables (.recoverClaim deliveryId channel cutoff now) tables' := by
  unfold recoverClaim at h
  split at h
  · cases h
    exact .unchanged
  · rename_i delivery hget
    obtain ⟨hmem, rfl⟩ := get_eq_some hget
    split at h
    · rename_i token hstatus htoken
      simp only [bind_eq_ok] at h
      obtain ⟨reclaimed, hreclaimed, h⟩ := h
      cases h
      cases reclaimed with
      | none => exact .unchanged
      | some tables' => exact reclaimDelivery_step hkeys hmem hstatus hreclaimed
    · cases h
      exact .unchanged

/-- `start_attempt` inserts an attempt or finds one that is on its way. -/
lemma startAttempt_eq_ok
    (h : startAttempt deliveryId claimToken partOrdinal attemptId tables = .ok (tables', started)) :
    ∃ delivery ∈ tables.deliveries, delivery.id = deliveryId ∧
      delivery.status = .delivering ∧ delivery.claimToken = some (strip claimToken) ∧
      delivery.nextPartOrdinal = partOrdinal ∧
      (tables' = tables ∧ started ∈ tables.attempts ∧ IsActive deliveryId partOrdinal started ∨
        (∀ attempt ∈ tables.attempts, ¬ IsActive deliveryId partOrdinal attempt) ∧
        (∀ attempt ∈ tables.attempts, attempt.id ≠ attemptId) ∧
        started = newAttempt delivery partOrdinal
          (nextAttemptNumber deliveryId partOrdinal tables) attemptId ∧
        tables' = { tables with attempts := tables.attempts ++ [started] }) := by
  simp only [startAttempt, bind_eq_ok] at h
  obtain ⟨delivery, hdelivery, h⟩ := h
  obtain ⟨hmem, hid, hstatus, htoken, hpart⟩ := claimedPart_eq_ok hdelivery
  refine ⟨delivery, hmem, hid, hstatus, htoken, hpart, ?_⟩
  split at h
  · rename_i existing hexisting
    cases h
    exact Or.inl ⟨rfl, activeAttempt_eq_some hexisting⟩
  · rename_i hnone
    have hidle := activeAttempt_eq_none.mp hnone
    unfold insertAttempt at h
    split_ifs at h with hclash
    · have hnone' : activeAttempt delivery.id partOrdinal tables = none := hid ▸ hnone
      simp only [newAttempt, hnone'] at h
      cases h
    · cases h
      refine Or.inr ⟨hidle, ?_, rfl, rfl⟩
      intro attempt hattempt heq
      exact hclash ⟨attempt, hattempt, Or.inl heq⟩

section Keyed

variable (hkeys : Keyed tables)

include hkeys

/-- A commit that rewrites the two rows by themselves. -/
lemma commit_self (hdelivery : delivery ∈ tables.deliveries)
    (hresponse : response ∈ tables.responses) (attempts : List DeliveryAttempt)
    (receipts : List DeliveryReceipt) :
    tables.commit delivery response attempts receipts =
      { tables with attempts := attempts, receipts := receipts } := by
  unfold DeliveryTables.commit
  rw [hkeys.deliveries.updateWhere_self hdelivery, hkeys.responses.updateWhere_self hresponse]

lemma startAttempt_step
    (h : startAttempt deliveryId claimToken partOrdinal attemptId tables = .ok (tables', started)) :
    TablesStep digests tables (.startAttempt deliveryId claimToken partOrdinal attemptId)
      tables' := by
  obtain ⟨delivery, hmem, rfl, hstatus, htoken, rfl, ⟨rfl, -⟩ | ⟨hidle, hfresh, rfl, rfl⟩⟩ :=
    startAttempt_eq_ok h
  · exact .unchanged
  · obtain ⟨response, hresponse, hof⟩ := hkeys.response delivery hmem
    rw [← commit_self hkeys hmem hresponse]
    exact .write hmem hresponse hof (.started rfl hstatus hidle hfresh)

lemma deliverResponse_eq_ok (hresponse : response ∈ tables.responses)
    (hof : response.responseId = delivery.responseId) {finalPart : Bool}
    (h : deliverResponse delivery finalPart now tables.responses = .ok responses) :
    responses = updateWhere (fun row : ResponseRecord => row.responseId = response.responseId)
      (fun _ => if finalPart then response.delivered now else response) tables.responses := by
  unfold deliverResponse at h
  split_ifs at h with hfinal
  · rw [← hof, updateResponse_eq hkeys.responses hresponse] at h
    split_ifs at h with hstatus
    cases h
    simp only [hfinal, if_true]
  · cases h
    simp only [hfinal, Bool.false_eq_true, if_false]
    rw [hkeys.responses.updateWhere_self hresponse]

/-- `mark_part_delivered` is one write. -/
lemma markPartDelivered_step {payload : String} {messageId : Option String}
    (h : markPartDelivered deliveryId claimToken attemptId partOrdinal payload messageId now
      tables = .ok tables') :
    TablesStep digests tables (.markPartDelivered deliveryId claimToken attemptId partOrdinal
      payload messageId now) tables' := by
  simp only [markPartDelivered, bind_eq_ok, raiseIf_eq_ok] at h
  obtain ⟨delivery, hdelivery, active, hactive, -, hdelivering, -, -, h⟩ := h
  obtain ⟨hmem, rfl, hstatus, -, rfl⟩ := claimedPart_eq_ok hdelivery
  obtain ⟨hattempt, rfl, hactiveOf, hactivePart⟩ := requiredAttempt_eq_ok hactive
  obtain ⟨response, hresponse, hof⟩ := hkeys.response delivery hmem
  rw [← hof, hkeys.responses.find?_eq hresponse] at h
  simp only [bind_eq_ok, raiseIf_eq_ok, updateDelivery_eq hkeys.deliveries hmem] at h
  obtain ⟨deliveries, hdeliveries, responses, hresponses, -, -, h⟩ := h
  split_ifs at hdeliveries with hguard
  cases hdeliveries
  obtain rfl := deliverResponse_eq_ok hkeys hresponse hof hresponses
  cases h
  simp only [decide_eq_true_eq]
  exact (Write.delivered rfl hstatus hattempt
    ⟨hactiveOf, hactivePart, not_not.mp hdelivering⟩).step hmem hresponse hof

lemma finishResponse_eq_ok (hresponse : response ∈ tables.responses)
    (hof : response.responseId = delivery.responseId)
    (h : finishResponse delivery plan errorCode now tables.responses = .ok responses) :
    responses = updateWhere (fun row : ResponseRecord => row.responseId = response.responseId)
      (fun _ => plan.response errorCode now response) tables.responses := by
  cases hplan : plan.responseStatus with
  | none =>
    simp only [finishResponse, hplan] at h
    simp only [FinishPlan.response, hplan]
    cases h
    rw [hkeys.responses.updateWhere_self hresponse]
  | some status =>
    simp only [finishResponse, hplan] at h
    simp only [FinishPlan.response, hplan]
    rw [← hof, updateResponse_eq hkeys.responses hresponse] at h
    split_ifs at h with hstatus
    exact (Except.ok.inj h).symm

/-- Ending an attempt without a receipt is one write. -/
lemma finishAttempt_step {call : Call}
    (hcall : call.finish? = some (deliveryId, claimToken, attemptId, plan))
    (h : finishAttempt deliveryId claimToken attemptId plan errorCode now tables = .ok tables') :
    TablesStep digests tables call tables' := by
  simp only [finishAttempt, bind_eq_ok, raiseIf_eq_ok] at h
  obtain ⟨delivery, hdelivery, active, hactive, -, hdelivering, code, -, deliveries, hdeliveries,
    responses, hresponses, h⟩ := h
  obtain ⟨hmem, rfl, hstatus, -⟩ := claimedDelivery_eq_ok hdelivery
  obtain ⟨hattempt, rfl, hactiveOf, hactivePart⟩ := requiredAttempt_eq_ok hactive
  obtain ⟨response, hresponse, hof⟩ := hkeys.response delivery hmem
  rw [updateDelivery_eq hkeys.deliveries hmem] at hdeliveries
  split_ifs at hdeliveries with hguard
  cases hdeliveries
  obtain rfl := finishResponse_eq_ok hkeys hresponse hof hresponses
  cases h
  exact (Write.finished hcall hstatus hattempt
    ⟨hactiveOf, hactivePart, not_not.mp hdelivering⟩).step hmem hresponse hof

/-- `retry` is one write. -/
lemma retry_step {allowUncertain : Bool} {availableAt : Option Timestamp}
    (h : retry deliveryId allowUncertain availableAt now tables = .ok tables') :
    TablesStep digests tables (.retry deliveryId allowUncertain availableAt now) tables' := by
  simp only [retry, bind_eq_ok, raiseIf_eq_ok] at h
  obtain ⟨delivery, hdelivery, -, hstatus, deliveries, hdeliveries, responses, hresponses, h⟩ := h
  obtain ⟨hmem, rfl⟩ := requiredDelivery_eq_ok hdelivery
  rw [updateDelivery_eq hkeys.deliveries hmem, if_pos rfl] at hdeliveries
  cases hdeliveries
  obtain ⟨response, hresponse, hof, rfl⟩ := updateResponse_eq_ok hkeys hmem hresponses
  cases h
  exact (Write.retried rfl (not_not.mp hstatus)).step hmem hresponse hof

lemma claimNext_step (h : claimNext channel claimToken now tables = .ok (tables', claimed)) :
    TablesStep digests tables (.claimNext channel claimToken now) tables' := by
  simp only [claimNext, bind_eq_ok] at h
  obtain ⟨channel', -, token, htoken, h⟩ := h
  obtain rfl := requiredString_eq_ok htoken
  rcases claimTries_eq_ok h with ⟨rfl, -⟩ | ⟨deliveryId, -, hclaim⟩
  · exact .unchanged
  · obtain ⟨delivery, hmem, response, hresponse, hof, -, hclaimable, rfl⟩ :=
      claimDelivery_eq_ok hkeys hclaim
    exact .write hmem hresponse hof (.claimed rfl hclaimable.1)

/-- `save_generated` adds a response with its delivery, or finds them. -/
lemma saveGenerated_step {outcome : HermesDispatchOutcome} {target : DeliveryTarget}
    {found : DeliveryOutboxRecord} {created : Bool}
    (h : saveGenerated digests outcome target deliveryId now tables = .ok (tables', found, created)) :
    TablesStep digests tables (.saveGenerated outcome target deliveryId now) tables' := by
  simp only [saveGenerated, bind_eq_ok] at h
  obtain ⟨request, hrequest, h⟩ := h
  unfold saveRequested at h
  split at h
  · rename_i existing hexisting
    simp only [saveExisting, bind_eq_ok] at h
    obtain ⟨-, -, h⟩ := h
    split at h
    · -- a stored response has a delivery, so none is missing
      obtain ⟨delivery, hmem, hof⟩ := hkeys.delivery existing (List.mem_of_find?_eq_some hexisting)
      unfold createMissingDelivery at h
      split at h
      · simp only [bind_eq_ok] at h
        obtain ⟨-, -, h⟩ := h
        cases h
        exact .unchanged
      · rename_i hmissing
        exact absurd (decide_eq_true hof) (List.find?_eq_none.mp hmissing delivery hmem)
    · simp only [bind_eq_ok] at h
      obtain ⟨-, -, h⟩ := h
      cases h
      exact .unchanged
  · simp only [saveNew, bind_eq_ok, raiseIf_eq_ok, not_or] at h
    obtain ⟨-, ⟨hresponses, hdeliveries⟩, h⟩ := h
    cases h
    refine .saved rfl ?_ ?_
    · intro response hmem hid
      exact hresponses ⟨response, hmem, Or.inl hid⟩
    · intro delivery hmem hid
      exact hdeliveries ⟨delivery, hmem, Or.inl hid⟩

end Keyed

end Inversion

/-! ## One step -/

section Step

variable {digests : Digests} {tables tables' : DeliveryTables} {call : Call}

lemma stored_eq_ok {α : Type} {f : α → DeliveryTables} {result : Except DeliveryStoreError α}
    (h : stored f result = .ok tables) : ∃ value, result = .ok value ∧ f value = tables := by
  unfold stored at h
  split at h
  · exact ⟨_, rfl, Except.ok.inj h⟩
  · cases h

/-- What a committed call has done. -/
theorem attempt_cases (hkeys : Keyed tables) (h : attempt digests tables call = .ok tables') :
    TablesStep digests tables call tables' := by
  cases call with
  | saveGenerated outcome target deliveryId now =>
    unfold attempt at h
    dsimp only at h
    split at h
    · rename_i saved found created hsaved
      cases h
      exact saveGenerated_step hkeys hsaved
    · cases h
  | claimNext channel claimToken now =>
    obtain ⟨⟨claimed, deliveryId⟩, hclaim, rfl⟩ := stored_eq_ok h
    exact claimNext_step hkeys hclaim
  | recoverClaim deliveryId channel cutoff now =>
    obtain ⟨recovered, hrecover, rfl⟩ := stored_eq_ok h
    exact recoverClaim_step hkeys hrecover
  | startAttempt deliveryId claimToken partOrdinal attemptId =>
    obtain ⟨⟨started, attempt⟩, hstart, rfl⟩ := stored_eq_ok h
    exact startAttempt_step hkeys hstart
  | markPartDelivered deliveryId claimToken attemptId partOrdinal payload messageId now =>
    obtain ⟨marked, hmark, rfl⟩ := stored_eq_ok h
    exact markPartDelivered_step hkeys hmark
  | markAttemptRetryable | markAttemptFailed | markAttemptUncertain =>
    obtain ⟨marked, hmark, rfl⟩ := stored_eq_ok h
    exact finishAttempt_step hkeys rfl hmark
  | retry deliveryId allowUncertain availableAt now =>
    obtain ⟨retried, hretry, rfl⟩ := stored_eq_ok h
    exact retry_step hkeys hretry

/-- What a step does. -/
theorem step_cases (hkeys : Keyed tables) :
    TablesStep digests tables call (step digests tables call) := by
  unfold step
  split
  · rename_i committed hattempt
    exact attempt_cases hkeys hattempt
  · exact .unchanged

variable {attempts : List DeliveryAttempt} {delivery delivery' : DeliveryOutboxRecord}
  {receipts : List DeliveryReceipt} {response response' : ResponseRecord} {other : ℕ}

/-- An update of attempts that keeps what they are for. -/
def KeepsIdentity (f : DeliveryAttempt → DeliveryAttempt) : Prop :=
  ∀ row, (f row).id = row.id ∧ (f row).deliveryId = row.deliveryId ∧
    (f row).partOrdinal = row.partOrdinal

/-- A write leaves the attempts alone, adds one, or rewrites the one on its way. -/
lemma Write.attempts_cases
    (h : Write tables call delivery response delivery' response' attempts receipts) :
    attempts = tables.attempts ∨
    (∃ attemptNumber attemptId, (∀ attempt ∈ tables.attempts, attempt.id ≠ attemptId) ∧
      attempts = tables.attempts ++
        [newAttempt delivery delivery.nextPartOrdinal attemptNumber attemptId]) ∨
    ∃ active ∈ tables.attempts, IsActive delivery.id delivery.nextPartOrdinal active ∧
      ∃ f, attempts = updateWhere (fun row : DeliveryAttempt => row.id = active.id) f
        tables.attempts ∧ KeepsIdentity f := by
  cases h with
  | started hcall hstatus hidle hfresh => exact Or.inr (Or.inl ⟨_, _, hfresh, rfl⟩)
  | expired hstatus hmem hactive | delivered hcall hstatus hmem hactive
  | finished hcall hstatus hmem hactive =>
    exact Or.inr (Or.inr ⟨_, hmem, hactive, _, rfl, fun _ => ⟨rfl, rfl, rfl⟩⟩)
  | _ => exact Or.inl rfl

/-- A write adds at most one receipt, for the delivery it is about. -/
lemma Write.receipts_cases
    (h : Write tables call delivery response delivery' response' attempts receipts) :
    receipts = tables.receipts ∨
    ∃ receipt : DeliveryReceipt, receipt.deliveryId = delivery.id ∧
      receipts = tables.receipts ++ [receipt] := by
  cases h with
  | delivered => exact Or.inr ⟨_, rfl, rfl⟩
  | _ => exact Or.inl rfl

/-- A write does not touch the attempts of another delivery. -/
lemma Write.attempts_frame (hkeys : Keyed tables)
    (h : Write tables call delivery response delivery' response' attempts receipts)
    (hother : other ≠ delivery.id) :
    (attempts.filter fun attempt => attempt.deliveryId = other) = tables.attemptsOf other := by
  rcases h.attempts_cases with rfl | ⟨attemptNumber, attemptId, -, rfl⟩ |
    ⟨active, hmem, hactive, f, rfl, hf⟩
  · rfl
  · rw [List.filter_append, List.filter_cons_of_neg, List.filter_nil, List.append_nil]
    · rfl
    · rw [decide_eq_true_eq]
      exact hother.symm
  · rw [filter_updateWhere fun row => by rw [(hf row).2.1]]
    refine updateWhere_eq_self fun row hrow hid => hother ?_
    rw [List.mem_filter] at hrow
    have hsame := hkeys.attempts.eq_of_key_eq hrow.1 hmem hid
    rw [← of_decide_eq_true hrow.2, hsame, hactive.1]

/-- A write does not touch the receipts of another delivery. -/
lemma Write.receipts_frame
    (h : Write tables call delivery response delivery' response' attempts receipts)
    (hother : other ≠ delivery.id) :
    (receipts.filter fun receipt => receipt.deliveryId = other) = tables.receiptsOf other := by
  rcases h.receipts_cases with rfl | ⟨receipt, hreceipt, rfl⟩
  · rfl
  · rw [List.filter_append, List.filter_cons_of_neg, List.filter_nil, List.append_nil]
    · rfl
    · rw [decide_eq_true_eq, hreceipt]
      exact hother.symm

/-- A write keeps the keys. -/
lemma Keyed.commit (h : Keyed tables) (hdelivery : delivery ∈ tables.deliveries)
    (hresponse : response ∈ tables.responses)
    (hwrite : Write tables call delivery response delivery' response' attempts receipts) :
    Keyed (tables.commit delivery' response' attempts receipts) := by
  obtain ⟨hid, hresponseOf, hresponseId, -⟩ := hwrite.identity
  rw [commit_eq hid hresponseId]
  -- the two rewritten tables keep the columns the foreign keys are about
  have hids := h.deliveries.map_replace hdelivery hid
  have hdeliveryOf := h.deliveries.map_replace hdelivery hresponseOf
  have hresponseIds := h.responses.map_replace hresponse hresponseId
  refine ⟨h.deliveries.replace hdelivery hid, h.responses.replace hresponse hresponseId, ?_, ?_,
    h.response.congr hdeliveryOf hresponseIds, h.delivery.congr hresponseIds hdeliveryOf, ?_, ?_⟩
  · rcases hwrite.attempts_cases with rfl | ⟨attemptNumber, attemptId, hfresh, rfl⟩ |
      ⟨active, hmem, hactive, f, rfl, hf⟩
    · exact h.attempts
    · exact h.attempts.append hfresh
    · exact h.attempts.updateWhere fun row => (hf row).1
  · unfold UniqueKeys
    rw [hdeliveryOf]
    exact h.targets
  · refine References.congr ?_ rfl hids
    rcases hwrite.attempts_cases with rfl | ⟨attemptNumber, attemptId, -, rfl⟩ |
      ⟨active, hmem, hactive, f, rfl, hf⟩
    · exact h.attemptOf
    · exact h.attemptOf.concat hdelivery rfl
    · exact h.attemptOf.congr (map_key_updateWhere fun row => (hf row).2.1) rfl
  · refine References.congr ?_ rfl hids
    rcases hwrite.receipts_cases with rfl | ⟨receipt, hreceipt, rfl⟩
    · exact h.receiptOf
    · exact h.receiptOf.concat hdelivery hreceipt.symm

/-- Every step keeps the keys. -/
lemma TablesStep.keyed (h : Keyed tables) (hstep : TablesStep digests tables call tables') :
    Keyed tables' := by
  cases hstep with
  | unchanged => exact h
  | write hdelivery hresponse hof hwrite => exact h.commit hdelivery hresponse hwrite
  | saved hcall hresponses hdeliveries =>
    refine ⟨h.deliveries.append hdeliveries, h.responses.append hresponses, h.attempts,
      h.targets.append ?_, ?_, ?_, h.attemptOf.grow _, h.receiptOf.grow _⟩
    · -- a delivery of the new response would refer to a stored one
      intro row hrow hof
      obtain ⟨found, hfound, hfoundOf⟩ := h.response row hrow
      exact hresponses found hfound (hfoundOf.trans hof)
    · exact (h.response.grow _).concat (List.mem_append_right _ (List.mem_singleton_self _)) rfl
    · exact (h.delivery.grow _).concat (List.mem_append_right _ (List.mem_singleton_self _)) rfl

lemma initial_keyed : Keyed initial := by
  refine ⟨List.nodup_nil, List.nodup_nil, List.nodup_nil, List.nodup_nil, ?_, ?_, ?_, ?_⟩ <;>
    rintro _ ⟨⟩

/-- The keys hold after every run. -/
theorem tablesAfter_keyed (digests : Digests) (calls : List Call) :
    Keyed (tablesAfter digests calls) := by
  refine run_invariant (fun tables call h => ?_) initial_keyed calls
  exact TablesStep.keyed h (step_cases h)

/-- Where a delivery and its response come from: they were there, with the same attempts and
receipts; or a write made them; or they have just been saved. -/
lemma TablesStep.rows (h : Keyed tables) (hstep : TablesStep digests tables call tables')
    {row : DeliveryOutboxRecord} (hrow : row ∈ tables'.deliveries)
    (hresponse : response ∈ tables'.responses) (hof : response.responseId = row.responseId) :
    (row ∈ tables.deliveries ∧ response ∈ tables.responses ∧
      tables'.attemptsOf row.id = tables.attemptsOf row.id ∧
      tables'.receiptsOf row.id = tables.receiptsOf row.id) ∨
    (∃ delivery ∈ tables.deliveries, ∃ old ∈ tables.responses,
      old.responseId = delivery.responseId ∧
      Write tables call delivery old row response tables'.attempts tables'.receipts) ∨
    ((∃ outcome target now, call = .saveGenerated outcome target row.id now) ∧
      row.status = .queued ∧ row.nextPartOrdinal = 0 ∧ row.claimToken = none ∧
      row.claimedAt = none ∧ response.status = .generated ∧ 0 < response.partCount ∧
      tables'.attemptsOf row.id = [] ∧ tables'.receiptsOf row.id = []) := by
  cases hstep with
  | unchanged => exact Or.inl ⟨hrow, hresponse, rfl, rfl⟩
  | @write delivery old _ _ _ _ hdelivery hold hofOld hwrite =>
    obtain ⟨hid, hresponseOf, hresponseId, -⟩ := hwrite.identity
    rw [commit_eq hid hresponseId] at hrow hresponse
    rcases (mem_replace hdelivery).mp hrow with rfl | ⟨hrowOld, hne⟩
    · refine Or.inr (Or.inl ⟨delivery, hdelivery, old, hold, hofOld, ?_⟩)
      rcases (mem_replace hold).mp hresponse with rfl | ⟨hresponse, hne⟩
      · exact hwrite
      · exact absurd (hof.trans (hresponseOf.trans hofOld.symm)) hne
    · refine Or.inl ⟨hrowOld, ?_, hwrite.attempts_frame h hne, hwrite.receipts_frame hne⟩
      rcases (mem_replace hold).mp hresponse with rfl | ⟨hresponse, -⟩
      · -- the response belongs to the written delivery only
        have hsame : row.responseId = delivery.responseId :=
          hof.symm.trans (hresponseId.trans hofOld)
        exact absurd (congrArg _ (h.targets.eq_of_key_eq hrowOld hdelivery hsame)) hne
      · exact hresponse
  | @saved outcome target deliveryId now request hcall hresponses hdeliveries =>
    rcases mem_concat.mp hrow with hrowOld | rfl
    · refine Or.inl ⟨hrowOld, ?_, rfl, rfl⟩
      rcases mem_concat.mp hresponse with hold | rfl
      · exact hold
      · obtain ⟨found, hfound, hfoundOf⟩ := h.response row hrowOld
        exact absurd (hfoundOf.trans hof.symm) (hresponses found hfound)
    · obtain rfl : response = request.newResponse now :=
        (mem_concat.mp hresponse).resolve_left fun hold => hresponses response hold hof
      refine Or.inr (Or.inr ⟨⟨outcome, target, now, hcall⟩, rfl, rfl, rfl, rfl, rfl, ?_, ?_, ?_⟩)
      · exact List.length_pos_iff.mpr request.envelope.parts_ne_nil
      · refine List.filter_eq_nil_iff.mpr fun row hrow hrowOf => ?_
        obtain ⟨found, hfound, hid⟩ := h.attemptOf row hrow
        exact hdeliveries found hfound (hid.trans (of_decide_eq_true hrowOf))
      · refine List.filter_eq_nil_iff.mpr fun row hrow hrowOf => ?_
        obtain ⟨found, hfound, hid⟩ := h.receiptOf row hrow
        exact hdeliveries found hfound (hid.trans (of_decide_eq_true hrowOf))

end Step

end AgentGateway.Delivery
