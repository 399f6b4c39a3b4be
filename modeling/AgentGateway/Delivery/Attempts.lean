import AgentGateway.Delivery.Ledger

/-!
# Attempts along a run

What a step does to attempts and claims (`AttemptMove`), and what keeps an uncertain attempt from
being tried again without an operator: of the attempts for one part that are not known to have
failed there is one, and one more for each `retry` with `allow_uncertain` (`Counted`).
-/

namespace AgentGateway.Delivery

open Lib Lib.Table Lib.Run Response

/-! ## Attempts and claims along a step -/

/-- What a step does to an attempt that is there. -/
inductive AttemptMove (call : Call) (row : DeliveryAttempt) : DeliveryAttempt → Prop
  | kept : AttemptMove call row row
  | expired {now} : AttemptMove call row (row.expired now)
  | delivered {claimToken partOrdinal messageId payload now}
      (hcall : call = .markPartDelivered row.deliveryId claimToken row.id partOrdinal payload
        messageId now) : AttemptMove call row (row.delivered messageId payload now)
  | finished {claimToken plan errorCode now}
      (hcall : call.finish? = some (row.deliveryId, claimToken, row.id, plan)) :
      AttemptMove call row (row.finished plan errorCode now)

/-- The call starts the attempt, whose id is new. -/
structure StartedBy (tables : DeliveryTables) (call : Call) (row : DeliveryAttempt) : Prop where
  call_eq : ∃ deliveryId claimToken partOrdinal,
    call = .startAttempt deliveryId claimToken partOrdinal row.id
  fresh : ∀ other ∈ tables.attempts, other.id ≠ row.id

section Steps

variable {digests : Digests} {tables tables' : DeliveryTables} {call : Call}
  {row row' active : DeliveryAttempt} {delivery delivery' : DeliveryOutboxRecord}
  {response response' : ResponseRecord} {attempts : List DeliveryAttempt}
  {receipts : List DeliveryReceipt} {deliveryId partOrdinal retries : ℕ} {token : String}
  {f : DeliveryAttempt → DeliveryAttempt}

lemma AttemptMove.identity (h : AttemptMove call row row') :
    row'.id = row.id ∧ row'.deliveryId = row.deliveryId ∧ row'.partOrdinal = row.partOrdinal := by
  cases h <;> exact ⟨rfl, rfl, rfl⟩

/-- No step sets an attempt on its way. -/
lemma AttemptMove.eq_of_active (h : AttemptMove call row row')
    (hactive : row'.status = .delivering) : row' = row := by
  cases h with
  | kept => rfl
  | expired | delivered => cases hactive
  | @finished _ plan _ _ hcall =>
    change plan.attemptStatus = .delivering at hactive
    rcases Call.finish?_cases hcall with ⟨h, -⟩ | ⟨h, -⟩ | ⟨h, -⟩ <;> rw [h] at hactive <;>
      cases hactive

/-- The attempts after a write: each old one moved, and at most one new. -/
structure AttemptsMoved (tables : DeliveryTables) (call : Call) (attempts : List DeliveryAttempt) :
    Prop where
  kept : ∀ row ∈ tables.attempts, ∃ row' ∈ attempts, AttemptMove call row row'
  origin : ∀ row' ∈ attempts, (∃ row ∈ tables.attempts, AttemptMove call row row') ∨
    StartedBy tables call row'

/-- Rewriting the attempt on its way moves every attempt, most of them not at all. -/
lemma AttemptsMoved.rewritten (hkeys : Keyed tables) (hmem : active ∈ tables.attempts)
    (hmove : AttemptMove call active (f active)) :
    AttemptsMoved tables call
      (updateWhere (fun other : DeliveryAttempt => other.id = active.id) f tables.attempts) := by
  refine ⟨fun row hrow => ?_, fun row' hrow => Or.inl ?_⟩
  · by_cases hid : row.id = active.id
    · obtain rfl := hkeys.attempts.eq_of_key_eq hrow hmem hid
      exact ⟨f row, mem_updateWhere_of_pos hrow rfl, hmove⟩
    · exact ⟨row, mem_updateWhere_of_not hrow hid, .kept⟩
  · rcases (mem_rewritten hkeys.attempts hmem).mp hrow with rfl | ⟨hold, -⟩
    · exact ⟨active, hmem, hmove⟩
    · exact ⟨row', hold, .kept⟩

lemma Write.attempts_moved (hkeys : Keyed tables)
    (h : Write tables call delivery response delivery' response' attempts receipts) :
    AttemptsMoved tables call attempts := by
  cases h with
  | expired hstatus hmem => exact .rewritten hkeys hmem .expired
  | delivered hcall hstatus hmem hactive =>
    rw [← hactive.1] at hcall
    exact .rewritten hkeys hmem (.delivered hcall)
  | finished hcall hstatus hmem hactive =>
    rw [← hactive.1] at hcall
    exact .rewritten hkeys hmem (.finished hcall)
  | started hcall hstatus hidle hfresh =>
    refine ⟨fun row hrow => ⟨row, List.mem_append_left _ hrow, .kept⟩, fun row' hrow => ?_⟩
    rcases mem_concat.mp hrow with hold | rfl
    · exact Or.inl ⟨row', hold, .kept⟩
    · exact Or.inr ⟨⟨_, _, _, hcall⟩, hfresh⟩
  | _ => exact ⟨fun row hrow => ⟨row, hrow, .kept⟩, fun row hrow => Or.inl ⟨row, hrow, .kept⟩⟩

/-- Every attempt is still there after a step. -/
lemma TablesStep.attempt_kept (hkeys : Keyed tables)
    (hstep : TablesStep digests tables call tables') (hrow : row ∈ tables.attempts) :
    ∃ row' ∈ tables'.attempts, AttemptMove call row row' := by
  cases hstep with
  | write hdelivery hresponse hof hwrite => exact (hwrite.attempts_moved hkeys).kept row hrow
  | _ => exact ⟨row, hrow, .kept⟩

/-- Where an attempt comes from. -/
lemma TablesStep.attempt_origin (hkeys : Keyed tables)
    (hstep : TablesStep digests tables call tables') (hrow : row' ∈ tables'.attempts) :
    (∃ row ∈ tables.attempts, AttemptMove call row row') ∨ StartedBy tables call row' := by
  cases hstep with
  | write hdelivery hresponse hof hwrite => exact (hwrite.attempts_moved hkeys).origin row' hrow
  | _ => exact Or.inl ⟨row', hrow, .kept⟩

/-- An attempt on its way after a step that starts none was on its way before. -/
lemma TablesStep.active_origin (hkeys : Keyed tables)
    (hstep : TablesStep digests tables call tables')
    (hcall : ∀ deliveryId token partOrdinal attemptId,
      call ≠ .startAttempt deliveryId token partOrdinal attemptId)
    (hrow : row ∈ tables'.attempts) (hactive : row.status = .delivering) :
    row ∈ tables.attempts := by
  rcases hstep.attempt_origin hkeys hrow with ⟨old, hold, hmove⟩ | ⟨⟨_, _, _, hstart⟩, -⟩
  · rw [hmove.eq_of_active hactive]
    exact hold
  · exact absurd hstart (hcall _ _ _ _)

/-- A step leaves a delivery and its attempts alone, or it is a write on that delivery. -/
lemma TablesStep.delivery_cases (hkeys : Keyed tables)
    (hstep : TablesStep digests tables call tables') (hmem : delivery ∈ tables.deliveries) :
    (delivery ∈ tables'.deliveries ∧
      tables'.attemptsOf delivery.id = tables.attemptsOf delivery.id) ∨
    ∃ response delivery' response', delivery' ∈ tables'.deliveries ∧
      Write tables call delivery response delivery' response' tables'.attempts
        tables'.receipts := by
  cases hstep with
  | unchanged => exact Or.inl ⟨hmem, rfl⟩
  | saved => exact Or.inl ⟨List.mem_append_left _ hmem, rfl⟩
  | @write written _ _ _ _ _ hwritten hresponse hof hwrite =>
    obtain ⟨hid, -, hresponseId, -⟩ := hwrite.identity
    rw [commit_eq hid hresponseId]
    by_cases hsame : delivery.id = written.id
    · obtain rfl := hkeys.deliveries.eq_of_key_eq hmem hwritten hsame
      exact Or.inr ⟨_, _, _, mem_updateWhere_of_pos hmem rfl, hwrite⟩
    · exact Or.inl ⟨mem_updateWhere_of_not hmem hsame, hwrite.attempts_frame hkeys hsame⟩

lemma TablesStep.receipts_prefix_of (hstep : TablesStep digests tables call tables') :
    tables.receipts <+: tables'.receipts := by
  cases hstep with
  | unchanged | saved => exact List.prefix_rfl
  | @write _ _ _ _ _ receipts _ _ _ hwrite =>
    change tables.receipts <+: receipts
    cases hwrite with
    | delivered => exact List.prefix_append _ _
    | _ => exact List.prefix_rfl

lemma Write.status_ne_delivered
    (h : Write tables call delivery response delivery' response' attempts receipts) :
    delivery.status ≠ .delivered := by
  intro hdelivered
  cases h with
  | @retried allowUncertain _ _ hcall hstatus =>
    rw [hdelivered] at hstatus
    cases allowUncertain <;> exact absurd hstatus (by decide)
  | released hstatus | expired hstatus | claimed hcall hstatus | started hcall hstatus
  | delivered hcall hstatus | finished hcall hstatus =>
    exact absurd (hdelivered.symm.trans hstatus) (by decide)

/-- **What is delivered stays so.** Whatever is called later, receipts are only added, and neither
a delivery that is delivered nor its attempts change. -/
theorem delivered_is_final (digests : Digests) (calls more : List Call) :
    (tablesAfter digests calls).receipts <+: (tablesAfter digests (calls ++ more)).receipts ∧
    ∀ delivery ∈ (tablesAfter digests calls).deliveries, delivery.status = .delivered →
      delivery ∈ (tablesAfter digests (calls ++ more)).deliveries ∧
      (tablesAfter digests (calls ++ more)).attemptsOf delivery.id =
        (tablesAfter digests calls).attemptsOf delivery.id := by
  induction more using List.reverseRecOn with
  | nil =>
    rw [List.append_nil]
    exact ⟨List.prefix_rfl, fun _ hmem _ => ⟨hmem, rfl⟩⟩
  | append_singleton more call ih =>
    have hkeys := tablesAfter_keyed digests (calls ++ more)
    have hstep : TablesStep digests (tablesAfter digests (calls ++ more)) call
        (tablesAfter digests (calls ++ (more ++ [call]))) := by
      rw [← List.append_assoc, tablesAfter, tablesAfter, run_concat]
      exact step_cases hkeys
    refine ⟨ih.1.trans hstep.receipts_prefix_of, fun delivery hmem hdelivered => ?_⟩
    obtain ⟨hkept, hattempts⟩ := ih.2 delivery hmem hdelivered
    rcases hstep.delivery_cases hkeys hkept with ⟨hsame, hframe⟩ | ⟨_, _, _, -, hwrite⟩
    · exact ⟨hsame, hframe.trans hattempts⟩
    · exact absurd hdelivered hwrite.status_ne_delivered

/-- A write keeps the claim, drops it, or is a claim. -/
lemma Write.claimToken_cases
    (h : Write tables call delivery response delivery' response' attempts receipts)
    (htoken : delivery'.claimToken = some token) :
    delivery.claimToken = some token ∨ ∃ channel claimToken now,
      call = .claimNext channel claimToken now ∧ token = strip claimToken ∧
      delivery.status = .queued ∧ attempts = tables.attempts := by
  cases h with
  | claimed hcall hstatus =>
    exact Or.inr ⟨_, _, _, hcall, (Option.some.inj htoken).symm, hstatus, rfl⟩
  | started => exact Or.inl htoken
  | delivered =>
    unfold DeliveryOutboxRecord.advanced at htoken
    split_ifs at htoken
    exact Or.inl htoken
  | _ => cases htoken

/-- Where a claim comes from: it was there, or the step is the claim of a queued delivery. -/
lemma TablesStep.claim_origin (hstep : TablesStep digests tables call tables')
    (hmem : delivery' ∈ tables'.deliveries) (htoken : delivery'.claimToken = some token) :
    ∃ delivery ∈ tables.deliveries, delivery.id = delivery'.id ∧
      (delivery.claimToken = some token ∨ ∃ channel claimToken now,
        call = .claimNext channel claimToken now ∧ token = strip claimToken ∧
        delivery.status = .queued ∧ tables'.attempts = tables.attempts) := by
  cases hstep with
  | unchanged => exact ⟨delivery', hmem, rfl, Or.inl htoken⟩
  | @write delivery _ _ _ _ _ hdelivery hresponse hof hwrite =>
    obtain ⟨hid, -, hresponseId, -⟩ := hwrite.identity
    rw [commit_eq hid hresponseId] at hmem
    rcases (mem_replace hdelivery).mp hmem with rfl | ⟨hold, -⟩
    · exact ⟨delivery, hdelivery, hid.symm, hwrite.claimToken_cases htoken⟩
    · exact ⟨delivery', hold, rfl, Or.inl htoken⟩
  | saved =>
    rcases mem_concat.mp hmem with hold | rfl
    · exact ⟨delivery', hold, rfl, Or.inl htoken⟩
    · cases htoken

/-! ## Attempts not known to have failed -/

/-- An attempt that is not over: it is on its way, or nobody knows. -/
def IsOpen (row : DeliveryAttempt) : Prop :=
  row.status = .delivering ∨ row.status = .uncertain

/-- An attempt for the part that may have reached the channel. -/
def Unfailed (partOrdinal : ℕ) (row : DeliveryAttempt) : Prop :=
  row.partOrdinal = partOrdinal ∧ row.status ≠ .failed

instance (partOrdinal : ℕ) : DecidablePred (Unfailed partOrdinal) := fun _ =>
  inferInstanceAs (Decidable (_ ∧ _))

/-- **The count.** A part has at most one attempt that may have reached the channel, and one more
for each retry; while the part waits for its next attempt, one less. -/
structure Counted (delivery : DeliveryOutboxRecord) (attempts : List DeliveryAttempt)
    (partOrdinal retries : ℕ) : Prop where
  le : rowcount (Unfailed partOrdinal) attempts ≤ retries + 1
  waiting : partOrdinal = delivery.nextPartOrdinal → delivery.status ≠ .uncertain →
    (∀ row ∈ attempts, row.status ≠ .delivering) →
      rowcount (Unfailed partOrdinal) attempts ≤ retries

/-- `retry` with `allow_uncertain`, when it finds the delivery uncertain at the part. -/
def retriesUncertain (deliveryId partOrdinal : ℕ) (tables : DeliveryTables) : Call → Bool
  | .retry id true _ _ => id = deliveryId ∧ tables.deliveries.any fun delivery =>
      delivery.id = deliveryId ∧ delivery.nextPartOrdinal = partOrdinal ∧
        delivery.status = .uncertain
  | _ => false

lemma Counted.mono {retries' : ℕ} (h : Counted delivery attempts partOrdinal retries)
    (hle : retries ≤ retries') : Counted delivery attempts partOrdinal retries' :=
  ⟨h.le.trans (by omega), fun hpart hstatus hidle => (h.waiting hpart hstatus hidle).trans hle⟩

/-- How the end of the attempt on its way changes the count of its part. -/
lemma rowcount_rewritten (hkeys : UniqueKeys DeliveryAttempt.id attempts) (hmem : active ∈ attempts)
    (hactive : active.status = .delivering) (hpart : (f active).partOrdinal = active.partOrdinal)
    (partOrdinal : ℕ) :
    rowcount (Unfailed partOrdinal)
        (updateWhere (fun row : DeliveryAttempt => row.id = active.id) f attempts) +
      (if active.partOrdinal = partOrdinal ∧ (f active).status = .failed then 1 else 0) =
      rowcount (Unfailed partOrdinal) attempts := by
  have hcount := hkeys.rowcount_updateWhere (p := Unfailed partOrdinal) (f := f) hmem
  have hold : Unfailed partOrdinal active ↔ active.partOrdinal = partOrdinal := by
    simp [Unfailed, hactive]
  have hnew : Unfailed partOrdinal (f active) ↔
      active.partOrdinal = partOrdinal ∧ (f active).status ≠ .failed := by
    rw [Unfailed, hpart]
  simp only [hold, hnew] at hcount
  by_cases hsame : active.partOrdinal = partOrdinal
  · by_cases hfailed : (f active).status = .failed
    · simpa [hsame, hfailed] using hcount
    · simpa [hsame, hfailed] using hcount
  · simpa [hsame] using hcount

/-- The attempt on its way has ended. What is left is who waits now: nobody, the part whose attempt
has failed, or a part that has not been tried. -/
lemma Counted.rewritten (hkeys : Keyed tables)
    (hbounded : Bounded delivery (tables.attemptsOf delivery.id))
    (h : Counted delivery (tables.attemptsOf delivery.id) partOrdinal retries)
    (hmem : active ∈ tables.attempts)
    (hactive : IsActive delivery.id delivery.nextPartOrdinal active) (hf : KeepsIdentity f)
    (hwaiting : partOrdinal = delivery'.nextPartOrdinal → delivery'.status ≠ .uncertain →
      partOrdinal = delivery.nextPartOrdinal ∧ (f active).status = .failed ∨
        delivery.nextPartOrdinal < partOrdinal) :
    Counted delivery' ((updateWhere (fun row : DeliveryAttempt => row.id = active.id) f
      tables.attempts).filter fun attempt => attempt.deliveryId = delivery.id)
      partOrdinal retries := by
  have hcount := rowcount_rewritten (hkeys.attemptsOf delivery.id)
    (mem_attemptsOf.mpr ⟨hmem, hactive.1⟩) hactive.2.2 (hf active).2.2 partOrdinal
  have hle := h.le
  rw [filter_rewritten hf]
  refine ⟨by omega, fun hpart hstatus _ => ?_⟩
  rcases hwaiting hpart hstatus with ⟨rfl, hfailed⟩ | hlater
  · rw [if_pos ⟨hactive.2.1, hfailed⟩] at hcount
    omega
  · have hzero : rowcount (Unfailed partOrdinal) (tables.attemptsOf delivery.id) = 0 := by
      refine rowcount_eq_zero.mpr fun row hrow hunfailed => ?_
      exact absurd (hunfailed.1.symm.trans_le (hbounded.part_le row hrow)) (not_le.mpr hlater)
    omega

/-- A write keeps the count of its delivery; a retry of the uncertain part is paid for. -/
lemma Write.counted (hkeys : Keyed tables) (h : Consistent tables delivery response)
    (hmem : delivery ∈ tables.deliveries)
    (hcounted : Counted delivery (tables.attemptsOf delivery.id) partOrdinal retries)
    (hwrite : Write tables call delivery response delivery' response' tables'.attempts receipts) :
    Counted delivery' (tables'.attemptsOf delivery.id) partOrdinal
      (retries + (retriesUncertain delivery.id partOrdinal tables call).toNat) := by
  obtain ⟨hledger, hbounded⟩ := h
  have hle := hcounted.mono (Nat.le_add_right retries
    (retriesUncertain delivery.id partOrdinal tables call).toNat)
  unfold DeliveryTables.attemptsOf
  generalize tables'.attempts = attempts at hwrite ⊢
  cases hwrite with
  | released hstatus | claimed hcall hstatus =>
    exact ⟨hle.le, fun hpart _ hidle => hle.waiting hpart (by simp [hstatus]) hidle⟩
  | expired hstatus hactiveMem hactive =>
    exact hle.rewritten hkeys hbounded hactiveMem hactive (fun _ => ⟨rfl, rfl, rfl⟩)
      fun _ huncertain => absurd rfl huncertain
  -- the new attempt uses up what was free while nothing was running
  | @started _ attemptId attemptNumber hcall hstatus hidle hfresh =>
    have hnone := hledger.idle_of_not_active hidle
    have hnew : [newAttempt delivery delivery.nextPartOrdinal attemptNumber attemptId].filter
        (fun attempt => attempt.deliveryId = delivery.id) =
        [newAttempt delivery delivery.nextPartOrdinal attemptNumber attemptId] :=
      List.filter_cons_of_pos (decide_eq_true rfl)
    rw [List.filter_append, hnew]
    constructor
    · change rowcount _ (tables.attemptsOf delivery.id ++ _) ≤ _
      rw [rowcount_append, rowcount_cons, rowcount_nil]
      by_cases hpart : partOrdinal = delivery.nextPartOrdinal
      · have hbefore := hle.waiting hpart (by simp [hstatus]) hnone
        split_ifs <;> omega
      · rw [if_neg fun hnew => hpart hnew.1.symm]
        exact hle.le
    · intro _ _ hidle'
      exact absurd rfl (hidle' _ (List.mem_append_right _ (List.mem_singleton_self _)))
  -- the delivery moves on to the next part
  | @delivered _ _ _ _ now hcall hstatus hactiveMem hactive =>
    refine hle.rewritten hkeys hbounded hactiveMem hactive (fun _ => ⟨rfl, rfl, rfl⟩)
      fun hpart _ => Or.inr ?_
    have hnext : (delivery.advanced delivery.nextPartOrdinal (decide (delivery.nextPartOrdinal + 1 =
        response.partCount)) now).nextPartOrdinal = delivery.nextPartOrdinal + 1 := by
      unfold DeliveryOutboxRecord.advanced
      split_ifs <;> rfl
    omega
  | finished hcall hstatus hactiveMem hactive =>
    refine hle.rewritten hkeys hbounded hactiveMem hactive (fun _ => ⟨rfl, rfl, rfl⟩)
      fun hpart huncertain => Or.inl ⟨hpart, ?_⟩
    rcases Call.finish?_cases hcall with ⟨hfailed, -⟩ | ⟨hfailed, -⟩ | ⟨-, hplan, -⟩
    · exact hfailed
    · exact hfailed
    · exact absurd hplan huncertain
  | @retried allowUncertain _ _ hcall hstatus =>
    refine ⟨hle.le, fun hpart _ hidle => ?_⟩
    by_cases huncertain : delivery.status = .uncertain
    · -- only `allow_uncertain` reaches an uncertain delivery, and it pays for the attempt
      have hpaid : retriesUncertain delivery.id partOrdinal tables call = true := by
        cases allowUncertain with
        | true =>
          rw [hcall, retriesUncertain, decide_eq_true_eq, List.any_eq_true]
          exact ⟨rfl, delivery, hmem, decide_eq_true ⟨rfl, hpart.symm, huncertain⟩⟩
        | false =>
          rw [huncertain] at hstatus
          exact DeliveryStatus.noConfusion (List.mem_singleton.mp hstatus)
      rw [hpaid]
      exact hcounted.le
    · exact hle.waiting hpart huncertain hidle

/-- Every delivery of the id has its count. -/
def AllCounted (tables : DeliveryTables) (deliveryId partOrdinal retries : ℕ) : Prop :=
  ∀ delivery ∈ tables.deliveries, delivery.id = deliveryId →
    Counted delivery (tables.attemptsOf deliveryId) partOrdinal retries

lemma AllCounted.le (hkeys : Keyed tables) (h : AllCounted tables deliveryId partOrdinal retries) :
    rowcount (Unfailed partOrdinal) (tables.attemptsOf deliveryId) ≤ retries + 1 := by
  rcases List.eq_nil_or_concat (tables.attemptsOf deliveryId) with hnil | ⟨_, row, hrows⟩
  · rw [hnil]
    exact Nat.zero_le _
  · have hrow : row ∈ tables.attemptsOf deliveryId := by simp [hrows]
    obtain ⟨hmem, hof⟩ := mem_attemptsOf.mp hrow
    obtain ⟨delivery, hdelivery, hid⟩ := hkeys.attemptOf row hmem
    exact (h delivery hdelivery (hid.trans hof)).le

/-- One step keeps the count. -/
lemma AllCounted.step (hkeys : Keyed tables) (hconsistent : AllConsistent tables)
    (h : AllCounted tables deliveryId partOrdinal retries)
    (hstep : TablesStep digests tables call tables') :
    AllCounted tables' deliveryId partOrdinal
      (retries + (retriesUncertain deliveryId partOrdinal tables call).toNat) := by
  rintro delivery' hdelivery' rfl
  obtain ⟨response', hresponse', hof'⟩ := (hstep.keyed hkeys).response delivery' hdelivery'
  rcases hstep.rows hkeys hdelivery' hresponse' hof' with ⟨hold, -, hattempts, -⟩ |
    ⟨delivery, hdelivery, response, hresponse, hof, hwrite⟩ |
    ⟨-, -, -, -, -, -, -, hattempts, -⟩
  · rw [hattempts]
    exact (h delivery' hold rfl).mono (Nat.le_add_right _ _)
  · have hid : delivery'.id = delivery.id := hwrite.identity.1
    rw [hid] at h ⊢
    exact hwrite.counted hkeys (hconsistent delivery hdelivery response hresponse hof) hdelivery
      (h delivery hdelivery rfl)
  · rw [hattempts]
    exact ⟨Nat.zero_le _, fun _ _ _ => Nat.zero_le _⟩

end Steps

end AgentGateway.Delivery
