import AgentGateway.Delivery.System

/-!
# The delivery ledger

What holds of a delivery, its response, its attempts and its receipts after any run of committed
calls. The receipts are the parts delivered so far, in order; at most one attempt is on its way,
for the next part and under a claim; the response follows the status of the delivery. So no call
ever finds a response in a status it does not expect.
-/

namespace AgentGateway.Delivery

open Lib Lib.Table Lib.Run Response

/-- The response statuses that fit the status of the delivery. -/
def ResponseAgrees : DeliveryStatus → ResponseStatus → Prop
  | .queued, status => status = .generated ∨ status = .delivering
  | .delivering, status => status = .delivering
  | .delivered, status => status = .delivered
  | .failed, status => status = .failed
  | .uncertain, status => status = .uncertain

/-- A receipt belongs to an attempt, the only delivered one of its part. -/
def Receipted (attempts : List DeliveryAttempt) (receipt : DeliveryReceipt) : Prop :=
  ∃ attempt ∈ attempts, receipt.attemptId = attempt.id ∧
    ∀ other ∈ attempts, (other.partOrdinal = receipt.partOrdinal ∧ other.status = .delivered) ↔
      other = attempt

/-- The ledger of one delivery, given its response, its attempts and its receipts. -/
structure Ledger (delivery : DeliveryOutboxRecord) (response : ResponseRecord)
    (attempts : List DeliveryAttempt) (receipts : List DeliveryReceipt) : Prop where
  receipts_eq : receipts.map DeliveryReceipt.partOrdinal = List.range delivery.nextPartOrdinal
  receipt_attempt : ∀ receipt ∈ receipts, Receipted attempts receipt
  next_le : delivery.nextPartOrdinal ≤ response.partCount
  next_eq_iff : delivery.nextPartOrdinal = response.partCount ↔ delivery.status = .delivered
  token_iff : delivery.claimToken.isSome ↔ delivery.status = .delivering
  claimedAt_iff : delivery.claimedAt.isSome ↔ delivery.status = .delivering
  active_unique : ∀ a ∈ attempts, ∀ b ∈ attempts, a.status = .delivering →
    b.status = .delivering → a = b
  active_at : ∀ attempt ∈ attempts, attempt.status = .delivering →
    delivery.status = .delivering ∧ attempt.partOrdinal = delivery.nextPartOrdinal
  agrees : ResponseAgrees delivery.status response.status

/-- What else the induction carries: attempts are for parts up to the next one, and a delivered
part lies behind. -/
structure Bounded (delivery : DeliveryOutboxRecord) (attempts : List DeliveryAttempt) : Prop where
  part_le : ∀ attempt ∈ attempts, attempt.partOrdinal ≤ delivery.nextPartOrdinal
  delivered_lt : ∀ attempt ∈ attempts, attempt.status = .delivered →
    attempt.partOrdinal < delivery.nextPartOrdinal

section Attempts

variable {delivery delivery' : DeliveryOutboxRecord} {response response' : ResponseRecord}
  {attempts : List DeliveryAttempt} {receipts : List DeliveryReceipt} {active : DeliveryAttempt}
  {f : DeliveryAttempt → DeliveryAttempt}

/-- The attempts after the one on its way has been rewritten. -/
lemma mem_rewritten (hkeys : UniqueKeys DeliveryAttempt.id attempts) (hmem : active ∈ attempts)
    {row : DeliveryAttempt} :
    row ∈ updateWhere (fun other : DeliveryAttempt => other.id = active.id) f attempts ↔
      row = f active ∨ row ∈ attempts ∧ row.id ≠ active.id := by
  rw [hkeys.updateWhere_const hmem]
  exact mem_replace hmem

/-- Once the attempt on its way has ended, none is on its way. -/
lemma Ledger.idle_rewritten (h : Ledger delivery response attempts receipts)
    (hkeys : UniqueKeys DeliveryAttempt.id attempts) (hmem : active ∈ attempts)
    (hactive : active.status = .delivering) (hf : (f active).status ≠ .delivering) :
    ∀ row ∈ updateWhere (fun other : DeliveryAttempt => other.id = active.id) f attempts,
      row.status ≠ .delivering := by
  intro row hrow hstatus
  rcases (mem_rewritten hkeys hmem).mp hrow with rfl | ⟨hold, hne⟩
  · exact hf hstatus
  · exact hne (congrArg _ (h.active_unique row hold active hmem hstatus hactive))

/-- A receipt keeps its attempt when the one on its way becomes none of its delivered ones. -/
lemma Receipted.rewritten {receipt : DeliveryReceipt} (h : Receipted attempts receipt)
    (hkeys : UniqueKeys DeliveryAttempt.id attempts) (hmem : active ∈ attempts)
    (hactive : active.status = .delivering)
    (hf : ¬ ((f active).partOrdinal = receipt.partOrdinal ∧ (f active).status = .delivered)) :
    Receipted (updateWhere (fun other : DeliveryAttempt => other.id = active.id) f attempts)
      receipt := by
  obtain ⟨attempt, hattempt, hid, honly⟩ := h
  have hown := (honly attempt hattempt).mpr rfl
  have hne : attempt.id ≠ active.id := by
    intro hsame
    rw [hkeys.eq_of_key_eq hattempt hmem hsame, hactive] at hown
    cases hown.2
  refine ⟨attempt, (mem_rewritten hkeys hmem).mpr (Or.inr ⟨hattempt, hne⟩), hid, ?_⟩
  intro other hother
  rcases (mem_rewritten hkeys hmem).mp hother with rfl | ⟨hold, -⟩
  · refine ⟨fun hboth => absurd hboth hf, fun heq => absurd ?_ hf⟩
    rw [heq]
    exact hown
  · exact honly other hold

/-- The bounds survive the end of an attempt that was not delivered. -/
lemma Bounded.rewritten (h : Bounded delivery attempts)
    (hkeys : UniqueKeys DeliveryAttempt.id attempts) (hmem : active ∈ attempts)
    (hpart : (f active).partOrdinal = active.partOrdinal) (hf : (f active).status ≠ .delivered)
    (hnext : delivery'.nextPartOrdinal = delivery.nextPartOrdinal) :
    Bounded delivery'
      (updateWhere (fun other : DeliveryAttempt => other.id = active.id) f attempts) := by
  constructor
  · intro row hrow
    rw [hnext]
    rcases (mem_rewritten hkeys hmem).mp hrow with rfl | ⟨hold, -⟩
    · rw [hpart]
      exact h.part_le active hmem
    · exact h.part_le row hold
  · intro row hrow hdelivered
    rw [hnext]
    rcases (mem_rewritten hkeys hmem).mp hrow with rfl | ⟨hold, -⟩
    · exact absurd hdelivered hf
    · exact h.delivered_lt row hold hdelivered

lemma unclaimed_iff {α : Type} {claim : Option α} {status : DeliveryStatus} (hclaim : claim = none)
    (hstatus : status ≠ .delivering) : claim.isSome ↔ status = .delivering := by
  rw [hclaim]
  exact iff_of_false Bool.false_ne_true hstatus

/-- A delivery that has not been delivered has a part left. -/
lemma Ledger.next_lt (h : Ledger delivery response attempts receipts)
    (hstatus : delivery.status ≠ .delivered) :
    delivery.nextPartOrdinal < response.partCount :=
  lt_of_le_of_ne h.next_le fun heq => hstatus (h.next_eq_iff.mp heq)

/-- The ledger of a delivery without an attempt on its way. -/
lemma Ledger.of_idle (hidle : ∀ attempt ∈ attempts, attempt.status ≠ .delivering)
    (hparts : receipts.map DeliveryReceipt.partOrdinal = List.range delivery.nextPartOrdinal)
    (hreceipts : ∀ receipt ∈ receipts, Receipted attempts receipt)
    (hle : delivery.nextPartOrdinal ≤ response.partCount)
    (hiff : delivery.nextPartOrdinal = response.partCount ↔ delivery.status = .delivered)
    (htoken : delivery.claimToken.isSome ↔ delivery.status = .delivering)
    (hclaimedAt : delivery.claimedAt.isSome ↔ delivery.status = .delivering)
    (hagrees : ResponseAgrees delivery.status response.status) :
    Ledger delivery response attempts receipts where
  receipts_eq := hparts
  receipt_attempt := hreceipts
  next_le := hle
  next_eq_iff := hiff
  token_iff := htoken
  claimedAt_iff := hclaimedAt
  active_unique := fun a ha _ _ hactive => absurd hactive (hidle a ha)
  active_at := fun a ha hactive => absurd hactive (hidle a ha)
  agrees := hagrees

/-- A write that moves the two rows to a new status, with the same parts delivered and parts
left. -/
structure Restated (delivery : DeliveryOutboxRecord) (response : ResponseRecord)
    (delivery' : DeliveryOutboxRecord) (response' : ResponseRecord) : Prop where
  id_eq : delivery'.id = delivery.id
  next_eq : delivery'.nextPartOrdinal = delivery.nextPartOrdinal
  count_eq : response'.partCount = response.partCount
  not_delivered : delivery'.status ≠ .delivered
  token_iff : delivery'.claimToken.isSome ↔ delivery'.status = .delivering
  claimedAt_iff : delivery'.claimedAt.isSome ↔ delivery'.status = .delivering
  agrees : ResponseAgrees delivery'.status response'.status

lemma Ledger.restate (h : Ledger delivery response attempts receipts)
    (hrestated : Restated delivery response delivery' response')
    (hopen : delivery.status ≠ .delivered) {attempts' : List DeliveryAttempt}
    (hreceipts : ∀ receipt ∈ receipts, Receipted attempts' receipt)
    (hidle : ∀ attempt ∈ attempts', attempt.status ≠ .delivering) :
    Ledger delivery' response' attempts' receipts := by
  refine .of_idle hidle ?_ hreceipts ?_ ?_ hrestated.token_iff hrestated.claimedAt_iff
    hrestated.agrees
  · rw [hrestated.next_eq]
    exact h.receipts_eq
  · rw [hrestated.next_eq, hrestated.count_eq]
    exact h.next_le
  · have hlt := h.next_lt hopen
    rw [hrestated.next_eq, hrestated.count_eq]
    exact ⟨fun heq => absurd heq hlt.ne, fun h' => absurd h' hrestated.not_delivered⟩

end Attempts

/-! ## One write -/

section Writes

variable {tables : DeliveryTables} {call : Call} {delivery delivery' : DeliveryOutboxRecord}
  {response response' : ResponseRecord} {attempts : List DeliveryAttempt}
  {receipts : List DeliveryReceipt} {attemptId deliveryId : ℕ}
  {f : DeliveryAttempt → DeliveryAttempt}

/-- The ledger and the bounds of a delivery in the tables. -/
def Consistent (tables : DeliveryTables) (delivery : DeliveryOutboxRecord)
    (response : ResponseRecord) : Prop :=
  Ledger delivery response (tables.attemptsOf delivery.id) (tables.receiptsOf delivery.id) ∧
    Bounded delivery (tables.attemptsOf delivery.id)

lemma mem_attemptsOf {attempt : DeliveryAttempt} :
    attempt ∈ tables.attemptsOf deliveryId ↔
      attempt ∈ tables.attempts ∧ attempt.deliveryId = deliveryId := by
  rw [DeliveryTables.attemptsOf, List.mem_filter, decide_eq_true_eq]

lemma Keyed.attemptsOf (h : Keyed tables) (deliveryId : ℕ) :
    UniqueKeys DeliveryAttempt.id (tables.attemptsOf deliveryId) :=
  h.attempts.sublist (List.filter_sublist.map _)

/-- The rewritten attempts of a delivery. -/
lemma filter_rewritten (hf : KeepsIdentity f) (attemptId deliveryId : ℕ) :
    ((updateWhere (fun row : DeliveryAttempt => row.id = attemptId) f tables.attempts).filter
      fun attempt => attempt.deliveryId = deliveryId) =
      updateWhere (fun row : DeliveryAttempt => row.id = attemptId) f
        (tables.attemptsOf deliveryId) :=
  filter_updateWhere fun row => by rw [(hf row).2.1]

/-- A delivery that is not being delivered has no attempt on its way. -/
lemma Ledger.idle (h : Ledger delivery response attempts receipts)
    (hstatus : delivery.status ≠ .delivering) :
    ∀ attempt ∈ attempts, attempt.status ≠ .delivering :=
  fun attempt hmem hactive => hstatus (h.active_at attempt hmem hactive).1

/-- The attempt `_active_attempt` looks for is the only one that can be on its way. -/
lemma Ledger.idle_of_not_active (h : Ledger delivery response (tables.attemptsOf delivery.id)
    receipts) (hidle : ∀ attempt ∈ tables.attempts,
      ¬ IsActive delivery.id delivery.nextPartOrdinal attempt) :
    ∀ attempt ∈ tables.attemptsOf delivery.id, attempt.status ≠ .delivering := by
  intro attempt hmem hactive
  obtain ⟨hattempt, hof⟩ := mem_attemptsOf.mp hmem
  exact hidle attempt hattempt ⟨hof, (h.active_at attempt hmem hactive).2, hactive⟩

lemma status_of_retryable {status : DeliveryStatus} {allowUncertain : Bool}
    (h : status ∈ retryableStatuses allowUncertain) : status = .failed ∨ status = .uncertain := by
  unfold retryableStatuses at h
  split_ifs at h
  · simpa using h
  · exact Or.inl (List.mem_singleton.mp h)

/-- The statuses of the three ways in which an attempt ends without a receipt. -/
lemma Call.finish?_cases {claimToken : String} {plan : FinishPlan}
    (h : call.finish? = some (deliveryId, claimToken, attemptId, plan)) :
    (plan.attemptStatus = .failed ∧ plan.deliveryStatus = .queued ∧ plan.responseStatus = none) ∨
    (plan.attemptStatus = .failed ∧ plan.deliveryStatus = .failed ∧
      plan.responseStatus = some .failed) ∨
    (plan.attemptStatus = .uncertain ∧ plan.deliveryStatus = .uncertain ∧
      plan.responseStatus = some .uncertain) := by
  cases call with
  | markAttemptRetryable =>
    cases h
    exact Or.inl ⟨rfl, rfl, rfl⟩
  | markAttemptFailed =>
    cases h
    exact Or.inr (Or.inl ⟨rfl, rfl, rfl⟩)
  | markAttemptUncertain =>
    cases h
    exact Or.inr (Or.inr ⟨rfl, rfl, rfl⟩)
  | _ => cases h

variable {active : DeliveryAttempt} {tables' : DeliveryTables}

/-- Ending an attempt without a receipt keeps the ledger. -/
lemma Consistent.finished (hkeys : Keyed tables) (h : Consistent tables delivery response)
    (hmem : active ∈ tables.attempts)
    (hactive : IsActive delivery.id delivery.nextPartOrdinal active)
    (hattempts : tables'.attempts = updateWhere (fun row : DeliveryAttempt => row.id = active.id) f
      tables.attempts) (hreceipts : tables'.receipts = tables.receipts) (hf : KeepsIdentity f)
    (hdelivering : (f active).status ≠ .delivering) (hdelivered : (f active).status ≠ .delivered)
    (hrestated : Restated delivery response delivery' response') :
    Consistent tables' delivery' response' := by
  obtain ⟨hledger, hbounded⟩ := h
  have hkeysOf := hkeys.attemptsOf delivery.id
  have hmemOf : active ∈ tables.attemptsOf delivery.id := mem_attemptsOf.mpr ⟨hmem, hactive.1⟩
  have hopen : delivery.status ≠ .delivered := by
    simp [(hledger.active_at active hmemOf hactive.2.2).1]
  unfold Consistent DeliveryTables.attemptsOf DeliveryTables.receiptsOf
  rw [hattempts, hreceipts, hrestated.id_eq, filter_rewritten hf]
  constructor
  · refine hledger.restate hrestated hopen (fun receipt hreceipt => ?_) ?_
    · exact (hledger.receipt_attempt receipt hreceipt).rewritten hkeysOf hmemOf hactive.2.2
        fun hboth => hdelivered hboth.2
    · exact hledger.idle_rewritten hkeysOf hmemOf hactive.2.2 hdelivering
  · exact hbounded.rewritten hkeysOf hmemOf (hf active).2.2 hdelivered hrestated.next_eq

/-- Moving an idle delivery to another status keeps the ledger. -/
lemma Consistent.moved (h : Consistent tables delivery response)
    (hidle : ∀ attempt ∈ tables.attemptsOf delivery.id, attempt.status ≠ .delivering)
    (hopen : delivery.status ≠ .delivered)
    (hrestated : Restated delivery response delivery' response')
    (hattempts : tables'.attempts = tables.attempts)
    (hreceipts : tables'.receipts = tables.receipts) :
    Consistent tables' delivery' response' := by
  obtain ⟨hledger, hbounded⟩ := h
  unfold Consistent DeliveryTables.attemptsOf DeliveryTables.receiptsOf
  rw [hattempts, hreceipts, hrestated.id_eq]
  refine ⟨hledger.restate hrestated hopen hledger.receipt_attempt hidle, ?_, ?_⟩
  · rw [hrestated.next_eq]
    exact hbounded.part_le
  · rw [hrestated.next_eq]
    exact hbounded.delivered_lt

/-- A new attempt for the next part keeps the ledger. -/
lemma Consistent.started (h : Consistent tables delivery response)
    (hstatus : delivery.status = .delivering)
    (hidle : ∀ attempt ∈ tables.attempts, ¬ IsActive delivery.id delivery.nextPartOrdinal attempt)
    {attemptNumber : ℕ}
    (hattempts : tables'.attempts = tables.attempts ++
      [newAttempt delivery delivery.nextPartOrdinal attemptNumber attemptId])
    (hreceipts : tables'.receipts = tables.receipts) : Consistent tables' delivery response := by
  obtain ⟨hledger, hbounded⟩ := h
  have hnone := hledger.idle_of_not_active hidle
  have hfilter : tables'.attemptsOf delivery.id = tables.attemptsOf delivery.id ++
      [newAttempt delivery delivery.nextPartOrdinal attemptNumber attemptId] := by
    unfold DeliveryTables.attemptsOf
    rw [hattempts, List.filter_append, List.filter_cons_of_pos, List.filter_nil]
    exact decide_eq_true rfl
  have hreceiptsOf : tables'.receiptsOf delivery.id = tables.receiptsOf delivery.id := by
    rw [DeliveryTables.receiptsOf, hreceipts, DeliveryTables.receiptsOf]
  unfold Consistent
  rw [hfilter, hreceiptsOf]
  constructor
  · refine ⟨hledger.receipts_eq, ?_, hledger.next_le, hledger.next_eq_iff, hledger.token_iff,
      hledger.claimedAt_iff, ?_, ?_, hledger.agrees⟩
    · intro receipt hreceipt
      obtain ⟨attempt, hattempt, hid, honly⟩ := hledger.receipt_attempt receipt hreceipt
      refine ⟨attempt, List.mem_append_left _ hattempt, hid, ?_⟩
      intro other hother
      rcases mem_concat.mp hother with hold | rfl
      · exact honly other hold
      · -- the new attempt is on its way, not delivered
        refine ⟨fun hboth => DeliveryAttemptStatus.noConfusion hboth.2, fun heq => ?_⟩
        have hdelivered := ((honly attempt hattempt).mpr rfl).2
        rw [← heq] at hdelivered
        cases hdelivered
    · intro a ha b hb hactiveA hactiveB
      rcases mem_concat.mp ha with hold | rfl
      · exact absurd hactiveA (hnone a hold)
      · rcases mem_concat.mp hb with hold' | rfl
        · exact absurd hactiveB (hnone b hold')
        · rfl
    · intro attempt hmem hactive
      rcases mem_concat.mp hmem with hold | rfl
      · exact absurd hactive (hnone attempt hold)
      · exact ⟨hstatus, rfl⟩
  · constructor
    · intro attempt hmem
      rcases mem_concat.mp hmem with hold | rfl
      · exact hbounded.part_le attempt hold
      · exact le_rfl
    · intro attempt hmem hdelivered
      rcases mem_concat.mp hmem with hold | rfl
      · exact hbounded.delivered_lt attempt hold hdelivered
      · cases hdelivered

/-- The new receipt belongs to the attempt that has just been delivered, and the old receipts keep
theirs. -/
lemma Ledger.receipt_delivered (h : Ledger delivery response attempts receipts)
    (hbounded : Bounded delivery attempts) (hkeys : UniqueKeys DeliveryAttempt.id attempts)
    (hmem : active ∈ attempts) (hactive : IsActive delivery.id delivery.nextPartOrdinal active)
    (payload : String) (messageId : Option String) (now : Timestamp) :
    ∀ receipt ∈ receipts ++
        [newReceipt delivery delivery.nextPartOrdinal active.id messageId payload now],
      Receipted (updateWhere (fun row : DeliveryAttempt => row.id = active.id)
        (fun row => row.delivered messageId payload now) attempts) receipt := by
  intro receipt hreceipt
  rcases mem_concat.mp hreceipt with hold | rfl
  · refine (h.receipt_attempt receipt hold).rewritten hkeys hmem hactive.2.2 fun hboth => ?_
    -- the attempt just delivered is for a later part
    have hbehind : receipt.partOrdinal < delivery.nextPartOrdinal := by
      rw [← List.mem_range, ← h.receipts_eq]
      exact List.mem_map_of_mem hold
    exact hbehind.ne' (hactive.2.1.symm.trans hboth.1)
  · refine ⟨active.delivered messageId payload now, (mem_rewritten hkeys hmem).mpr (Or.inl rfl),
      rfl, ?_⟩
    intro other hother
    rcases (mem_rewritten hkeys hmem).mp hother with rfl | ⟨hotherOld, hne⟩
    · exact ⟨fun _ => rfl, fun _ => ⟨hactive.2.1, rfl⟩⟩
    · refine ⟨fun hboth => ?_, fun heq => absurd (congrArg DeliveryAttempt.id heq) hne⟩
      exact absurd hboth.1 (hbounded.delivered_lt other hotherOld hboth.2).ne

lemma advanced_id (delivery : DeliveryOutboxRecord) (partOrdinal : ℕ) (finalPart : Bool)
    (now : Timestamp) : (delivery.advanced partOrdinal finalPart now).id = delivery.id := by
  unfold DeliveryOutboxRecord.advanced
  split_ifs <;> rfl

/-- A delivered part with its receipt keeps the ledger. -/
lemma Consistent.delivered (hkeys : Keyed tables) (h : Consistent tables delivery response)
    (hmem : active ∈ tables.attempts)
    (hactive : IsActive delivery.id delivery.nextPartOrdinal active) {payload : String}
    {messageId : Option String} {now : Timestamp}
    (hattempts : tables'.attempts = updateWhere (fun row : DeliveryAttempt => row.id = active.id)
      (fun row => row.delivered messageId payload now) tables.attempts)
    (hreceipts : tables'.receipts = tables.receipts ++
      [newReceipt delivery delivery.nextPartOrdinal active.id messageId payload now]) :
    Consistent tables'
      (delivery.advanced delivery.nextPartOrdinal
        (decide (delivery.nextPartOrdinal + 1 = response.partCount)) now)
      (if delivery.nextPartOrdinal + 1 = response.partCount then response.delivered now
        else response) := by
  obtain ⟨hledger, hbounded⟩ := h
  have hkeysOf := hkeys.attemptsOf delivery.id
  have hmemOf : active ∈ tables.attemptsOf delivery.id := mem_attemptsOf.mpr ⟨hmem, hactive.1⟩
  have hstatus := (hledger.active_at active hmemOf hactive.2.2).1
  have hlt : delivery.nextPartOrdinal < response.partCount :=
    hledger.next_lt (by simp [hstatus])
  have hattemptsOf : tables'.attemptsOf delivery.id =
      updateWhere (fun row : DeliveryAttempt => row.id = active.id)
        (fun row => row.delivered messageId payload now) (tables.attemptsOf delivery.id) := by
    have hkeeps : KeepsIdentity fun row => row.delivered messageId payload now :=
      fun _ => ⟨rfl, rfl, rfl⟩
    rw [DeliveryTables.attemptsOf, hattempts]
    exact filter_rewritten hkeeps active.id delivery.id
  have hreceiptsOf : tables'.receiptsOf delivery.id = tables.receiptsOf delivery.id ++
      [newReceipt delivery delivery.nextPartOrdinal active.id messageId payload now] := by
    unfold DeliveryTables.receiptsOf
    rw [hreceipts, List.filter_append, List.filter_cons_of_pos, List.filter_nil]
    exact decide_eq_true rfl
  have hidle := hledger.idle_rewritten hkeysOf hmemOf hactive.2.2
    (f := fun row => row.delivered messageId payload now) DeliveryAttemptStatus.noConfusion
  have hbounded' : ∀ attempt ∈ updateWhere (fun row : DeliveryAttempt => row.id = active.id)
      (fun row => row.delivered messageId payload now) (tables.attemptsOf delivery.id),
      attempt.partOrdinal < delivery.nextPartOrdinal + 1 := by
    intro attempt hattempt
    rcases (mem_rewritten hkeysOf hmemOf).mp hattempt with rfl | ⟨hold, -⟩
    · exact Nat.lt_succ_of_le (hbounded.part_le active hmemOf)
    · exact Nat.lt_succ_of_le (hbounded.part_le attempt hold)
  have hreceiptParts : (tables.receiptsOf delivery.id ++ [newReceipt delivery
      delivery.nextPartOrdinal active.id messageId payload now]).map DeliveryReceipt.partOrdinal =
      List.range (delivery.nextPartOrdinal + 1) := by
    rw [List.map_append, hledger.receipts_eq, List.range_succ]
    rfl
  have hown := hledger.receipt_delivered hbounded hkeysOf hmemOf hactive payload messageId now
  unfold Consistent
  rw [advanced_id, hattemptsOf, hreceiptsOf]
  -- after the last part the response is delivered too
  by_cases hfinal : delivery.nextPartOrdinal + 1 = response.partCount
  · rw [if_pos hfinal, decide_eq_true hfinal]
    refine ⟨.of_idle hidle hreceiptParts hown hlt ⟨fun _ => rfl, fun _ => hfinal⟩ ?_ ?_ rfl,
      fun attempt hattempt => (hbounded' attempt hattempt).le,
      fun attempt hattempt _ => hbounded' attempt hattempt⟩
    · exact unclaimed_iff rfl DeliveryStatus.noConfusion
    · exact unclaimed_iff rfl DeliveryStatus.noConfusion
  · rw [if_neg hfinal, decide_eq_false hfinal]
    refine ⟨.of_idle hidle hreceiptParts hown hlt ⟨fun heq => absurd heq hfinal, fun h => ?_⟩
      hledger.token_iff hledger.claimedAt_iff hledger.agrees,
      fun attempt hattempt => (hbounded' attempt hattempt).le,
      fun attempt hattempt _ => hbounded' attempt hattempt⟩
    change delivery.status = .delivered at h
    rw [hstatus] at h
    cases h

/-- Every write keeps the ledger of the delivery it is about. -/
theorem Write.consistent (hkeys : Keyed tables) (h : Consistent tables delivery response)
    (hwrite : Write tables call delivery response delivery' response' tables'.attempts
      tables'.receipts) : Consistent tables' delivery' response' := by
  have hledger := h.1
  generalize hattempts : tables'.attempts = attempts at hwrite
  generalize hreceipts : tables'.receipts = receipts at hwrite
  cases hwrite with
  | claimed hcall hstatus =>
    have hopen : delivery.status ≠ .delivered := by simp [hstatus]
    have hidle : delivery.status ≠ .delivering := by simp [hstatus]
    exact h.moved (hledger.idle hidle) hopen ⟨rfl, rfl, rfl, DeliveryStatus.noConfusion,
      ⟨fun _ => rfl, fun _ => rfl⟩, ⟨fun _ => rfl, fun _ => rfl⟩, rfl⟩ hattempts hreceipts
  | @released _ partOrdinal hstatus hidle =>
    have hopen : delivery.status ≠ .delivered := by simp [hstatus]
    refine h.moved (hledger.idle_of_not_active hidle) hopen ⟨rfl, rfl, rfl,
      DeliveryStatus.noConfusion, unclaimed_iff rfl DeliveryStatus.noConfusion,
      unclaimed_iff rfl DeliveryStatus.noConfusion, ?_⟩ hattempts hreceipts
    · change ResponseAgrees .queued (if partOrdinal = 0 then .generated else .delivering)
      split_ifs
      · exact Or.inl rfl
      · exact Or.inr rfl
  | expired hstatus hmem hactive =>
    exact h.finished hkeys hmem hactive hattempts hreceipts (fun _ => ⟨rfl, rfl, rfl⟩)
      DeliveryAttemptStatus.noConfusion DeliveryAttemptStatus.noConfusion ⟨rfl, rfl, rfl,
      DeliveryStatus.noConfusion, unclaimed_iff rfl DeliveryStatus.noConfusion,
      unclaimed_iff rfl DeliveryStatus.noConfusion, rfl⟩
  | started hcall hstatus hidle => exact h.started hstatus hidle hattempts hreceipts
  | delivered hcall hstatus hmem hactive => exact h.delivered hkeys hmem hactive hattempts hreceipts
  -- no plan of a failed attempt ends in a delivery
  | @finished _ _ plan errorCode now hcall hstatus hmem hactive =>
    have hagrees := hledger.agrees
    rw [hstatus] at hagrees
    have hended : plan.attemptStatus ≠ .delivering ∧ plan.attemptStatus ≠ .delivered ∧
        plan.deliveryStatus ≠ .delivered ∧ plan.deliveryStatus ≠ .delivering := by
      rcases Call.finish?_cases hcall with ⟨h, h', -⟩ | ⟨h, h', -⟩ | ⟨h, h', -⟩ <;> simp [h, h']
    have hcount : (plan.response errorCode now response).partCount = response.partCount := by
      unfold FinishPlan.response
      split <;> rfl
    refine h.finished hkeys hmem hactive hattempts hreceipts (fun _ => ⟨rfl, rfl, rfl⟩) hended.1
      hended.2.1 ⟨rfl, rfl, hcount, hended.2.2.1, unclaimed_iff rfl hended.2.2.2,
      unclaimed_iff rfl hended.2.2.2, ?_⟩
    · change ResponseAgrees plan.deliveryStatus (plan.response errorCode now response).status
      unfold FinishPlan.response
      rcases Call.finish?_cases hcall with ⟨-, h, h'⟩ | ⟨-, h, h'⟩ | ⟨-, h, h'⟩ <;> rw [h, h']
      · exact Or.inr hagrees
      · rfl
      · rfl
  | retried hcall hstatus =>
    have hstatus' := status_of_retryable hstatus
    have hopen : delivery.status ≠ .delivered := by rcases hstatus' with h | h <;> simp [h]
    have hidle : delivery.status ≠ .delivering := by rcases hstatus' with h | h <;> simp [h]
    refine h.moved (hledger.idle hidle) hopen ⟨rfl, rfl, rfl, DeliveryStatus.noConfusion,
      unclaimed_iff rfl DeliveryStatus.noConfusion, unclaimed_iff rfl DeliveryStatus.noConfusion,
      ?_⟩ hattempts hreceipts
    · change ResponseAgrees .queued (if 0 < delivery.nextPartOrdinal then .delivering else .generated)
      split_ifs
      · exact Or.inr rfl
      · exact Or.inl rfl

end Writes

/-! ## Whole runs -/

section Runs

variable {digests : Digests} {tables tables' : DeliveryTables} {call : Call}
  {delivery : DeliveryOutboxRecord}

/-- Every delivery is consistent with its response, its attempts and its receipts. -/
def AllConsistent (tables : DeliveryTables) : Prop :=
  ∀ delivery ∈ tables.deliveries, ∀ response ∈ tables.responses,
    response.responseId = delivery.responseId → Consistent tables delivery response

lemma AllConsistent.of_mem (h : AllConsistent tables) (hkeys : Keyed tables)
    (hmem : delivery ∈ tables.deliveries) :
    ∃ response ∈ tables.responses, response.responseId = delivery.responseId ∧
      Consistent tables delivery response := by
  obtain ⟨response, hresponse, hof⟩ := hkeys.response delivery hmem
  exact ⟨response, hresponse, hof, h delivery hmem response hresponse hof⟩

/-- One step keeps every ledger. -/
lemma TablesStep.consistent (hkeys : Keyed tables) (h : AllConsistent tables)
    (hstep : TablesStep digests tables call tables') : AllConsistent tables' := by
  intro delivery hdelivery response hresponse hof
  rcases hstep.rows hkeys hdelivery hresponse hof with
    ⟨hdeliveryOld, hresponseOld, hattempts, hreceipts⟩ |
    ⟨old, hold, oldResponse, holdResponse, hofOld, hwrite⟩ |
    ⟨-, hstatus, hnext, htoken, hclaimedAt, hgenerated, hcount, hattempts, hreceipts⟩
  · unfold Consistent
    rw [hattempts, hreceipts]
    exact h delivery hdeliveryOld response hresponseOld hof
  · exact hwrite.consistent hkeys (h old hold oldResponse holdResponse hofOld)
  · unfold Consistent
    rw [hattempts, hreceipts]
    refine ⟨.of_idle ?_ ?_ ?_ ?_ ?_ ?_ ?_ ?_, ?_, ?_⟩
    · rintro _ ⟨⟩
    · rw [hnext]
      rfl
    · rintro _ ⟨⟩
    · rw [hnext]
      exact Nat.zero_le _
    · rw [hnext, hstatus]
      exact ⟨fun hzero => absurd hzero hcount.ne, fun h => DeliveryStatus.noConfusion h⟩
    · exact unclaimed_iff htoken (by simp [hstatus])
    · exact unclaimed_iff hclaimedAt (by simp [hstatus])
    · rw [hstatus]
      exact Or.inl hgenerated
    · rintro _ ⟨⟩
    · rintro _ ⟨⟩

/-- The ledgers hold after every run. -/
lemma tablesAfter_consistent (digests : Digests) (calls : List Call) :
    AllConsistent (tablesAfter digests calls) := by
  have hboth : Keyed (tablesAfter digests calls) ∧ AllConsistent (tablesAfter digests calls) := by
    refine run_invariant (P := fun tables => Keyed tables ∧ AllConsistent tables) ?_ ?_ calls
    · rintro tables call ⟨hkeys, h⟩
      have hstep : TablesStep digests tables call (step digests tables call) := step_cases hkeys
      exact ⟨hstep.keyed hkeys, hstep.consistent hkeys h⟩
    · exact ⟨initial_keyed, by rintro _ ⟨⟩⟩
  exact hboth.2

/-- A computation that does not end in a response conflict. -/
abbrev NoResponseConflict {α : Type} (result : Except DeliveryStoreError α) : Prop :=
  RaisesOnly (fun error => ∀ deliveryId expected, error ≠ .responseConflict deliveryId expected)
    result

variable {deliveryId attemptId partOrdinal : ℕ} {claimToken : String}

lemma noResponseConflict_requiredString {value fieldName : String} {maxLength : ℕ} :
    NoResponseConflict (requiredString value fieldName maxLength) := by
  unfold requiredString
  refine RaisesOnly.check (by simp) fun _ => ?_
  refine RaisesOnly.check (by simp) fun _ => ?_
  exact raisesOnly_ok _

lemma noResponseConflict_requiredDelivery :
    NoResponseConflict (requiredDelivery deliveryId tables) := by
  unfold requiredDelivery
  split
  · exact raisesOnly_error (by simp)
  · exact raisesOnly_ok _

lemma noResponseConflict_claimedDelivery :
    NoResponseConflict (claimedDelivery deliveryId claimToken tables) := by
  unfold claimedDelivery
  refine RaisesOnly.bind noResponseConflict_requiredString fun _ _ => ?_
  refine RaisesOnly.bind noResponseConflict_requiredDelivery fun _ _ => ?_
  refine RaisesOnly.check (by simp) fun _ => ?_
  exact raisesOnly_ok _

lemma noResponseConflict_claimedPart :
    NoResponseConflict (claimedPart deliveryId claimToken partOrdinal tables) := by
  unfold claimedPart
  refine RaisesOnly.bind noResponseConflict_claimedDelivery fun _ _ => ?_
  refine RaisesOnly.check (by simp) fun _ => ?_
  exact raisesOnly_ok _

lemma noResponseConflict_requiredAttempt :
    NoResponseConflict (requiredAttempt attemptId deliveryId partOrdinal tables) := by
  unfold requiredAttempt
  split
  · exact raisesOnly_error (by simp)
  · refine RaisesOnly.check (by simp) fun _ => ?_
    exact raisesOnly_ok _

lemma noResponseConflict_updateDelivery {expected : String} {guard : DeliveryOutboxRecord → Prop}
    [DecidablePred guard] {values : DeliveryOutboxRecord → DeliveryOutboxRecord}
    {deliveries : List DeliveryOutboxRecord} :
    NoResponseConflict (updateDelivery deliveryId expected guard values deliveries) := by
  unfold updateDelivery
  split
  · exact raisesOnly_ok _
  · exact raisesOnly_error (by simp)

section Reachable

variable (hkeys : Keyed tables) (h : AllConsistent tables) {expected : ResponseStatus}
  {values : ResponseRecord → ResponseRecord}
include hkeys h

/-- The update of the response does not conflict when it covers the statuses that fit the
delivery's. -/
lemma noResponseConflict_updateResponse (hmem : delivery ∈ tables.deliveries)
    {statuses : List ResponseStatus}
    (hfits : ∀ status, ResponseAgrees delivery.status status → status ∈ statuses) :
    NoResponseConflict (updateResponse deliveryId expected delivery.responseId statuses values
      tables.responses) := by
  obtain ⟨response, hresponse, hof, hledger, -⟩ := h.of_mem hkeys hmem
  rw [← hof, updateResponse_eq hkeys.responses hresponse, if_pos (hfits _ hledger.agrees)]
  exact raisesOnly_ok _

/-- While a delivery is being delivered its response is too. -/
lemma noResponseConflict_delivering (hmem : delivery ∈ tables.deliveries)
    (hstatus : delivery.status = .delivering) :
    NoResponseConflict (updateResponse deliveryId expected delivery.responseId [.delivering] values
      tables.responses) := by
  refine noResponseConflict_updateResponse hkeys h hmem fun status hagrees => ?_
  rw [hstatus] at hagrees
  exact List.mem_singleton.mpr hagrees

variable {now : Timestamp} {channel token : String}

lemma noResponseConflict_claimDelivery :
    NoResponseConflict (claimDelivery deliveryId channel token now tables) := by
  unfold claimDelivery
  split
  · exact raisesOnly_ok _
  · rename_i deliveries hupdate
    obtain ⟨-, delivery, hmem, rfl, hclaimable⟩ := guardedUpdate_eq_some hupdate
    rw [hkeys.deliveries.guardedUpdate_eq hmem, if_pos hclaimable,
      hkeys.deliveries.updateWhere_const hmem] at hupdate
    obtain rfl := Option.some.inj hupdate
    have hid : (delivery.claimed token now).id = delivery.id := rfl
    rw [hkeys.deliveries.find?_replace hmem hid]
    refine RaisesOnly.bind ?_ fun _ _ => raisesOnly_ok _
    refine noResponseConflict_updateResponse hkeys h hmem fun status hagrees => ?_
    rw [hclaimable.1] at hagrees
    simpa [ResponseAgrees] using hagrees

lemma noResponseConflict_claimTries (tries : ℕ) :
    NoResponseConflict (claimTries channel token now tries tables) := by
  induction tries with
  | zero => exact raisesOnly_ok _
  | succ tries ih =>
    unfold claimTries
    split
    · exact raisesOnly_ok _
    · split
      · rename_i deliveryId _ _ error herror
        exact raisesOnly_error (noResponseConflict_claimDelivery hkeys h _ herror)
      · exact raisesOnly_ok _
      · exact ih

lemma noResponseConflict_recoverClaim {cutoff : Timestamp} :
    NoResponseConflict (recoverClaim deliveryId channel cutoff now tables) := by
  unfold recoverClaim
  split
  · exact raisesOnly_ok _
  · rename_i delivery hget
    obtain ⟨hmem, rfl⟩ := get_eq_some hget
    split
    · rename_i token hstatus htoken
      refine RaisesOnly.bind ?_ fun _ _ => raisesOnly_ok _
      unfold reclaimDelivery
      split
      · exact raisesOnly_ok _
      · split
        · split
          · exact raisesOnly_ok _
          · exact (noResponseConflict_delivering hkeys h hmem hstatus).bind fun _ _ =>
              raisesOnly_ok _
        · exact (noResponseConflict_delivering hkeys h hmem hstatus).bind fun _ _ =>
            raisesOnly_ok _
    · exact raisesOnly_ok _

lemma noResponseConflict_markPartDelivered {payload : String} {messageId : Option String} :
    NoResponseConflict (markPartDelivered deliveryId claimToken attemptId partOrdinal payload
      messageId now tables) := by
  unfold markPartDelivered
  refine RaisesOnly.bind noResponseConflict_claimedPart fun delivery hclaimed => ?_
  refine RaisesOnly.bind noResponseConflict_requiredAttempt fun active _ => ?_
  refine RaisesOnly.check (by simp) fun _ => ?_
  refine RaisesOnly.check (by simp) fun _ => ?_
  obtain ⟨hmem, rfl, hstatus, -⟩ := claimedPart_eq_ok hclaimed
  split
  · exact raisesOnly_error (by simp)
  · refine RaisesOnly.bind noResponseConflict_updateDelivery fun _ _ => ?_
    refine RaisesOnly.bind ?_ fun _ _ => ?_
    · unfold deliverResponse
      split_ifs
      · exact noResponseConflict_delivering hkeys h hmem hstatus
      · exact raisesOnly_ok _
    · refine RaisesOnly.check (by simp) fun _ => ?_
      exact raisesOnly_ok _

lemma noResponseConflict_finishAttempt {errorCode : String} {plan : FinishPlan} :
    NoResponseConflict (finishAttempt deliveryId claimToken attemptId plan errorCode now
      tables) := by
  unfold finishAttempt
  refine RaisesOnly.bind noResponseConflict_claimedDelivery fun delivery hclaimed => ?_
  refine RaisesOnly.bind noResponseConflict_requiredAttempt fun active _ => ?_
  refine RaisesOnly.check (by simp) fun _ => ?_
  refine RaisesOnly.bind noResponseConflict_requiredString fun _ _ => ?_
  refine RaisesOnly.bind noResponseConflict_updateDelivery fun _ _ => ?_
  obtain ⟨hmem, rfl, hstatus, -⟩ := claimedDelivery_eq_ok hclaimed
  refine RaisesOnly.bind ?_ fun _ _ => raisesOnly_ok _
  unfold finishResponse
  split
  · exact raisesOnly_ok _
  · exact noResponseConflict_delivering hkeys h hmem hstatus

lemma noResponseConflict_retry {allowUncertain : Bool} {availableAt : Option Timestamp} :
    NoResponseConflict (retry deliveryId allowUncertain availableAt now tables) := by
  unfold retry
  refine RaisesOnly.bind noResponseConflict_requiredDelivery fun delivery hrequired => ?_
  refine RaisesOnly.check (by simp) fun hallowed => ?_
  refine RaisesOnly.bind noResponseConflict_updateDelivery fun _ _ => ?_
  obtain ⟨hmem, rfl⟩ := requiredDelivery_eq_ok hrequired
  refine RaisesOnly.bind ?_ fun _ _ => raisesOnly_ok _
  refine noResponseConflict_updateResponse hkeys h hmem fun status hagrees => ?_
  rw [List.mem_singleton]
  rcases status_of_retryable (not_not.mp hallowed) with hstatus | hstatus <;>
    rw [hstatus] at hagrees ⊢ <;> exact hagrees

/-- No call finds a response in a status it does not expect. -/
lemma attempt_ne_responseConflict (call : Call) (deliveryId : ℕ) (expected : String) :
    attempt digests tables call ≠ .error (.store (.responseConflict deliveryId expected)) := by
  have hstored : ∀ {α : Type} {f : α → DeliveryTables} {result : Except DeliveryStoreError α},
      NoResponseConflict result →
      stored f result ≠ .error (.store (.responseConflict deliveryId expected)) := by
    intro α f result hresult heq
    unfold stored at heq
    split at heq
    · cases heq
    · rename_i error
      cases heq
      exact hresult _ rfl _ _ rfl
  cases call with
  | saveGenerated outcome target id now =>
    unfold attempt
    dsimp only
    split <;> simp
  | claimNext channel claimToken now =>
    refine hstored ?_
    unfold claimNext
    refine RaisesOnly.bind noResponseConflict_requiredString fun _ _ => ?_
    refine RaisesOnly.bind noResponseConflict_requiredString fun _ _ => ?_
    exact noResponseConflict_claimTries hkeys h 8
  | recoverClaim id channel cutoff now => exact hstored (noResponseConflict_recoverClaim hkeys h)
  | startAttempt id claimToken partOrdinal attemptId =>
    refine hstored ?_
    unfold startAttempt
    refine RaisesOnly.bind noResponseConflict_claimedPart fun _ _ => ?_
    split
    · exact raisesOnly_ok _
    · unfold insertAttempt
      split_ifs
      · split
        · exact raisesOnly_ok _
        · exact raisesOnly_error (by simp)
      · exact raisesOnly_ok _
  | markPartDelivered id claimToken attemptId partOrdinal payload messageId now =>
    exact hstored (noResponseConflict_markPartDelivered hkeys h)
  | markAttemptRetryable | markAttemptFailed | markAttemptUncertain =>
    exact hstored (noResponseConflict_finishAttempt hkeys h)
  | retry id allowUncertain availableAt now => exact hstored (noResponseConflict_retry hkeys h)

end Reachable

section Sweep

/-- Whether an attempt of the delivery is on its way. -/
def inFlight (tables : DeliveryTables) (deliveryId : ℕ) : Bool :=
  tables.attempts.any fun attempt => attempt.status = .delivering ∧ attempt.deliveryId = deliveryId

variable (channel : String) (cutoff now : Timestamp)

/-- On a stale claim a round of `recover_stale_claims` goes through: the delivery is taken back, and
an attempt of it that is on its way is given up. -/
lemma recoverClaim_stale (hkeys : Keyed tables) (h : AllConsistent tables)
    (hmem : delivery ∈ tables.deliveries) (hstale : IsStale channel cutoff delivery) :
    ∃ recovered, recoverClaim delivery.id channel cutoff now tables = .ok recovered ∧
      recovered.deliveries = updateWhere (fun row : DeliveryOutboxRecord => row.id = delivery.id)
        (fun _ => delivery.reclaimed (inFlight tables delivery.id) now) tables.deliveries ∧
      recovered.attempts = updateWhere (fun attempt : DeliveryAttempt =>
        attempt.status = .delivering ∧ attempt.deliveryId = delivery.id)
        (fun attempt => attempt.expired now) tables.attempts ∧
      recovered.receipts = tables.receipts := by
  obtain ⟨hchannel, hstatus, hclaimed, hclaimedAt⟩ := hstale
  obtain ⟨token, htoken⟩ := Option.ne_none_iff_exists'.mp hclaimed
  obtain ⟨response, hresponse, hof, hledger, -⟩ := h.of_mem hkeys hmem
  have hdelivering : response.status ∈ [ResponseStatus.delivering] := by
    have hagrees := hledger.agrees
    rw [hstatus] at hagrees
    exact List.mem_singleton.mpr hagrees
  have hget : get delivery.id tables = some delivery := hkeys.deliveries.find?_eq hmem
  have hguard : StaleUnder channel token cutoff delivery := ⟨hchannel, hstatus, htoken, hclaimedAt⟩
  -- an attempt on its way is the one `_active_attempt` looks for
  have hisActive : ∀ attempt ∈ tables.attempts, attempt.status = .delivering →
      attempt.deliveryId = delivery.id → IsActive delivery.id delivery.nextPartOrdinal attempt := by
    intro attempt hattempt hactive hdelivery
    have hat := hledger.active_at attempt (mem_attemptsOf.mpr ⟨hattempt, hdelivery⟩) hactive
    exact ⟨hdelivery, hat.2, hactive⟩
  simp only [recoverClaim, hget, hstatus, htoken, reclaimDelivery]
  rw [hkeys.deliveries.guardedUpdate_eq hmem, if_pos hguard,
    hkeys.deliveries.updateWhere_const hmem, ← hof]
  simp only [updateResponse_eq hkeys.responses hresponse, if_pos hdelivering]
  cases hfound : activeAttempt delivery.id delivery.nextPartOrdinal tables with
  | none =>
    have hnone : ∀ attempt ∈ tables.attempts,
        ¬ (attempt.status = .delivering ∧ attempt.deliveryId = delivery.id) :=
      fun attempt hattempt hactive => activeAttempt_eq_none.mp hfound attempt hattempt
        (hisActive attempt hattempt hactive.1 hactive.2)
    have hidle : inFlight tables delivery.id = false :=
      List.any_eq_false.mpr fun attempt hattempt => by simpa using hnone attempt hattempt
    rw [hidle, updateWhere_eq_self hnone]
    exact ⟨_, rfl, rfl, rfl, rfl⟩
  | some active =>
    obtain ⟨hattempt, hactive⟩ := activeAttempt_eq_some hfound
    have hflying : inFlight tables delivery.id = true :=
      List.any_eq_true.mpr ⟨active, hattempt, by simp [hactive.1, hactive.2.2]⟩
    have hone : updateWhere (fun row : DeliveryAttempt => row.id = active.id)
        (fun row => row.expired now) tables.attempts =
        updateWhere (fun attempt : DeliveryAttempt =>
          attempt.status = .delivering ∧ attempt.deliveryId = delivery.id)
          (fun attempt => attempt.expired now) tables.attempts := by
      refine List.map_congr_left fun row hrow => if_congr ?_ rfl rfl
      constructor
      · intro hid
        rw [hkeys.attempts.eq_of_key_eq hrow hattempt hid]
        exact ⟨hactive.2.2, hactive.1⟩
      · rintro ⟨hrowActive, hrowOf⟩
        rw [hledger.active_unique row (mem_attemptsOf.mpr ⟨hrow, hrowOf⟩) active
          (mem_attemptsOf.mpr ⟨hattempt, hactive.1⟩) hrowActive hactive.2.2]
    simp only [hkeys.attempts.guardedUpdate_eq hattempt, if_pos hactive.2.2, hone, hflying]
    exact ⟨_, rfl, rfl, rfl, rfl⟩

/-- An attempt that has been given up is not on its way, and the others are as they were. -/
lemma inFlight_updateWhere {other : ℕ} (hne : other ≠ deliveryId)
    (hattempts : tables'.attempts = updateWhere
      (fun attempt : DeliveryAttempt =>
        attempt.status = .delivering ∧ attempt.deliveryId = deliveryId)
      (fun attempt => attempt.expired now) tables.attempts) :
    inFlight tables' other = inFlight tables other := by
  unfold inFlight
  rw [hattempts, updateWhere, List.any_map]
  refine congrArg (List.any tables.attempts) (funext fun attempt => ?_)
  by_cases hgiven : attempt.status = .delivering ∧ attempt.deliveryId = deliveryId
  · have hother : attempt.deliveryId ≠ other := fun heq => hne (heq.symm.trans hgiven.2)
    simp [hgiven, DeliveryAttempt.expired, hne.symm]
  · simp [hgiven]

/-- The loop over stale deliveries takes them all back. -/
lemma recoverClaims_stale (digests : Digests) (ids : List ℕ) (hnodup : ids.Nodup)
    (hkeys : Keyed tables) (h : AllConsistent tables)
    (hstale : ∀ id ∈ ids, ∃ delivery ∈ tables.deliveries, delivery.id = id ∧
      IsStale channel cutoff delivery) :
    let result := recoverClaims channel cutoff now ids tables
    result.2 = none ∧ result.1.receipts = tables.receipts ∧
    result.1.deliveries = updateWhere (fun delivery : DeliveryOutboxRecord => delivery.id ∈ ids)
      (fun delivery => delivery.reclaimed (inFlight tables delivery.id) now) tables.deliveries ∧
    result.1.attempts = updateWhere (fun attempt : DeliveryAttempt =>
      attempt.status = .delivering ∧ attempt.deliveryId ∈ ids)
      (fun attempt => attempt.expired now) tables.attempts := by
  induction ids generalizing tables with
  | nil =>
    exact ⟨rfl, rfl, (updateWhere_eq_self (by simp)).symm, (updateWhere_eq_self (by simp)).symm⟩
  | cons id rest ih =>
    obtain ⟨hid, hrest⟩ := List.nodup_cons.mp hnodup
    obtain ⟨delivery, hmem, rfl, hstaleFirst⟩ := hstale id List.mem_cons_self
    obtain ⟨recovered, hround, hrow, hgiven, hkept⟩ :=
      recoverClaim_stale channel cutoff now hkeys h hmem hstaleFirst
    have hcases : TablesStep digests tables (.recoverClaim delivery.id channel cutoff now)
        recovered := recoverClaim_step hkeys hround
    obtain ⟨hnone, hreceipts, hdeliveries, hattempts⟩ := ih hrest (hcases.keyed hkeys)
      (hcases.consistent hkeys h) fun other hother => by
        obtain ⟨row, hmemRow, rfl, hrowStale⟩ := hstale other (List.mem_cons_of_mem _ hother)
        have hne : row.id ≠ delivery.id := fun heq => hid (heq ▸ hother)
        exact ⟨row, hrow.symm ▸ mem_updateWhere_of_not hmemRow hne, rfl, hrowStale⟩
    simp only [recoverClaims, hround]
    refine ⟨hnone, hreceipts.trans hkept, hdeliveries.trans ?_, hattempts.trans ?_⟩
    · simp only [hrow, updateWhere, List.map_map]
      refine List.map_congr_left fun row hmemRow => ?_
      by_cases hfirst : row.id = delivery.id
      · cases hkeys.deliveries.eq_of_key_eq hmemRow hmem hfirst
        simp [DeliveryOutboxRecord.reclaimed, hid]
      · simp [hfirst, inFlight_updateWhere now hfirst hgiven]
    · simp only [hgiven, updateWhere, List.map_map]
      refine List.map_congr_left fun attempt _ => ?_
      by_cases hfirst : attempt.status = .delivering ∧ attempt.deliveryId = delivery.id
      · simp [hfirst, DeliveryAttempt.expired]
      · have hiff : (attempt.status = .delivering ∧ attempt.deliveryId ∈ delivery.id :: rest) ↔
            attempt.status = .delivering ∧ attempt.deliveryId ∈ rest := by
          rw [List.mem_cons]
          tauto
        simp only [Function.comp_apply, if_neg hfirst, hiff]

/-- What the loop does to the deliveries its scan has found. -/
lemma recoverClaims_staleDeliveries (digests : Digests) (hkeys : Keyed tables)
    (h : AllConsistent tables) :
    let result := recoverClaims channel cutoff now (staleDeliveries channel cutoff tables) tables
    result.2 = none ∧ result.1.receipts = tables.receipts ∧
    result.1.deliveries = updateWhere (IsStale channel cutoff)
      (fun delivery => delivery.reclaimed (inFlight tables delivery.id) now) tables.deliveries ∧
    result.1.attempts = updateWhere (fun attempt : DeliveryAttempt => attempt.status = .delivering ∧
        ∃ delivery ∈ tables.deliveries, delivery.id = attempt.deliveryId ∧
          IsStale channel cutoff delivery)
      (fun attempt => attempt.expired now) tables.attempts := by
  have hmem : ∀ id, id ∈ staleDeliveries channel cutoff tables ↔
      ∃ delivery ∈ tables.deliveries, delivery.id = id ∧ IsStale channel cutoff delivery := by
    intro id
    simp only [staleDeliveries, List.mem_map, List.mem_insertionSort, List.mem_filter,
      decide_eq_true_eq, and_assoc]
    exact exists_congr fun delivery => and_congr_right fun _ => and_comm
  have hnodup : (staleDeliveries channel cutoff tables).Nodup :=
    ((List.perm_insertionSort _ _).map _).nodup_iff.mpr
      (hkeys.deliveries.sublist (List.filter_sublist.map _))
  obtain ⟨hnone, hreceipts, hdeliveries, hattempts⟩ := recoverClaims_stale channel cutoff now
    digests _ hnodup hkeys h fun id hid => (hmem id).mp hid
  refine ⟨hnone, hreceipts, hdeliveries.trans ?_, hattempts.trans ?_⟩
  · refine List.map_congr_left fun row hrow => if_congr ((hmem _).trans ?_) rfl rfl
    constructor
    · rintro ⟨delivery, hdelivery, hid, hstale⟩
      rwa [← hkeys.deliveries.eq_of_key_eq hdelivery hrow hid]
    · exact fun hstale => ⟨row, hrow, rfl, hstale⟩
  · exact List.map_congr_left fun row _ => if_congr (and_congr_right fun _ => hmem _) rfl rfl

end Sweep

end Runs

/-- The delivery ledger. After every run of committed calls, in whatever order workers, stale-claim
scans and operators commit them and whichever of them fail:

* each delivery has exactly one response, and its receipts are exactly the parts before the next
  one, each tied to the one delivered attempt of its part; the next part is at most the number of
  parts, and equal to it exactly when the delivery is delivered; it carries a claim exactly while
  it is being delivered; at most one attempt is on its way, for the next part of a delivery that is
  being delivered; and the response has the status that goes with the delivery's,
* no call finds the response in another status, so the branches that raise for it are never
  taken. -/
theorem delivery_ledger (digests : Digests) (calls : List Call) :
    (∀ delivery ∈ (tablesAfter digests calls).deliveries,
      ∃ response ∈ (tablesAfter digests calls).responses,
        response.responseId = delivery.responseId ∧
        (∀ other ∈ (tablesAfter digests calls).responses,
          other.responseId = delivery.responseId → other = response) ∧
        Ledger delivery response ((tablesAfter digests calls).attemptsOf delivery.id)
          ((tablesAfter digests calls).receiptsOf delivery.id)) ∧
    (∀ call deliveryId expected, attempt digests (tablesAfter digests calls) call ≠
      .error (.store (.responseConflict deliveryId expected))) ∧
    ∀ channel staleBefore now deliveryId expected,
      (recoverStaleClaims channel staleBefore now (tablesAfter digests calls)).2 ≠
        some (.responseConflict deliveryId expected) := by
  have hkeys := tablesAfter_keyed digests calls
  have h := tablesAfter_consistent digests calls
  refine ⟨?_, attempt_ne_responseConflict hkeys h, ?_⟩
  · intro delivery hdelivery
    obtain ⟨response, hresponse, hof, hledger, -⟩ := h.of_mem hkeys hdelivery
    refine ⟨response, hresponse, hof, ?_, hledger⟩
    intro other hother hotherOf
    exact hkeys.responses.eq_of_key_eq hother hresponse (hotherOf.trans hof.symm)
  · intro channel staleBefore now deliveryId expected
    unfold recoverStaleClaims
    split
    · rename_i error herror
      intro heq
      exact noResponseConflict_requiredString _ herror _ _ (Option.some.inj heq)
    · split_ifs
      · simp
      · rw [(recoverClaims_staleDeliveries _ _ _ digests hkeys h).1]
        exact nofun

/-- The sweep. `recover_stale_claims` takes one transaction for each delivery its scan has found; in
every reachable state none of them fails, and together they do what two statements over the whole
tables would do: every stale claim on the channel is taken back, to UNCERTAIN when an attempt was on
its way and to the queue otherwise; those attempts are given up; no other delivery, attempt or
receipt changes, and no claim on the channel is stale any more. -/
theorem recoverStaleClaims_sweeps (digests : Digests) (calls : List Call) (channel cleaned : String)
    (staleBefore now : Timestamp)
    (hchannel : requiredString channel "channel" maxChannelLength = .ok cleaned)
    (hnow : staleBefore ≤ now) :
    let tables := tablesAfter digests calls
    let result := recoverStaleClaims channel staleBefore now tables
    result.2 = none ∧ result.1.receipts = tables.receipts ∧
    result.1.deliveries = updateWhere (IsStale cleaned staleBefore)
      (fun delivery => delivery.reclaimed (inFlight tables delivery.id) now) tables.deliveries ∧
    result.1.attempts = updateWhere (fun attempt : DeliveryAttempt => attempt.status = .delivering ∧
        ∃ delivery ∈ tables.deliveries, delivery.id = attempt.deliveryId ∧
          IsStale cleaned staleBefore delivery)
      (fun attempt => attempt.expired now) tables.attempts ∧
    ∀ delivery ∈ result.1.deliveries, ¬ IsStale cleaned staleBefore delivery := by
  intro tables result
  have hresult : result = recoverClaims cleaned staleBefore now
      (staleDeliveries cleaned staleBefore tables) tables := by
    show recoverStaleClaims channel staleBefore now tables = _
    rw [recoverStaleClaims, hchannel]
    exact if_neg (not_lt.mpr hnow)
  obtain ⟨hnone, hreceipts, hdeliveries, hattempts⟩ := recoverClaims_staleDeliveries cleaned
    staleBefore now digests (tablesAfter_keyed digests calls) (tablesAfter_consistent digests calls)
  rw [hresult]
  refine ⟨hnone, hreceipts, hdeliveries, hattempts, fun delivery hmem hstale => ?_⟩
  rw [hdeliveries] at hmem
  rcases updateWhere_cases hmem with ⟨-, hnot⟩ | ⟨row, -, -, rfl⟩
  · exact hnot hstale
  · exact hstale.2.2.1 rfl

/-- A delivery that is claimed at time 0, with an attempt on its way. -/
def claimedCalls : List Call :=
  [.saveGenerated ⟨7, "workspace", "thread", "answer", none, none, none⟩
      ⟨"wechat", "account", "chat"⟩ 1 0,
    .claimNext "wechat" "a" 0, .startAttempt 1 "a" 0 1]

/-- A claim that has gone stale with an attempt on its way. -/
theorem recoverStaleClaims_sweeps_uncertain :
    ((recoverStaleClaims " wechat" 5 9 (tablesAfter constantDigests claimedCalls)).1.deliveries.map
      DeliveryOutboxRecord.status) = [.uncertain] ∧
    ((recoverStaleClaims " wechat" 5 9 (tablesAfter constantDigests claimedCalls)).1.attempts.map
      DeliveryAttempt.status) = [.uncertain] := by
  obtain ⟨-, -, hdeliveries, hattempts, -⟩ := recoverStaleClaims_sweeps constantDigests claimedCalls
    " wechat" "wechat" 5 9 (by decide +kernel) (by decide)
  rw [hdeliveries, hattempts]
  decide +kernel

end AgentGateway.Delivery
