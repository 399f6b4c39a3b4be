import AgentGateway.Dispatch.Execution

/-!
# The attempts of a record

A record may be claimed once, `retry_limit` times more, and once for each retry an operator has
approved: an approved retry is a claim still to come, and its audit pays for it.
-/

namespace AgentGateway.Dispatch

open Lib Lib.Table Lib.Run

/-- The retry limit of a worker that claims. -/
def Call.claimLimit : Call → ℕ
  | .claim _ _ _ retryLimit _ => retryLimit.toNat
  | _ => 0

/-- The attempts of a record are within its limit. -/
structure WithinBudget (limit approved : ℕ) (record : HermesDispatchRecord) : Prop where
  queued : record.status = .queued → record.attemptCount = 0
  failed : record.manualRetryApproved = true → record.status = .failed
  bounded : record.attemptCount + (if record.manualRetryApproved then 1 else 0) ≤
    limit + 1 + approved

variable {limit approved approved' : ℕ} {records : List HermesDispatchRecord} {call : Call}
  {record record' : HermesDispatchRecord}

/-- A claimable record has a claim left. -/
lemma WithinBudget.claimable (h : WithinBudget limit approved record) {retryLimit : ℕ}
    (hle : retryLimit ≤ limit) (hclaimable : Claimable retryLimit record) :
    record.attemptCount + 1 ≤ limit + 1 + approved := by
  have hbounded := h.bounded
  rcases hclaimable with hqueued | ⟨-, hless | hmanual⟩
  · rw [h.queued hqueued]
    omega
  · omega
  · rwa [hmanual, if_pos rfl] at hbounded

/-- Outside of FAILED no retry is approved. -/
lemma WithinBudget.of_status_ne (h : WithinBudget limit approved record)
    (hstatus : record.status ≠ .failed) : record.manualRetryApproved = false :=
  Bool.eq_false_iff.mpr fun hmanual => hstatus (h.failed hmanual)

/-- A record that is neither queued nor approved needs only its count. -/
lemma WithinBudget.spent (h : WithinBudget limit approved record) (hle : approved ≤ approved')
    (hcount : record'.attemptCount = record.attemptCount) (hqueued : record'.status ≠ .queued)
    (hmanual : record'.manualRetryApproved = false) : WithinBudget limit approved' record' := by
  refine ⟨fun h => absurd h hqueued, fun h => absurd (hmanual.symm.trans h) Bool.false_ne_true, ?_⟩
  have hbounded := h.bounded
  rw [hmanual, if_neg Bool.false_ne_true, hcount]
  omega

lemma Move.withinBudget (hmove : Move records call record record')
    (h : WithinBudget limit approved record) (hlimit : call.claimLimit ≤ limit)
    (hle : approved ≤ approved')
    (hpaid : call.recovery? = some (record.id, .retryApproved, .failed) →
      record.status = .uncertain → record'.status = .failed → approved < approved') :
    WithinBudget limit approved' record' := by
  have hkept : WithinBudget limit approved' record :=
    ⟨h.queued, h.failed, h.bounded.trans (Nat.add_le_add_left hle _)⟩
  cases hmove with
  | stay => exact hkept
  | renewed => exact ⟨hkept.queued, hkept.failed, hkept.bounded⟩
  | claimed hcall hguard =>
    subst hcall
    exact ⟨HermesDispatchStatus.noConfusion, Bool.noConfusion, hkept.claimable hlimit hguard.2.1⟩
  | completed hcall hheld =>
    have hmanual := h.of_status_ne (by rw [hheld.2.1]; decide)
    exact h.spent hle rfl (call.completedStatus_ne record).2 hmanual
  | exhausted hexhausted =>
    exact h.spent hle rfl HermesDispatchStatus.noConfusion hexhausted.2.2
  | expired hcall hexpired =>
    have hmanual := h.of_status_ne (by rw [hexpired.1]; decide)
    exact h.spent hle rfl HermesDispatchStatus.noConfusion hmanual
  | resolved hcall huncertain =>
    have hbounded := h.bounded
    rw [h.of_status_ne (by rw [huncertain]; decide), if_neg Bool.false_ne_true] at hbounded
    cases call <;>
      simp only [Call.recovery?, Option.some.injEq, Prod.mk.injEq, reduceCtorEq] at hcall
    case retryApproved request =>
      obtain ⟨hid, rfl, rfl⟩ := hcall
      have hless := hpaid (by rw [Call.recovery?, hid]) huncertain rfl
      refine ⟨HermesDispatchStatus.noConfusion, fun _ => rfl, ?_⟩
      change record.attemptCount + 1 ≤ _
      omega
    all_goals
      obtain ⟨-, rfl, rfl⟩ := hcall
      exact h.spent hle rfl HermesDispatchStatus.noConfusion rfl

/-- **Bounded attempts.** Whatever workers and operators do, in any order and with any clocks, the
`attempt_count` of a record, which each claim raises, stays within the first claim, those that the
limit allows and one for each retry that an operator has approved. -/
theorem attempts_within_budget (threads : List AIThread) (calls : List Call) (limit : ℕ)
    (hlimit : ∀ call ∈ calls, call.claimLimit ≤ limit) :
    ∀ record ∈ (tablesAfter threads calls).records,
      record.attemptCount ≤ limit + 1 + approvals (tablesAfter threads calls) record.id := by
  have hall : UniqueKeys HermesDispatchRecord.id (tablesAfter threads calls).records ∧
      ∀ record ∈ (tablesAfter threads calls).records,
        WithinBudget limit (approvals (tablesAfter threads calls) record.id) record := by
    unfold tablesAfter
    refine run_invariant_of_mem (P := fun tables =>
      UniqueKeys HermesDispatchRecord.id tables.records ∧ ∀ record ∈ tables.records,
        WithinBudget limit (approvals tables record.id) record) ?_ ?_
    · intro tables call hcall ⟨hids, hbudget⟩
      refine ⟨step_uniqueIds hids, fun record' hmem' => ?_⟩
      rcases step_origin hmem' with ⟨record, hmem, hmove⟩ | ⟨_, target, id, createdAt, -, -, rfl, -⟩
      · rw [hmove.identity.1]
        exact hmove.withinBudget (hbudget record hmem) (hlimit call hcall)
          (approvals_le_step tables call record.id) fun hrecovery huncertain hfailed =>
            approvals_lt_of_resolved hids hmem hmem' hmove.identity.1 hrecovery huncertain hfailed
      · exact ⟨fun _ => rfl, Bool.noConfusion, Nat.zero_le _⟩
    · exact ⟨List.nodup_nil, fun _ h => absurd h List.not_mem_nil⟩
  intro record hmem
  exact (Nat.le_add_right _ _).trans (hall.2 record hmem).bounded

/-- A record uses up both attempts that a limit of one allows. -/
def failedTwice : List Call :=
  [.enqueue (.allowedFor 7 "identity" "workspace" "thread") 1 0, .claim 1 "a" 10 1 0,
    .markFailed 1 "a" "error" (some 1) 5, .claim 1 "b" 10 1 6, .markFailed 1 "b" "error" (some 1) 7,
    .claim 1 "c" 10 1 8]

theorem attempts_within_budget_failedTwice :
    (tablesAfter [] failedTwice).records.map (·.attemptCount) = [2] ∧
      ∀ record ∈ (tablesAfter [] failedTwice).records, record.attemptCount ≤
        1 + 1 + approvals (tablesAfter [] failedTwice) record.id :=
  ⟨by decide +kernel, attempts_within_budget [] failedTwice 1 (by decide)⟩

end AgentGateway.Dispatch
