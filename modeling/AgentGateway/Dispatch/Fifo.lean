import AgentGateway.Dispatch.System

/-!
# Per-thread order of dispatches

The records of one AI thread are worked off in the order of their `(created_at, id)` keys. A claim
goes through only when everything before it in the thread is finished and nothing else of the
thread is running; since a finished record stays finished, an open record holds back all later
ones for as long as it is open.
-/

namespace AgentGateway.Dispatch

open Lib Lib.Table Lib.Run

/-- A finished record: its dispatch succeeded or was given up. -/
def HermesDispatchRecord.Finished (record : HermesDispatchRecord) : Prop :=
  record.status = .success ∨ record.status = .dead

section Steps

variable {records : List HermesDispatchRecord} {tables : DispatchTables} {call : Call}
  {record record' : HermesDispatchRecord}

lemma finished_of_not_blocking (h : record.status ∉ blockingStatuses) : record.Finished := by
  unfold HermesDispatchRecord.Finished
  cases hstatus : record.status <;> simp_all [blockingStatuses]

/-- No call touches a finished record. -/
lemma Move.eq_of_finished (h : Move records call record record') (hfin : record.Finished) :
    record' = record := by
  rcases h.eq_or_status with hsame | hopen
  · exact hsame
  · rcases hfin with hfin | hfin <;> simp [hfin] at hopen

/-- Finished records stay in the table as they are. -/
lemma step_keeps_finished (hmem : record ∈ tables.records) (hfin : record.Finished)
    (call : Call) : record ∈ (step tables call).records := by
  obtain ⟨record', hmem', hmove⟩ := step_persists hmem call
  rwa [← hmove.eq_of_finished hfin]

lemma Call.completedStatus_ne (call : Call) (record : HermesDispatchRecord) :
    call.completedStatus record ≠ .running ∧ call.completedStatus record ≠ .queued := by
  cases call with
  | markFailed id token errorCode retryLimit dbNow =>
    simp only [Call.completedStatus, failedStatus]
    split
    · exact ⟨nofun, nofun⟩
    · split_ifs <;> exact ⟨nofun, nofun⟩
  | _ => exact ⟨nofun, nofun⟩

/-- A record that runs after a step was running before it, under the same claim, or has just been
claimed. -/
lemma Move.running_cases (h : Move records call record record')
    (hrunning : record'.status = .running) :
    (record.status = .running ∧ record'.claimToken = record.claimToken) ∨
      ∃ token lease retryLimit now, call = .claim record.id token lease retryLimit now ∧
        ClaimGuard record.id retryLimit.toNat records record ∧
        record'.claimToken = some token := by
  cases h with
  | stay => exact Or.inl ⟨hrunning, rfl⟩
  | claimed hcall hguard => exact Or.inr ⟨_, _, _, _, hcall, hguard, rfl⟩
  | renewed hheld => exact Or.inl ⟨hheld.2.1, rfl⟩
  | completed => exact absurd hrunning (call.completedStatus_ne record).1
  | exhausted | expired => cases hrunning
  | @resolved _ afterStatus hcall =>
    -- recovery only sets failed, dead or success
    have hstatus : afterStatus = .running := hrunning
    subst hstatus
    cases call <;> simp [Call.recovery?] at hcall

/-- The invariant of the table: ids are unique and a thread has at most one running record. -/
structure ThreadsExclusive (records : List HermesDispatchRecord) : Prop where
  ids : UniqueKeys HermesDispatchRecord.id records
  running : ∀ a ∈ records, ∀ b ∈ records, a.status = .running → b.status = .running →
    a.aiThreadId = b.aiThreadId → a.id = b.id

/-- The idle guard of a claim rules out a second running record of the thread. -/
lemma not_running_of_guard {recordId retryLimit : ℕ} {other : HermesDispatchRecord}
    (hguard : ClaimGuard recordId retryLimit records record) (hother : other ∈ records)
    (hrunning : other.status = .running) (hthread : other.aiThreadId = record.aiThreadId) :
    other.id = record.id := by
  by_contra hne
  exact hguard.2.2.2 other hother ⟨hthread, hne, hrunning⟩

lemma step_threadsExclusive (h : ThreadsExclusive tables.records) (call : Call) :
    ThreadsExclusive (step tables call).records := by
  refine ⟨step_uniqueIds h.ids, ?_⟩
  intro a' ha' b' hb' hra hrb hthread
  -- a new record is queued, so both running ones come from before the step
  have horigin : ∀ r' ∈ (step tables call).records, r'.status = .running →
      ∃ r ∈ tables.records, Move tables.records call r r' := by
    intro r' hr' hrunning
    rcases step_origin hr' with h | ⟨_, target, id, at', -, -, rfl, -⟩
    · exact h
    · cases hrunning
  obtain ⟨a, ha, hma⟩ := horigin a' ha' hra
  obtain ⟨b, hb, hmb⟩ := horigin b' hb' hrb
  obtain ⟨hida, -, htha, -⟩ := hma.identity
  obtain ⟨hidb, -, hthb, -⟩ := hmb.identity
  rw [htha, hthb] at hthread
  rw [hida, hidb]
  rcases hma.running_cases hra with ⟨hra', -⟩ | ⟨_, _, _, _, hca, hga, -⟩
  · rcases hmb.running_cases hrb with ⟨hrb', -⟩ | ⟨_, _, _, _, hcb, hgb, -⟩
    · exact h.running a ha b hb hra' hrb' hthread
    · exact not_running_of_guard hgb ha hra' hthread
  · rcases hmb.running_cases hrb with ⟨hrb', -⟩ | ⟨_, _, _, _, hcb, hgb, -⟩
    · exact (not_running_of_guard hga hb hrb' hthread.symm).symm
    · rw [hca] at hcb
      exact (Call.claim.inj hcb).1

end Steps

/-! ## Whole runs -/

section Runs

variable {threads : List AIThread} {calls more : List Call} {record : HermesDispatchRecord}

lemma tablesAfter_append : tablesAfter threads (calls ++ more) =
    run step (tablesAfter threads calls) more :=
  run_append calls more

theorem tablesAfter_threadsExclusive (threads : List AIThread) (calls : List Call) :
    ThreadsExclusive (tablesAfter threads calls).records := by
  have hinitial : ThreadsExclusive (initial threads).records :=
    ⟨List.nodup_nil, fun a ha => by cases ha⟩
  exact run_invariant (P := fun tables : DispatchTables => ThreadsExclusive tables.records)
    (fun tables call h => step_threadsExclusive h call) hinitial calls

/-- A record stays in the table, with its place in its thread, over any further calls. -/
lemma run_persists {tables : DispatchTables} (hmem : record ∈ tables.records)
    (more : List Call) :
    ∃ record' ∈ (run step tables more).records, record'.id = record.id ∧
      record'.aiThreadId = record.aiThreadId ∧ record'.createdAt = record.createdAt := by
  induction more generalizing tables record with
  | nil => exact ⟨record, hmem, rfl, rfl, rfl⟩
  | cons call more ih =>
    obtain ⟨next, hnext, hmove⟩ := step_persists hmem call
    obtain ⟨hid, -, hthread, hcreated⟩ := hmove.identity
    obtain ⟨record', hmem', hid', hthread', hcreated'⟩ := ih hnext
    exact ⟨record', hmem', hid'.trans hid, hthread'.trans hthread, hcreated'.trans hcreated⟩

/-- What a committed claim says about its thread. -/
lemma claim_head {tables tables' : DispatchTables} {recordId : ℕ} {token : String} {lease : ℕ}
    {retryLimit : Int} {now : Timestamp}
    (h : attempt tables (.claim recordId token lease retryLimit now) = some tables') :
    ∃ record ∈ tables.records, record.id = recordId ∧
      (∀ prior ∈ tables.records, prior.aiThreadId = record.aiThreadId → IsPrior prior record →
        prior.Finished) ∧
      ∀ other ∈ tables.records, other.aiThreadId = record.aiThreadId → other.id ≠ record.id →
        other.status ≠ .running := by
  obtain ⟨record, hmem, hguard, -⟩ := claim_guard h
  refine ⟨record, hmem, hguard.1, ?_, ?_⟩
  · intro prior hprior hthread hbefore
    refine finished_of_not_blocking fun hblocking => ?_
    exact hguard.2.2.1 prior hprior ⟨hthread, hbefore, hblocking⟩
  · intro other hother hthread hne hrunning
    exact hguard.2.2.2 other hother ⟨hthread, hne, hrunning⟩

end Runs

/-- Per-thread order and blocking, at any point of any run: a claim that goes through, be it alone
or out of `claim_next`, has only finished records before it and no running one beside it; a
finished record is never touched again; a thread has at most one running record; and a record of
the table, as long as it is open, keeps every later record of its thread from being claimed. -/
theorem thread_fifo_and_blocking (threads : List AIThread) (calls : List Call) :
    (∀ recordId token lease retryLimit now tables',
      attempt (tablesAfter threads calls) (.claim recordId token lease retryLimit now) =
        some tables' →
      ∃ record ∈ (tablesAfter threads calls).records, record.id = recordId ∧
        (∀ prior ∈ (tablesAfter threads calls).records,
          prior.aiThreadId = record.aiThreadId → IsPrior prior record →
          prior.status = .success ∨ prior.status = .dead) ∧
        ∀ other ∈ (tablesAfter threads calls).records,
          other.aiThreadId = record.aiThreadId → other.id ≠ record.id →
          other.status ≠ .running) ∧
    (∀ token lease retryLimit now dbNow others recordId,
      (claimNext token lease retryLimit now dbNow others (tablesAfter threads calls)).2 =
        some recordId →
      ∃ before, attempt (tablesAfter threads (calls ++ before))
          (.claim recordId token lease retryLimit now) =
        some (claimNext token lease retryLimit now dbNow others (tablesAfter threads calls)).1) ∧
    (∀ call, ∀ record ∈ (tablesAfter threads calls).records,
      record.status = .success ∨ record.status = .dead →
      record ∈ (step (tablesAfter threads calls) call).records) ∧
    (∀ a ∈ (tablesAfter threads calls).records, ∀ b ∈ (tablesAfter threads calls).records,
      a.status = .running → b.status = .running → a.aiThreadId = b.aiThreadId → a = b) ∧
    (∀ record ∈ (tablesAfter threads calls).records, ∀ more,
      ∀ later ∈ (tablesAfter threads (calls ++ more)).records,
      later.aiThreadId = record.aiThreadId → IsPrior record later →
      ∀ token lease retryLimit now tables',
      attempt (tablesAfter threads (calls ++ more)) (.claim later.id token lease retryLimit now) =
        some tables' →
      ∃ record' ∈ (tablesAfter threads (calls ++ more)).records, record'.id = record.id ∧
        (record'.status = .success ∨ record'.status = .dead)) := by
  refine ⟨?_, ?_, ?_, ?_, ?_⟩
  · intro recordId token lease retryLimit now tables' h
    exact claim_head h
  · intro token lease retryLimit now dbNow others recordId h
    obtain ⟨-, -, hclaim⟩ := claimNext_run dbNow others (tablesAfter threads calls)
    obtain ⟨before, hattempt⟩ := hclaim recordId h
    exact ⟨before, by rw [tablesAfter_append, hattempt]⟩
  · intro call record hmem hfin
    exact step_keeps_finished hmem hfin call
  · intro a ha b hb hra hrb hthread
    have hexclusive := tablesAfter_threadsExclusive threads calls
    exact hexclusive.ids.eq_of_key_eq ha hb (hexclusive.running a ha b hb hra hrb hthread)
  · intro record hmem more later hlater hthread hprior token lease retryLimit now tables' h
    have hids := (tablesAfter_threadsExclusive threads (calls ++ more)).ids
    obtain ⟨claimed, hclaimed, hid, hhead, -⟩ := claim_head h
    obtain rfl := hids.eq_of_key_eq hclaimed hlater hid
    rw [tablesAfter_append] at hclaimed hhead ⊢
    obtain ⟨record', hmem', hid', hthread', hcreated'⟩ := run_persists hmem more
    refine ⟨record', hmem', hid', hhead record' hmem' (hthread'.trans hthread.symm) ?_⟩
    rwa [IsPrior, hid', hcreated']

end AgentGateway.Dispatch
