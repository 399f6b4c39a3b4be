import AgentGateway.Dispatch.Fifo

/-!
# Claim fencing

A claim is granted to a token by `claim` and is held while its record runs under that token. It
ends with one terminal write of its holder or with the lease scan, and from then on its token is
worthless: no later call that carries it can change anything. Clocks are arbitrary, for the
application as well as for the database, so nothing here depends on how time passes.

The only assumption is that granted tokens are pairwise distinct; the code draws them as UUIDs.
-/

namespace AgentGateway.Dispatch

open Lib Lib.Table Lib.Run

/-! ## Grants, holders, ends -/

/-- The record runs under this token. -/
def Holds (tables : DispatchTables) (recordId : ℕ) (token : String) : Prop :=
  ∃ record ∈ tables.records, record.id = recordId ∧ record.status = .running ∧
    record.claimToken = some token

instance (tables : DispatchTables) (recordId : ℕ) (token : String) :
    Decidable (Holds tables recordId token) :=
  inferInstanceAs (Decidable (∃ record ∈ tables.records, _ ∧ _ ∧ _))

/-- The call is a `claim` that goes through. -/
def Grants (tables : DispatchTables) (call : Call) (recordId : ℕ) (token : String) : Prop :=
  ∃ lease retryLimit now, call = .claim recordId token lease retryLimit now ∧
    (attempt tables call).isSome

/-- The call takes the record away from the token. -/
def Ends (tables : DispatchTables) (call : Call) (recordId : ℕ) (token : String) : Prop :=
  Holds tables recordId token ∧ ¬ Holds (step tables call) recordId token

/-- The record, the token and the clock reading of a call that acts under a claim. -/
def Call.fenced? : Call → Option (ℕ × String × Timestamp)
  | .renewLease recordId token _ now => some (recordId, token, now)
  | call => call.completion?

/-- No two claims of the run are granted to the same token. -/
def TokensDistinct (threads : List AIThread) (calls : List Call) : Prop :=
  ∀ pre call mid call' post, calls = pre ++ call :: (mid ++ call' :: post) →
    ∀ recordId token recordId' token',
      Grants (tablesAfter threads pre) call recordId token →
      Grants (tablesAfter threads (pre ++ call :: mid)) call' recordId' token' →
      token ≠ token'

/-! ## One step -/

section Steps

variable {records : List HermesDispatchRecord} {tables : DispatchTables} {call : Call}
  {record record' : HermesDispatchRecord} {recordId : ℕ} {token : String} {clock : Timestamp}

lemma step_eq_of_attempt_eq_none (h : attempt tables call = none) : step tables call = tables := by
  rw [step, h, Option.getD_none]

/-- A call under a claim commits only while that claim is held and its lease lies ahead. -/
lemma held_of_fenced (hfenced : call.fenced? = some (recordId, token, clock))
    (hchanged : step tables call ≠ tables) :
    ∃ record ∈ tables.records, HeldUntilAfter recordId token clock record := by
  obtain ⟨tables', hattempt⟩ : ∃ tables', attempt tables call = some tables' := by
    by_contra hnone
    exact hchanged (step_eq_of_attempt_eq_none (Option.eq_none_iff_forall_ne_some.mpr
      fun tables' h => hnone ⟨tables', h⟩))
  cases call with
  | renewLease recordId' token' lease now =>
    obtain ⟨records, hrenew, -⟩ := withRecords_eq_some hattempt
    cases hfenced
    exact (renewLease_eq_ok hrenew).2
  | markSuccess | markFailed | markUncertain | markDead | completeSuccess =>
    exact (attempt_completion hattempt hfenced).2
  | _ => cases hfenced

lemma HeldUntilAfter.holds (h : HeldUntilAfter recordId token clock record)
    (hmem : record ∈ tables.records) :
    Holds tables recordId token :=
  ⟨record, hmem, h.1, h.2.1, h.2.2.1⟩

/-- A record that runs under a token after a step did so before, or the step claimed it. -/
lemma Move.holds_cases (h : Move records call record record')
    (hrunning : record'.status = .running) (htoken : record'.claimToken = some token) :
    (record.status = .running ∧ record.claimToken = some token) ∨
      ∃ lease retryLimit now, call = .claim record.id token lease retryLimit now := by
  rcases h.running_cases hrunning with ⟨hrun, hkept⟩ |
    ⟨token', lease, retryLimit, now, hcall, -, hclaimed⟩
  · exact Or.inl ⟨hrun, hkept.symm.trans htoken⟩
  · cases hclaimed.symm.trans htoken
    exact Or.inr ⟨lease, retryLimit, now, hcall⟩

/-- The step after which a token holds a record it did not hold before is its grant. -/
lemma grants_of_switch (hbefore : ¬ Holds tables recordId token)
    (hafter : Holds (step tables call) recordId token) : Grants tables call recordId token := by
  obtain ⟨record', hmem', rfl, hrunning, htoken⟩ := hafter
  rcases step_origin hmem' with ⟨record, hmem, hmove⟩ | ⟨_, target, id, at', -, -, rfl, -⟩
  · rcases hmove.holds_cases hrunning htoken with ⟨hrun, htok⟩ | ⟨lease, retryLimit, now, hcall⟩
    · exact absurd ⟨record, hmem, hmove.identity.1.symm, hrun, htok⟩ hbefore
    · rw [← hmove.identity.1] at hcall
      refine ⟨lease, retryLimit, now, hcall, ?_⟩
      -- a claim that raised would have left the tables, and with them the holder, unchanged
      by_contra hnone
      rw [Option.not_isSome_iff_eq_none] at hnone
      rw [step_eq_of_attempt_eq_none hnone] at hmem'
      exact hbefore ⟨record', hmem', rfl, hrunning, htoken⟩
  · cases hrunning

/-- What can end a claim: a terminal write of the holder, or the lease scan. -/
lemma Ends.cases (h : Ends tables call recordId token) :
    (∃ dbNow, call.completion? = some (recordId, token, dbNow)) ∨
    ∃ now retryLimit dbNow, call = .finalizeExhausted now retryLimit dbNow ∧
      ∃ record ∈ tables.records, record.id = recordId ∧ record.claimToken = some token ∧
        Expired now record := by
  obtain ⟨⟨record, hmem, rfl, hrunning, htoken⟩, hafter⟩ := h
  obtain ⟨record', hmem', hmove⟩ := step_persists hmem call
  have hnot : ∀ status : HermesDispatchStatus, record.status = status → status = .running :=
    fun status hstatus => hstatus.symm.trans hrunning
  cases hmove with
  | stay => exact absurd ⟨record, hmem', rfl, hrunning, htoken⟩ hafter
  | claimed hcall hguard =>
    rcases hguard.2.1 with hqueued | hfailed
    · cases hnot _ hqueued
    · cases hnot _ hfailed.1
  | renewed =>
    exact absurd ⟨_, hmem', rfl, hrunning, htoken⟩ hafter
  | @completed token' _ dbNow hcall hheld =>
    have htoken' : token' = token := Option.some.inj (hheld.2.2.1.symm.trans htoken)
    rw [htoken'] at hcall
    exact Or.inl ⟨dbNow, hcall⟩
  | exhausted hexhausted => cases hnot _ hexhausted.1
  | @expired now retryLimit dbNow hcall hexpired =>
    exact Or.inr ⟨now, retryLimit, dbNow, hcall, record, hmem, rfl, htoken, hexpired⟩
  | resolved hcall huncertain => cases hnot _ huncertain

end Steps

/-! ## Whole runs -/

section Runs

variable {threads : List AIThread} {calls pre post pre' post' : List Call} {call call' : Call}
  {recordId recordId' : ℕ} {token : String} {clock : Timestamp}

lemma tablesAfter_concat (pre : List Call) (call : Call) :
    tablesAfter threads (pre ++ [call]) = step (tablesAfter threads pre) call :=
  run_concat pre call

/-- A held claim has been granted at some point of the run and held ever since. -/
lemma exists_grant_of_holds (h : Holds (tablesAfter threads calls) recordId token) :
    ∃ pre grant since, calls = pre ++ grant :: since ∧
      Grants (tablesAfter threads pre) grant recordId token ∧
      ∀ mid, mid <+: since → Holds (tablesAfter threads (pre ++ grant :: mid)) recordId token := by
  have hinitial : ¬ Holds (initial threads) recordId token := by
    rintro ⟨record, hmem, -⟩
    cases hmem
  obtain ⟨pre, grant, since, hcalls, hbefore, hsince⟩ :=
    exists_last_switch (P := fun tables => Holds tables recordId token) hinitial h
  refine ⟨pre, grant, since, hcalls, ?_, hsince⟩
  refine grants_of_switch hbefore ?_
  have hfirst := hsince [] List.nil_prefix
  rwa [run_concat] at hfirst

/-- In a run with distinct tokens a token is granted once. -/
lemma grant_unique (hdistinct : TokensDistinct threads calls)
    (hcalls : calls = pre ++ call :: post) (hcalls' : calls = pre' ++ call' :: post')
    (hgrant : Grants (tablesAfter threads pre) call recordId token)
    (hgrant' : Grants (tablesAfter threads pre') call' recordId' token) :
    pre = pre' ∧ recordId = recordId' := by
  rcases positions_cases (hcalls.symm.trans hcalls') with
    ⟨hpre, hcall, -⟩ | ⟨mid, rfl, rfl⟩ | ⟨mid, rfl, rfl⟩
  · obtain ⟨lease, retryLimit, now, rfl, -⟩ := hgrant
    obtain ⟨lease', retryLimit', now', hcall', -⟩ := hgrant'
    rw [← hcall] at hcall'
    exact ⟨hpre, (Call.claim.inj hcall').1⟩
  · exact absurd rfl (hdistinct _ _ _ _ _ hcalls _ _ _ _ hgrant hgrant')
  · exact absurd rfl (hdistinct _ _ _ _ _ hcalls' _ _ _ _ hgrant' hgrant)

/-- Once a claim has ended, its token holds nothing any more. -/
lemma not_holds_after_end (hdistinct : TokensDistinct threads calls)
    (hcalls : calls = pre ++ call :: (pre' ++ post))
    (hends : Ends (tablesAfter threads pre) call recordId token) :
    ¬ Holds (tablesAfter threads (pre ++ call :: pre')) recordId' token := by
  intro hholds
  obtain ⟨before, grant, since, rfl, hgrant, -⟩ := exists_grant_of_holds hends.1
  obtain ⟨before', grant', since', hsplit, hgrant', hheld⟩ := exists_grant_of_holds hholds
  have hcalls₁ : calls = before ++ grant :: (since ++ call :: (pre' ++ post)) := by
    rw [hcalls]
    simp
  have hcalls₂ : calls = before' ++ grant' :: (since' ++ post) := by
    rw [hcalls]
    have := congrArg (· ++ post) hsplit
    simpa using this
  obtain ⟨rfl, rfl⟩ := grant_unique hdistinct hcalls₁ hcalls₂ hgrant hgrant'
  -- the grant is the same one, so the claim was held at the very step that ended it
  have hsince : grant' :: since' = grant :: (since ++ call :: pre') := by
    have := hsplit.symm
    simpa using this
  obtain ⟨rfl, rfl⟩ := List.cons.inj hsince
  have hprefix : since ++ [call] <+: since ++ call :: pre' :=
    ⟨pre', by simp⟩
  have hstill := hheld (since ++ [call]) hprefix
  rw [← List.cons_append, ← List.append_assoc, tablesAfter_concat] at hstill
  exact hends.2 hstill

/-- Granted tokens are distinct when all tokens drawn for claims are. -/
lemma tokensDistinct_of_nodup
    (h : (calls.filterMap fun call =>
      match call with
      | .claim _ token _ _ _ => some token
      | _ => none).Nodup) : TokensDistinct threads calls := by
  rintro pre call mid call' post rfl recordId token recordId' token' ⟨lease, limit, now, rfl, -⟩
    ⟨lease', limit', now', rfl, -⟩ rfl
  simp only [List.filterMap_append, List.filterMap_cons] at h
  rw [List.nodup_append] at h
  have hcons := h.2.1
  rw [List.nodup_cons] at hcons
  exact hcons.1 (List.mem_append_right _ List.mem_cons_self)

end Runs

/-- Claim fencing, in any run whose granted tokens are pairwise distinct: a call under a token
changes something only while the record runs under the one claim that was granted to this token,
with its lease ahead of the call's clock; a claim ends at most once, by a terminal write of its
holder or by the lease scan; and after that no call with its token changes any table. -/
theorem claim_fencing (threads : List AIThread) (calls : List Call)
    (hdistinct : TokensDistinct threads calls) :
    (∀ pre call post recordId token clock, calls = pre ++ call :: post →
      call.fenced? = some (recordId, token, clock) →
      step (tablesAfter threads pre) call ≠ tablesAfter threads pre →
      (∃ record ∈ (tablesAfter threads pre).records, record.id = recordId ∧
        record.status = .running ∧ record.claimToken = some token ∧
        ∃ expiry ∈ record.leaseExpiresAt, clock < expiry) ∧
      ∃ before grant since, pre = before ++ grant :: since ∧
        Grants (tablesAfter threads before) grant recordId token ∧
        ∀ mid, mid <+: since →
          Holds (tablesAfter threads (before ++ grant :: mid)) recordId token) ∧
    (∀ pre call post recordId token, calls = pre ++ call :: post →
      Ends (tablesAfter threads pre) call recordId token →
      (∃ dbNow, call.completion? = some (recordId, token, dbNow)) ∨
      ∃ now retryLimit dbNow, call = .finalizeExhausted now retryLimit dbNow) ∧
    (∀ pre call mid call' post recordId token, calls = pre ++ call :: (mid ++ call' :: post) →
      Ends (tablesAfter threads pre) call recordId token →
      ¬ Ends (tablesAfter threads (pre ++ call :: mid)) call' recordId token) ∧
    (∀ pre call mid late post recordId token recordId' clock,
      calls = pre ++ call :: (mid ++ late :: post) →
      Ends (tablesAfter threads pre) call recordId token →
      late.fenced? = some (recordId', token, clock) →
      step (tablesAfter threads (pre ++ call :: mid)) late =
        tablesAfter threads (pre ++ call :: mid)) := by
  refine ⟨?_, ?_, ?_, ?_⟩
  · intro pre call post recordId token clock hcalls hfenced hchanged
    obtain ⟨record, hmem, hheld⟩ := held_of_fenced hfenced hchanged
    exact ⟨⟨record, hmem, hheld⟩, exists_grant_of_holds (hheld.holds hmem)⟩
  · intro pre call post recordId token hcalls hends
    rcases hends.cases with hcompletion | ⟨now, retryLimit, dbNow, hcall, -⟩
    · exact Or.inl hcompletion
    · exact Or.inr ⟨now, retryLimit, dbNow, hcall⟩
  · intro pre call mid call' post recordId token hcalls hends hends'
    exact not_holds_after_end hdistinct hcalls hends hends'.1
  · intro pre call mid late post recordId token recordId' clock hcalls hends hfenced
    by_contra hchanged
    obtain ⟨record, hmem, hheld⟩ := held_of_fenced hfenced hchanged
    exact not_holds_after_end hdistinct hcalls hends (hheld.holds hmem)

/-- A worker claims record 1 under the token `a`, and the lease scan of another one at time 20
ends the claim. -/
def expiredClaim : List Call :=
  [.enqueue (.allowedFor 7 "identity" "workspace" "thread") 1 0, .claim 1 "a" 10 3 0,
    .finalizeExhausted 20 3 20]

/-- The first worker reports success although the database clock has not reached the end of its
lease: the claim has ended, so nothing changes. -/
theorem claim_fencing_expired_claim :
    step (tablesAfter [] expiredClaim) (.markSuccess 1 "a" 5) = tablesAfter [] expiredClaim :=
  (claim_fencing [] (expiredClaim ++ [.markSuccess 1 "a" 5])
    (tokensDistinct_of_nodup (by decide))).2.2.2
    [.enqueue (.allowedFor 7 "identity" "workspace" "thread") 1 0, .claim 1 "a" 10 3 0]
    (.finalizeExhausted 20 3 20) [] (.markSuccess 1 "a" 5) [] 1 "a" 1 5 rfl
    ⟨by decide, by decide⟩ rfl

end AgentGateway.Dispatch
