import AgentGateway.Admission.Process

/-!
# What one statement of an admission writes

`Effect` lists once what a step of `process` can do to the tables, stage by stage; `perform_effect`
is the only place where `perform` is taken apart for its writes. Two summaries follow from it:

* `Effect.outcomesStep`: an outcome is added for a message that has none, or pending outcomes are
  rewritten; a completed outcome is never touched,
* `Effect.recorded`: no dispatch record is ever taken away.
-/

namespace AgentGateway.Admission

open Lib Lib.Table Dispatch

/-! ## Statements of the outcome store -/

section Statements

variable {outcomes outcomes' : List MessageAdmissionOutcome} {row : MessageAdmissionOutcome}
  {admission : AdmissionOutcome} {messageId : Int} {token : String} {dbNow : Timestamp}

lemma getByMessageId_eq_some (h : getByMessageId messageId outcomes = some row) :
    row ∈ outcomes ∧ row.messageId = messageId := by
  refine ⟨List.mem_of_find?_eq_some h, ?_⟩
  simpa using List.find?_some h

lemma insertOutcome_eq_some (h : insertOutcome row outcomes = some outcomes') :
    (∀ other ∈ outcomes, other.messageId ≠ row.messageId) ∧ outcomes' = outcomes ++ [row] := by
  unfold insertOutcome at h
  split_ifs at h with hrefused
  rw [not_or] at hrefused
  refine ⟨fun other hother heq => hrefused.1 ⟨other, hother, heq⟩, ?_⟩
  exact (Option.some.inj h).symm

lemma updateClaimed_eq_ok {values : MessageAdmissionOutcome → MessageAdmissionOutcome}
    (h : updateClaimed messageId token values outcomes = .ok outcomes') :
    outcomes' = updateWhere (ClaimedBy messageId token) values outcomes ∧
      ∃ row ∈ outcomes, ClaimedBy messageId token row := by
  unfold updateClaimed at h
  split_ifs at h
  split at h
  · cases h
  · rename_i updated hupdate
    cases h
    exact guardedUpdate_eq_some hupdate

lemma stageCompletion_eq_ok (h : stageCompletion token admission dbNow outcomes = .ok outcomes') :
    ∃ decision, completedDecision admission = .ok decision ∧
      outcomes' = updateWhere (ClaimedBy admission.messageId token)
        (fun row => row.completedWith admission decision dbNow) outcomes ∧
      ∃ row ∈ outcomes, ClaimedBy admission.messageId token row := by
  obtain ⟨decision, hdecision, hupdate⟩ := bind_eq_ok.mp h
  obtain ⟨houtcomes, hrow⟩ := updateClaimed_eq_ok hupdate
  exact ⟨decision, hdecision, houtcomes, hrow⟩

/-- An admission is completed as it was decided. -/
lemma completedDecision_eq_ok {decision : AdmissionDecision}
    (h : completedDecision admission = .ok decision) :
    decision = if admission.admitted then .allowed else .denied := by
  unfold completedDecision at h
  split_ifs at h ⊢ with hadmitted
  all_goals
    simp only [bind_eq_ok, raiseIf_eq_ok] at h
  · obtain ⟨-, -, -, -, h⟩ := h
    exact (Except.ok.inj h).symm
  · obtain ⟨-, -, h⟩ := h
    exact (Except.ok.inj h).symm

lemma completeDenied_eq_ok (h : completeDenied token admission dbNow outcomes = .ok outcomes') :
    outcomes' = updateWhere (ClaimedBy admission.messageId token)
        (fun row => row.completedWith admission .denied dbNow) outcomes ∧
      ∃ row ∈ outcomes, ClaimedBy admission.messageId token row := by
  simp only [completeDenied, bind_eq_ok, raiseIf_eq_ok] at h
  obtain ⟨-, hdenied, hstage⟩ := h
  obtain ⟨decision, hdecision, houtcomes, hrow⟩ := stageCompletion_eq_ok hstage
  have hadmitted : admission.admitted = false := by
    cases hvalue : admission.admitted with
    | false => rfl
    | true => exact absurd (Or.inl hvalue) hdenied
  rw [completedDecision_eq_ok hdecision, hadmitted] at houtcomes
  exact ⟨houtcomes, hrow⟩

/-- What the replay of a stored outcome hands on. -/
lemma toAdmissionOutcome_eq_ok (h : toAdmissionOutcome row = .ok admission) :
    row.state = .completed ∧ admission.messageId = row.messageId ∧
      (admission.admitted = true ↔ row.decision = some .allowed) ∧
      admission.enterpriseIdentityId = row.enterpriseIdentityId ∧
      admission.workspaceId = row.workspaceId ∧ admission.aiThreadId = row.aiThreadId := by
  unfold toAdmissionOutcome at h
  split at h
  · rename_i decision reason hstate hdecision hreason
    simp only [checkedOutcome, bind_eq_ok, raiseIf_eq_ok] at h
    obtain ⟨-, -, -, -, -, -, -, -, h⟩ := h
    cases h
    refine ⟨hstate, rfl, ?_, rfl, rfl, rfl⟩
    rw [hdecision, Option.some.injEq]
    exact decide_eq_true_iff
  · cases h
  · cases h

/-- What the read-back of an adopted dispatch record has checked. -/
lemma compatibleLegacyDispatchOutcome_eq_ok {record : HermesDispatchRecord}
    {stored : MessageAdmissionOutcome}
    (h : compatibleLegacyDispatchOutcome row record = .ok stored) :
    stored = row ∧ row.messageId = record.messageId ∧ row.state = .completed := by
  simp only [compatibleLegacyDispatchOutcome, bind_eq_ok, raiseIf_eq_ok, not_not] at h
  obtain ⟨-, ⟨hid, hstate, -⟩, h⟩ := h
  exact ⟨(Except.ok.inj h).symm, hid, hstate⟩

end Statements

/-! ## Statements of the dispatch record store -/

section Records

variable {records records' : List HermesDispatchRecord} {admission : AdmissionOutcome}
  {target : DispatchTarget} {id : ℕ} {createdAt : Timestamp} {record : HermesDispatchRecord}
  {tables : Tables}

lemma raiseDispatch_eq_ok {α : Type} {result : Except HermesDispatchRecordError α} {value : α} :
    raiseDispatch result = .ok value ↔ result = .ok value := by
  cases result with
  | error error => simp [raiseDispatch]
  | ok found => simp [raiseDispatch]

lemma requiredTargetId_eq_ok {value : Option String} {reason result : String}
    (h : requiredTargetId value reason = .ok result) : value = some result := by
  unfold requiredTargetId at h
  split at h
  · cases h
  · split_ifs at h
    cases h
    rfl

/-- A dispatch target is that of an allowed admission. -/
lemma dispatchTarget_eq_ok (h : dispatchTarget admission = .ok target) :
    admission.admitted = true ∧ target.messageId = admission.messageId ∧
      admission.enterpriseIdentityId = some target.enterpriseIdentityId ∧
      admission.workspaceId = some target.workspaceId ∧
      admission.aiThreadId = some target.aiThreadId := by
  simp only [dispatchTarget, bind_eq_ok, raiseIf_eq_ok] at h
  obtain ⟨-, hallowed, -, -, -, -, identity, hidentity, workspace, hworkspace, thread, hthread, h⟩ :=
    h
  cases h
  refine ⟨?_, rfl, requiredTargetId_eq_ok hidentity, requiredTargetId_eq_ok hworkspace,
    requiredTargetId_eq_ok hthread⟩
  rw [not_or] at hallowed
  exact Bool.eq_true_of_not_eq_false hallowed.1

lemma insertRecord_eq_ok (h : insertRecord admission id createdAt records = .ok records') :
    ∃ target, dispatchTarget admission = .ok target ∧
      records' = records ++ [newRecord target id createdAt] ∧
      ∀ record ∈ records, record.id ≠ id ∧ record.messageId ≠ target.messageId := by
  simp only [insertRecord, bind_eq_ok, raiseIf_eq_ok, raiseDispatch_eq_ok] at h
  obtain ⟨target, htarget, -, hfresh, h⟩ := h
  refine ⟨target, htarget, (Except.ok.inj h).symm, fun record hrecord => ⟨?_, ?_⟩⟩
  · exact fun hid => hfresh ⟨record, hrecord, Or.inl hid⟩
  · exact fun hmessage => hfresh ⟨record, hrecord, Or.inr (Or.inl hmessage)⟩

/-- The message has a dispatch record. -/
def Recorded (messageId : Int) (tables : Tables) : Prop :=
  ∃ record ∈ tables.dispatch.records, record.messageId = messageId

lemma recorded_of_getDispatchForMessage {messageId : Int}
    (h : getDispatchForMessage messageId tables = some record) :
    record.messageId = messageId ∧ Recorded messageId tables := by
  have hid : record.messageId = messageId := by simpa using List.find?_some h
  exact ⟨hid, record, List.mem_of_find?_eq_some h, hid⟩

/-- A staged enqueue that finds a record finds one of the message. -/
lemma recorded_of_stagedRecord
    (h : stagedRecord admission tables.dispatch.records = .ok (some record)) :
    Recorded admission.messageId tables := by
  simp only [stagedRecord, bind_eq_ok, raiseDispatch_eq_ok] at h
  obtain ⟨target, htarget, h⟩ := h
  split at h
  · cases h
  · rename_i existing hexisting
    simp only [bind_eq_ok, raiseDispatch_eq_ok] at h
    obtain ⟨found, hfound, h⟩ := h
    simp only [compatibleRecordOrRaise, bind_eq_ok, raiseIf_eq_ok, not_or, not_not] at hfound
    obtain ⟨-, ⟨hmessage, -⟩, -⟩ := hfound
    refine ⟨existing, ?_, hmessage.trans (dispatchTarget_eq_ok htarget).2.1⟩
    rcases Option.or_eq_some_iff.mp hexisting with hfind | ⟨-, hfind⟩
    · exact List.mem_of_find?_eq_some hfind
    · exact List.mem_of_find?_eq_some hfind

end Records

/-! ## The writes of a step -/

/-- The row a claim leaves behind. -/
def MessageAdmissionOutcome.claimedAt (row : MessageAdmissionOutcome) (claimToken : String)
    (leaseExpiresAt : Timestamp) : MessageAdmissionOutcome :=
  { row with
    claimToken := some claimToken
    leaseExpiresAt := some leaseExpiresAt
    attemptCount := row.attemptCount + 1
    lastErrorCode := none }

/-- What a step from a stage does to the tables. -/
inductive Effect (messageId : Int) (input : Input) (tables : Tables) : Stage → Tables → Prop
  | silent {stage} : Effect messageId input tables stage tables
  | legacy {record}
      (hfresh : ∀ other ∈ tables.outcomes, other.messageId ≠ record.messageId) :
      Effect messageId input tables (.adoptingLegacy record)
        (tables.withOutcomes (tables.outcomes ++ [legacyDispatchOutcome record input.dbNow]))
  | pended (hfresh : ∀ other ∈ tables.outcomes, other.messageId ≠ messageId) :
      Effect messageId input tables .creating
        (tables.withOutcomes (tables.outcomes ++
          [pendingOutcome messageId input.request input.token (input.now + input.lease)]))
  | claimed {stored} :
      Effect messageId input tables (.claiming stored)
        (tables.withOutcomes (updateWhere (Unclaimed stored.messageId input.now)
          (fun row => row.claimedAt input.token (input.now + input.lease)) tables.outcomes))
  /-- the dispatch record and the completion, in one transaction -/
  | committed {tries token admission target} (htarget : dispatchTarget admission = .ok target)
      (hrow : ∃ row ∈ tables.outcomes, ClaimedBy admission.messageId token row) :
      Effect messageId input tables (.committing tries token admission true)
        ((tables.withRecords
          (tables.dispatch.records ++ [newRecord target input.recordId input.createdAt])).withOutcomes
          (updateWhere (ClaimedBy admission.messageId token)
            (fun row => row.completedWith admission .allowed input.dbNow) tables.outcomes))
  /-- the completion beside a dispatch record that was there before -/
  | joined {tries token admission decision}
      (hrow : ∃ row ∈ tables.outcomes, ClaimedBy admission.messageId token row) :
      Effect messageId input tables (.committing tries token admission false)
        (tables.withOutcomes (updateWhere (ClaimedBy admission.messageId token)
          (fun row => row.completedWith admission decision input.dbNow) tables.outcomes))
  | denied {token admission}
      (hrow : ∃ row ∈ tables.outcomes, ClaimedBy admission.messageId token row) :
      Effect messageId input tables (.completingDenied token admission)
        (tables.withOutcomes (updateWhere (ClaimedBy admission.messageId token)
          (fun row => row.completedWith admission .denied input.dbNow) tables.outcomes))
  | adopted {token record}
      (hrow : ∃ row ∈ tables.outcomes, ClaimedBy record.messageId token row) :
      Effect messageId input tables (.adopting token record)
        (tables.withOutcomes (updateWhere (ClaimedBy record.messageId token)
          (fun row => row.adopted record input.dbNow) tables.outcomes))
  | released {token} :
      Effect messageId input tables (.failing token)
        (tables.withOutcomes (releaseClaim messageId token evaluationErrorCode tables.outcomes))
  | enqueued {token admission target} (htarget : dispatchTarget admission = .ok target)
      (hfresh : ∀ record ∈ tables.dispatch.records, record.id ≠ input.recordId ∧
        record.messageId ≠ target.messageId) :
      Effect messageId input tables (.inserting token admission)
        (tables.withRecords
          (tables.dispatch.records ++ [newRecord target input.recordId input.createdAt]))

section Effects

variable {messageId : Int} {input : Input} {tables tables' : Tables} {stage stage' : Stage}
  {token : String}

/-- The transaction of an allowed admission. -/
lemma committing_effect {tries : ℕ} {admission : AdmissionOutcome} {insert : Bool}
    (h : perform messageId input tables (.committing tries token admission insert) =
      .ok (tables', stage')) :
    Effect messageId input tables (.committing tries token admission insert) tables' := by
  simp only [perform, bind_eq_ok] at h
  obtain ⟨records, hrecords, outcomes, hstage, h⟩ := h
  cases h
  obtain ⟨decision, hdecision, rfl, hrow⟩ := stageCompletion_eq_ok hstage
  cases insert with
  | false =>
    cases hrecords
    exact Effect.joined hrow
  | true =>
    obtain ⟨target, htarget, rfl, -⟩ := insertRecord_eq_ok hrecords
    -- a dispatch target exists only for an admitted message
    have hallowed : decision = .allowed := by
      rw [completedDecision_eq_ok hdecision, (dispatchTarget_eq_ok htarget).1]
      rfl
    subst hallowed
    exact Effect.committed htarget hrow

lemma adopting_effect {record : HermesDispatchRecord}
    (h : perform messageId input tables (.adopting token record) = .ok (tables', stage')) :
    Effect messageId input tables (.adopting token record) tables' := by
  simp only [perform] at h
  split at h
  · rename_i outcomes hcomplete
    cases h
    obtain ⟨rfl, hrow⟩ := updateClaimed_eq_ok hcomplete
    exact Effect.adopted hrow
  · cases h
    exact Effect.silent
  · cases h

/-- **The inversion of a step.** -/
theorem perform_effect (h : perform messageId input tables stage = .ok (tables', stage')) :
    Effect messageId input tables stage tables' := by
  cases stage with
  | adoptingLegacy record =>
    simp only [perform] at h
    split at h
    · cases h
    · rename_i outcomes hinsert
      cases h
      obtain ⟨hfresh, rfl⟩ := insertOutcome_eq_some hinsert
      exact Effect.legacy hfresh
  | creating =>
    simp only [perform] at h
    split at h
    · cases h
    · rename_i outcomes hinsert
      cases h
      obtain ⟨hfresh, rfl⟩ := insertOutcome_eq_some hinsert
      exact Effect.pended hfresh
  | claiming stored =>
    simp only [perform] at h
    split at h
    · cases h
      exact Effect.silent
    · rename_i outcomes hclaim
      cases h
      obtain ⟨rfl, -⟩ := guardedUpdate_eq_some hclaim
      exact Effect.claimed
  | committing tries token admission insert => exact committing_effect h
  | completingDenied token admission =>
    simp only [perform, bind_eq_ok] at h
    obtain ⟨outcomes, hcomplete, h⟩ := h
    cases h
    obtain ⟨rfl, hrow⟩ := completeDenied_eq_ok hcomplete
    exact Effect.denied hrow
  | adopting token record => exact adopting_effect h
  | failing token =>
    cases h
    exact Effect.released
  | inserting token admission =>
    simp only [perform, bind_eq_ok] at h
    obtain ⟨records, hinsert, h⟩ := h
    cases h
    obtain ⟨target, htarget, rfl, hfresh⟩ := insertRecord_eq_ok hinsert
    exact Effect.enqueued htarget hfresh
  | evaluating token outcome =>
    simp only [perform, bind_eq_ok] at h
    obtain ⟨request, -, h⟩ := h
    split_ifs at h
    all_goals
      cases h
      exact Effect.silent
  | replaying token stored =>
    simp only [perform, bind_eq_ok] at h
    obtain ⟨admission, -, h⟩ := h
    split at h
    · cases h
      exact Effect.silent
    · simp only [bind_eq_ok] at h
      obtain ⟨existing, -, h⟩ := h
      cases h
      exact Effect.silent
    · cases h
      exact Effect.silent
    · cases h
  | staging tries token admission =>
    simp only [perform, bind_eq_ok] at h
    obtain ⟨existing, -, h⟩ := h
    cases h
    exact Effect.silent
  | enqueuing token admission =>
    simp only [perform, bind_eq_ok] at h
    obtain ⟨existing, -, h⟩ := h
    split at h
    all_goals
      cases h
      exact Effect.silent
  | rereading token admission =>
    simp only [perform, bind_eq_ok] at h
    obtain ⟨existing, -, -, -, h⟩ := h
    cases h
    exact Effect.silent
  | legacyTaken | adopted =>
    simp only [perform] at h
    split at h
    · cases h
    · obtain ⟨stored, -, h⟩ := bind_eq_ok.mp h
      cases h
      exact Effect.silent
  | claimMissed =>
    simp only [perform] at h
    split at h
    · cases h
    · split_ifs at h
      cases h
      exact Effect.silent
  | returned | raised =>
    cases h
    exact Effect.silent
  | _ =>
    -- the remaining stages read one row and go on
    simp only [perform] at h
    split at h
    all_goals
      cases h
      try exact Effect.silent

end Effects

/-! ## Outcomes and records over one step -/

/-- What a step does to the outcomes: it adds one for a message that has none, or it rewrites
pending ones. -/
def OutcomesStep (outcomes outcomes' : List MessageAdmissionOutcome) : Prop :=
  (∃ row, (∀ other ∈ outcomes, other.messageId ≠ row.messageId) ∧ outcomes' = outcomes ++ [row]) ∨
  ∃ g : MessageAdmissionOutcome → MessageAdmissionOutcome, outcomes' = outcomes.map g ∧
    ∀ row, (g row).messageId = row.messageId ∧ (row.state = .completed → g row = row)

section Summaries

variable {outcomes outcomes' : List MessageAdmissionOutcome} {row : MessageAdmissionOutcome}

lemma outcomesStep_self : OutcomesStep outcomes outcomes :=
  Or.inr ⟨id, (List.map_id outcomes).symm, fun _ => ⟨rfl, fun _ => rfl⟩⟩

/-- An update of pending rows that keeps their message. -/
lemma outcomesStep_updateWhere {p : MessageAdmissionOutcome → Prop} [DecidablePred p]
    {f : MessageAdmissionOutcome → MessageAdmissionOutcome}
    (hpending : ∀ row, p row → row.state = .pending)
    (hid : ∀ row, (f row).messageId = row.messageId) :
    OutcomesStep outcomes (updateWhere p f outcomes) := by
  refine Or.inr ⟨fun row => if p row then f row else row, rfl, fun row => ?_⟩
  dsimp only
  split_ifs with hp
  · refine ⟨hid row, fun hcompleted => ?_⟩
    rw [hpending row hp] at hcompleted
    cases hcompleted
  · exact ⟨rfl, fun _ => rfl⟩

lemma OutcomesStep.unique (h : OutcomesStep outcomes outcomes')
    (hunique : UniqueKeys MessageAdmissionOutcome.messageId outcomes) :
    UniqueKeys MessageAdmissionOutcome.messageId outcomes' := by
  rcases h with ⟨row, hfresh, rfl⟩ | ⟨g, rfl, hg⟩
  · exact hunique.append hfresh
  · unfold UniqueKeys
    rw [List.map_map]
    have hkeys : outcomes.map (MessageAdmissionOutcome.messageId ∘ g) =
        outcomes.map MessageAdmissionOutcome.messageId :=
      List.map_congr_left fun row _ => (hg row).1
    rw [hkeys]
    exact hunique

/-- **`COMPLETED` is absorbing**: the row stays as it is. -/
lemma OutcomesStep.completed_kept (h : OutcomesStep outcomes outcomes') (hrow : row ∈ outcomes)
    (hcompleted : row.state = .completed) : row ∈ outcomes' := by
  rcases h with ⟨new, -, rfl⟩ | ⟨g, rfl, hg⟩
  · exact List.mem_append_left _ hrow
  · have hkept := (hg row).2 hcompleted
    rw [← hkept]
    exact List.mem_map_of_mem hrow

variable {messageId : Int} {input : Input} {tables tables' : Tables} {stage : Stage}

lemma Effect.outcomesStep (h : Effect messageId input tables stage tables') :
    OutcomesStep tables.outcomes tables'.outcomes := by
  cases h with
  | silent | enqueued => exact outcomesStep_self
  | legacy hfresh | pended hfresh => exact Or.inl ⟨_, hfresh, rfl⟩
  | claimed | committed | joined | denied | adopted | released =>
    exact outcomesStep_updateWhere (fun _ hp => hp.2.1) fun _ => rfl

/-- A step keeps the records or adds one. -/
lemma Effect.records (h : Effect messageId input tables stage tables') :
    tables'.dispatch.records = tables.dispatch.records ∨
      ∃ target, tables'.dispatch.records =
        tables.dispatch.records ++ [newRecord target input.recordId input.createdAt] := by
  cases h with
  | committed | enqueued => exact Or.inr ⟨_, rfl⟩
  | _ => exact Or.inl rfl

lemma Effect.recorded (h : Effect messageId input tables stage tables') {other : Int}
    (hrecorded : Recorded other tables) : Recorded other tables' := by
  obtain ⟨record, hrecord, hid⟩ := hrecorded
  refine ⟨record, ?_, hid⟩
  rcases h.records with hsame | ⟨target, hadded⟩
  · rw [hsame]
    exact hrecord
  · rw [hadded]
    exact List.mem_append_left _ hrecord

/-- What a whole step of a call does, with the fault it may have met. -/
lemma advance_effect (process : Process) (input : Input) (tables : Tables) :
    Effect process.messageId input tables process.stage (process.advance input tables).1 := by
  unfold Process.advance
  split
  · exact Effect.silent
  · rename_i tables' stage hperform
    split
    · exact perform_effect hperform
    · dsimp only
      split_ifs
      · exact perform_effect hperform
      · exact Effect.silent

end Summaries

end AgentGateway.Admission
