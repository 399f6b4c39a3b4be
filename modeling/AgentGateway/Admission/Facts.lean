import AgentGateway.Admission.Effects

/-!
# What a call knows

A call of `process` reads a row and acts on it later, when the tables have moved on. `Stage.Facts`
says what still holds of the tables at each stage: rows it has seen completed are still there, a
dispatch record it has seen still exists, and a call that returns leaves a settled message behind.
No step of another call takes any of this away (`Stage.Facts.mono`), and the call's own step gives
it the facts of its next stage (`perform_facts`).
-/

namespace AgentGateway.Admission

open Lib Lib.Table Dispatch

/-- The message has a final outcome, and the dispatch record of it when it is allowed. -/
def Settled (messageId : Int) (tables : Tables) : Prop :=
  ∃ row ∈ tables.outcomes, row.messageId = messageId ∧ row.state = .completed ∧
    (row.decision = some .allowed → Recorded messageId tables)

/-- What `enqueue` relies on: the message is completed, and its record exists already or is to be
made from that very outcome. -/
def Enqueues (messageId : Int) (token : Option String) (admission : AdmissionOutcome)
    (tables : Tables) : Prop :=
  admission.messageId = messageId ∧ ∃ stored ∈ tables.outcomes, stored.messageId = messageId ∧
    stored.state = .completed ∧
    (Recorded messageId tables ∨ token = none ∧ toAdmissionOutcome stored = .ok admission)

/-- What a call on a message knows at each stage. -/
def Stage.Facts (messageId : Int) (tables : Tables) : Stage → Prop
  | .noted stored => ∀ row ∈ stored, row.messageId = messageId ∧ row.state ≠ .completed
  | .claiming stored => stored.messageId = messageId
  | .adoptingLegacy record | .legacyTaken record | .adopting _ record | .adopted _ record =>
    record.messageId = messageId ∧ Recorded messageId tables
  | .staging _ _ admission | .denying _ admission | .completingDenied _ admission =>
    admission.messageId = messageId
  | .committing _ _ admission insert =>
    admission.messageId = messageId ∧ (insert = false → Recorded messageId tables)
  | .confirming _ _ | .returned _ => Settled messageId tables
  | .replaying token stored =>
    stored ∈ tables.outcomes ∧ stored.messageId = messageId ∧ stored.state = .completed ∧
      (token ≠ none → Recorded messageId tables)
  | .enqueuing token admission | .inserting token admission | .rereading token admission =>
    Enqueues messageId token admission tables
  | _ => True

/-! ## Facts outlive the steps of others -/

/-- Nothing a call may rely on is taken away. -/
def Grows (tables tables' : Tables) : Prop :=
  (∀ row ∈ tables.outcomes, row.state = .completed → row ∈ tables'.outcomes) ∧
    ∀ messageId, Recorded messageId tables → Recorded messageId tables'

section Mono

variable {messageId : Int} {input : Input} {tables tables' : Tables} {stage stage' : Stage}
  {token : Option String} {admission : AdmissionOutcome}

lemma Grows.refl (tables : Tables) : Grows tables tables :=
  ⟨fun _ hrow _ => hrow, fun _ h => h⟩

lemma Effect.grows (h : Effect messageId input tables stage tables') : Grows tables tables' :=
  ⟨fun _ hrow hcompleted => h.outcomesStep.completed_kept hrow hcompleted,
    fun _ hrecorded => h.recorded hrecorded⟩

lemma Settled.mono (h : Settled messageId tables) (hgrows : Grows tables tables') :
    Settled messageId tables' := by
  obtain ⟨row, hrow, hid, hcompleted, hallowed⟩ := h
  refine ⟨row, hgrows.1 row hrow hcompleted, hid, hcompleted, fun hdecision => ?_⟩
  exact hgrows.2 messageId (hallowed hdecision)

lemma Enqueues.mono (h : Enqueues messageId token admission tables) (hgrows : Grows tables tables') :
    Enqueues messageId token admission tables' := by
  obtain ⟨hmessage, stored, hstored, hid, hcompleted, hsource⟩ := h
  refine ⟨hmessage, stored, hgrows.1 stored hstored hcompleted, hid, hcompleted, ?_⟩
  exact hsource.imp_left (hgrows.2 messageId)

/-- **Facts outlive the steps of others.** -/
lemma Stage.Facts.mono (h : stage.Facts messageId tables) (hgrows : Grows tables tables') :
    stage.Facts messageId tables' := by
  have hrecorded := hgrows.2 messageId
  cases stage with
  | adoptingLegacy | legacyTaken | adopting | adopted => exact ⟨h.1, hrecorded h.2⟩
  | committing tries token admission insert =>
    exact ⟨h.1, fun hinsert => hrecorded (h.2 hinsert)⟩
  | replaying token stored =>
    obtain ⟨hstored, hid, hcompleted, hclaim⟩ := h
    exact ⟨hgrows.1 stored hstored hcompleted, hid, hcompleted,
      fun htoken => hrecorded (hclaim htoken)⟩
  | confirming | returned => exact Settled.mono h hgrows
  | enqueuing | inserting | rereading => exact Enqueues.mono h hgrows
  | _ => exact h

/-! ## Facts of the next stage -/

lemma unwind_facts (token : Option String) : (unwind token).Facts messageId tables := by
  cases token with
  | none => trivial
  | some token => trivial

/-- An error keeps what the call knows. -/
lemma handle_facts (error : AdmissionError) (h : stage.Facts messageId tables) :
    (stage.handle error).Facts messageId tables := by
  cases stage with
  | adoptingLegacy record =>
    unfold Stage.handle
    split_ifs
    · exact h
    · trivial
  | creating =>
    unfold Stage.handle
    split_ifs <;> trivial
  | staging tries token admission =>
    cases tries with
    | zero =>
      unfold Stage.handle
      split_ifs
      · exact h
      · trivial
    | succ tries => trivial
  | committing tries token admission insert =>
    cases tries with
    | zero =>
      unfold Stage.handle
      split_ifs
      · exact h.1
      · trivial
    | succ tries => trivial
  | enqueuing token | inserting token =>
    unfold Stage.handle
    split_ifs
    · exact h
    · exact unwind_facts token
  | returned => exact h
  | replaying token | rereading token => exact unwind_facts token
  | _ => trivial

variable {stored : MessageAdmissionOutcome}

/-- A completed row of the message is replayed, any other one is claimed. -/
lemma claimExisting_facts (hstored : stored ∈ tables.outcomes) (hid : stored.messageId = messageId) :
    (claimExisting stored).Facts messageId tables := by
  unfold claimExisting
  split_ifs with hcompleted
  · exact ⟨hstored, hid, hcompleted, fun hnone => absurd rfl hnone⟩
  · exact hid

/-- The transaction of an allowed admission leaves a completed row and a record. -/
lemma committing_facts {tries : ℕ} {token : String} {insert : Bool}
    (h : perform messageId input tables (.committing tries token admission insert) =
      .ok (tables', stage'))
    (hfacts : (Stage.committing tries token admission insert).Facts messageId tables) :
    stage'.Facts messageId tables' := by
  simp only [perform, bind_eq_ok] at h
  obtain ⟨records, hrecords, outcomes, hstage, h⟩ := h
  cases h
  obtain ⟨rfl, hrecorded⟩ := hfacts
  obtain ⟨decision, -, rfl, row, hrow, hclaimed⟩ := stageCompletion_eq_ok hstage
  have hrecord : Recorded admission.messageId (tables.withRecords records) := by
    cases insert with
    | false =>
      cases hrecords
      exact hrecorded rfl
    | true =>
      obtain ⟨target, htarget, rfl, -⟩ := insertRecord_eq_ok hrecords
      refine ⟨newRecord target input.recordId input.createdAt, ?_, ?_⟩
      · exact List.mem_append_right _ (List.mem_singleton_self _)
      · exact (dispatchTarget_eq_ok htarget).2.1
  have hstored := mem_updateWhere_of_pos (p := ClaimedBy admission.messageId token)
    (f := fun row => row.completedWith admission decision input.dbNow) hrow hclaimed
  by_cases hagain : (insert && input.synchronous) = true
  · rw [if_pos hagain]
    exact ⟨rfl, _, hstored, hclaimed.1, rfl, Or.inl hrecord⟩
  · rw [if_neg hagain]
    exact ⟨_, hstored, hclaimed.1, rfl, fun _ => hrecord⟩

/-- A replay ends with the message settled, or goes on to make the missing record. -/
lemma replaying_facts
    (h : perform messageId input tables (.replaying token stored) = .ok (tables', stage'))
    (hfacts : (Stage.replaying token stored).Facts messageId tables) :
    stage'.Facts messageId tables' := by
  obtain ⟨hstored, hid, hcompleted, hclaim⟩ := hfacts
  simp only [perform, bind_eq_ok] at h
  obtain ⟨admission, hreplay, h⟩ := h
  obtain ⟨-, hmessage, hadmitted, -⟩ := toAdmissionOutcome_eq_ok hreplay
  rw [hid] at hmessage
  split at h
  · -- allowed, and the record is missing
    cases h
    refine ⟨hmessage, stored, hstored, hid, hcompleted, ?_⟩
    cases token with
    | none => exact Or.inr ⟨rfl, hreplay⟩
    | some token => exact Or.inl (hclaim (Option.some_ne_none token))
  · rename_i record _ hrecord
    obtain ⟨existing, -, h⟩ := bind_eq_ok.mp h
    cases h
    refine ⟨stored, hstored, hid, hcompleted, fun _ => ?_⟩
    rw [hmessage] at hrecord
    exact (recorded_of_getDispatchForMessage hrecord).2
  · rename_i hdenied _
    cases h
    refine ⟨stored, hstored, hid, hcompleted, fun hallowed => ?_⟩
    rw [hadmitted.mpr hallowed] at hdenied
    cases hdenied
  · cases h

/-- A read of the message's own row that goes on to a replay or a claim. -/
lemma readBack_facts {record : HermesDispatchRecord} {existing : MessageAdmissionOutcome}
    (hread : getByMessageId record.messageId tables.outcomes = some existing)
    (hcompatible : compatibleLegacyDispatchOutcome existing record = .ok stored)
    (hid : record.messageId = messageId) (hrecorded : Recorded messageId tables) :
    (Stage.replaying token stored).Facts messageId tables := by
  obtain ⟨rfl, hmessage, hcompleted⟩ := compatibleLegacyDispatchOutcome_eq_ok hcompatible
  exact ⟨(getByMessageId_eq_some hread).1, hmessage.trans hid, hcompleted, fun _ => hrecorded⟩

/-- **The facts of the next stage.** -/
theorem perform_facts (h : perform messageId input tables stage = .ok (tables', stage'))
    (hfacts : stage.Facts messageId tables) : stage'.Facts messageId tables' := by
  -- one case per statement; what it has read or written is a fact of the next stage
  cases stage with
  | begun =>
    simp only [perform] at h
    split at h
    · cases h
      intro row hrow
      cases hrow
    · rename_i stored hread
      obtain ⟨hstored, hid⟩ := getByMessageId_eq_some hread
      cases h
      split_ifs with hcompleted
      · exact ⟨hstored, hid, hcompleted, fun hnone => absurd rfl hnone⟩
      · intro row hrow
        cases hrow
        exact ⟨hid, hcompleted⟩
  | noted stored =>
    simp only [perform] at h
    split at h
    · rename_i row
      cases h
      obtain ⟨hid, hcompleted⟩ := hfacts row rfl
      unfold claimExisting
      rw [if_neg hcompleted]
      exact hid
    · rename_i record hrecord
      cases h
      exact recorded_of_getDispatchForMessage hrecord
    · cases h
      trivial
  | adoptingLegacy record =>
    simp only [perform] at h
    split at h
    · cases h
    · rename_i outcomes hinsert
      cases h
      obtain ⟨-, rfl⟩ := insertOutcome_eq_some hinsert
      -- the legacy outcome is the row that was just added
      refine ⟨List.mem_append_right _ (List.mem_singleton_self _), hfacts.1, rfl, ?_⟩
      exact fun _ => hfacts.2
  -- the stored row is read back and compared
  | legacyTaken | adopted =>
    simp only [perform] at h
    split at h
    · cases h
    · rename_i existing hread
      obtain ⟨stored, hcompatible, h⟩ := bind_eq_ok.mp h
      cases h
      exact readBack_facts hread hcompatible hfacts.1 hfacts.2
  | creating | claimedUnread =>
    simp only [perform] at h
    split at h
    · cases h
    · cases h
      trivial
  | pendingTaken =>
    simp only [perform] at h
    split at h
    · cases h
    · rename_i existing hread
      cases h
      obtain ⟨hexisting, hid⟩ := getByMessageId_eq_some hread
      exact claimExisting_facts hexisting hid
  | claiming stored =>
    simp only [perform] at h
    split at h
    all_goals
      cases h
      trivial
  -- the claim was lost, so only a completed row goes on
  | claimMissed =>
    simp only [perform] at h
    split at h
    · cases h
    · rename_i current hread
      split_ifs at h with hcompleted
      cases h
      obtain ⟨hcurrent, hid⟩ := getByMessageId_eq_some hread
      exact ⟨hcurrent, hid, hcompleted, fun hnone => absurd rfl hnone⟩
  | claimed token outcome =>
    simp only [perform] at h
    split at h
    · rename_i record hrecord
      cases h
      exact recorded_of_getDispatchForMessage hrecord
    · cases h
      trivial
  | evaluating token outcome =>
    simp only [perform, bind_eq_ok] at h
    obtain ⟨request, -, h⟩ := h
    split_ifs at h
    all_goals
      cases h
      rfl
  | staging tries token admission =>
    simp only [perform, bind_eq_ok] at h
    obtain ⟨existing, hstaged, h⟩ := h
    cases h
    refine ⟨hfacts, fun hinsert => ?_⟩
    cases existing with
    | none => cases hinsert
    | some record =>
      have hrecorded := recorded_of_stagedRecord hstaged
      rwa [show admission.messageId = messageId from hfacts] at hrecorded
  | committing tries token admission insert => exact committing_facts h hfacts
  | denying token admission =>
    simp only [perform] at h
    split at h
    · rename_i record hrecord
      cases h
      exact recorded_of_getDispatchForMessage hrecord
    · cases h
      exact hfacts
  | completingDenied token admission =>
    simp only [perform, bind_eq_ok] at h
    obtain ⟨outcomes, hcomplete, h⟩ := h
    cases h
    obtain ⟨rfl, row, hrow, hclaimed⟩ := completeDenied_eq_ok hcomplete
    -- the claimed row is completed as denied, which queues nothing
    refine ⟨_, mem_updateWhere_of_pos hrow hclaimed, hclaimed.1.trans hfacts, rfl, ?_⟩
    intro hallowed
    cases hallowed
  | confirming token admission =>
    simp only [perform] at h
    split at h
    · cases h
    · cases h
      exact hfacts
  | adopting token record =>
    have hgrows := (perform_effect h).grows
    have hnext : stage' = .adopted token record := by
      simp only [perform] at h
      split at h
      · exact (Prod.mk.inj (Except.ok.inj h)).2.symm
      · exact (Prod.mk.inj (Except.ok.inj h)).2.symm
      · cases h
    rw [hnext]
    exact ⟨hfacts.1, hgrows.2 messageId hfacts.2⟩
  | replaying token stored => exact replaying_facts h hfacts
  | enqueuing token admission =>
    simp only [perform, bind_eq_ok] at h
    obtain ⟨existing, hstaged, h⟩ := h
    obtain ⟨hmessage, stored, hstored, hid, hcompleted, -⟩ := id hfacts
    cases existing with
    | none =>
      cases h
      exact hfacts
    | some record =>
      cases h
      have hrecorded := recorded_of_stagedRecord hstaged
      rw [hmessage] at hrecorded
      exact ⟨stored, hstored, hid, hcompleted, fun _ => hrecorded⟩
  | inserting token admission =>
    simp only [perform, bind_eq_ok] at h
    obtain ⟨records, hinsert, h⟩ := h
    cases h
    obtain ⟨target, htarget, rfl, -⟩ := insertRecord_eq_ok hinsert
    obtain ⟨hmessage, stored, hstored, hid, hcompleted, -⟩ := hfacts
    refine ⟨stored, hstored, hid, hcompleted, fun _ => ?_⟩
    -- the new record is that of the message
    refine ⟨newRecord target input.recordId input.createdAt, ?_, ?_⟩
    · exact List.mem_append_right _ (List.mem_singleton_self _)
    · exact (dispatchTarget_eq_ok htarget).2.1.trans hmessage
  | rereading token admission =>
    simp only [perform, bind_eq_ok, raiseIf_eq_ok] at h
    obtain ⟨existing, hstaged, -, hfound, h⟩ := h
    cases h
    obtain ⟨hmessage, stored, hstored, hid, hcompleted, -⟩ := hfacts
    cases existing with
    | none => exact absurd rfl hfound
    | some record =>
      have hrecorded := recorded_of_stagedRecord hstaged
      rw [hmessage] at hrecorded
      exact ⟨stored, hstored, hid, hcompleted, fun _ => hrecorded⟩
  | failing | raised =>
    cases h
    trivial
  | returned result =>
    cases h
    exact hfacts

/-- A whole step of a call keeps its facts, whatever fault it meets. -/
lemma advance_facts (process : Process) (input : Input) (tables : Tables)
    (hfacts : process.stage.Facts process.messageId tables) :
    (process.advance input tables).2.stage.Facts process.messageId
      (process.advance input tables).1 := by
  unfold Process.advance
  split
  · exact handle_facts _ hfacts
  · rename_i tables' stage hperform
    split
    · exact perform_facts hperform hfacts
    · dsimp only
      split_ifs
      · exact handle_facts _ (hfacts.mono (perform_effect hperform).grows)
      · exact handle_facts _ hfacts

end Mono

end AgentGateway.Admission
