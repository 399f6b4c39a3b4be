import AgentGateway.Context.Acceptance
import AgentGateway.Dispatch.Results
import AgentGateway.Lib.Pydantic
import AgentGateway.Lib.Query
import AgentGateway.Lib.Run

/-!
# Covered history

Snapshots are created while dispatches are enqueued, claimed, completed, expired and recovered and
artifacts come and go. A creation locks the row of its thread and then looks at the tables one
statement after the other, with other writers in between. Every fact that one of its statements
finds is one that no writer can undo: a finished turn stays as it is, a new turn gets an id above
all ids of its thread, and an artifact keeps its response. So what a snapshot covers never changes.
-/

namespace AgentGateway.Context

open Lib Lib.Run Lib.Table Hermes Dispatch Artifacts

/-! ## The system -/

/-- `_ARTIFACT_LOOKUP_BATCH_SIZE`. -/
def artifactLookupBatchSize : ℕ := 500

/-- How far a creation has come: the lock is taken; the latest snapshot is read; the end of the
history, the unfinished turns and the payloads are checked; the artifacts are looked up. -/
inductive CreationStage
  | locked
  | advanced (latest : Option ContextSnapshotRecord)
  | bounded (latest : Option ContextSnapshotRecord)
  | finished (latest : Option ContextSnapshotRecord)
  | validated (latest : Option ContextSnapshotRecord) (references : List (String × String))
      (pending : List String)
  deriving DecidableEq, Repr

/-- A creation that holds the lock of its thread. -/
structure Creation where
  summary : String
  coveredUntil : ℕ
  stage : CreationStage
  deriving DecidableEq, Repr

/-- The rows, and the creation that holds the lock of each thread. -/
structure History where
  tables : ContextTables
  creations : String → Option Creation

/-- One thing that happens. -/
inductive Action
  | dispatch (call : Dispatch.Call)
  | receive (message : TimelineMessage)
  | createArtifact (artifact : Artifact)
  | updateArtifact (artifactId : String) (size : Option ℕ) (sha256 : Option String)
      (storageKey : String) (status : ArtifactStatus)
  | lock (threadId summary : String) (coveredUntil : Int)
  | advance (threadId : String) (now : Timestamp)
  | rollback (threadId : String)

/-- The arguments of `create`, checked. -/
def creationRequest (threadId summary : String) (coveredUntil : Int) :
    Except ContextError (String × String × ℕ) := do
  let threadId ← requiredText threadId "thread_id"
  let summary ← requiredText summary "summary"
  let coveredUntil ← requiredPositiveInteger coveredUntil "covered_until"
  return (threadId, summary, coveredUntil)

/-- The next statement of a creation: the next stage, or the rows with the new snapshot, or the
error it raises. -/
def Creation.next (creation : Creation) (tables : ContextTables) (threadId : String)
    (now : Timestamp) : Except ContextError (ContextTables ⊕ CreationStage) :=
  match creation.stage with
  | .locked => do
    let latest := latestRecord tables threadId
    requireAdvance latest creation.coveredUntil
    return .inr (.advanced latest)
  | .advanced latest => do
    requireBounded tables threadId creation.coveredUntil
    return .inr (.bounded latest)
  | .bounded latest => do
    requireFinished tables threadId (latest.map ContextSnapshotRecord.coveredUntil)
      creation.coveredUntil
    return .inr (.finished latest)
  | .finished latest => do
    let references ← coveredReferences tables threadId
      (latest.map ContextSnapshotRecord.coveredUntil) creation.coveredUntil
    return .inr (.validated latest references
      ((references.map Prod.fst).dedup.insertionSort (· ≤ ·)))
  | .validated latest _ [] =>
    .ok (.inl { tables with snapshots := tables.snapshots ++
      [nextSnapshot latest threadId creation.summary creation.coveredUntil now] })
  | .validated latest references pending => do
    requireResolved tables references (pending.take artifactLookupBatchSize)
    return .inr (.validated latest references (pending.drop artifactLookupBatchSize))

/-- The rows after a statement on the artifacts. -/
def updateArtifact (artifactId : String) (size : Option ℕ) (sha256 : Option String)
    (storageKey : String) (status : ArtifactStatus) (artifacts : List Artifact) : List Artifact :=
  updateWhere (fun artifact => artifact.artifactId = artifactId)
    (fun artifact => { artifact with size, sha256, storageKey, status }) artifacts

/-- The lock of a thread given to a creation, or set free. -/
def History.setCreation (history : History) (threadId : String) (creation : Option Creation) :
    History :=
  { history with creations := Function.update history.creations threadId creation }

@[simp] lemma setCreation_self (history : History) (threadId : String)
    (creation : Option Creation) :
    (history.setCreation threadId creation).creations threadId = creation := by
  simp [History.setCreation]

variable {threadId : String}

/-- The other threads keep their creations. -/
lemma setCreation_of_ne (history : History) {other : String} (hother : other ≠ threadId)
    (creation : Option Creation) :
    (history.setCreation threadId creation).creations other = history.creations other := by
  simp [History.setCreation, hother]

/-- The system after an action. -/
def step (history : History) : Action → History
  | .dispatch call =>
    { history with tables := { history.tables with
        dispatch := Dispatch.step history.tables.dispatch call } }
  | .receive message =>
    { history with tables := { history.tables with
        messages := history.tables.messages ++ [message] } }
  | .createArtifact artifact =>
    { history with tables := { history.tables with
        artifacts := history.tables.artifacts ++ [artifact] } }
  | .updateArtifact artifactId size sha256 storageKey status =>
    { history with tables := { history.tables with
        artifacts := updateArtifact artifactId size sha256 storageKey status
          history.tables.artifacts } }
  | .lock threadId summary coveredUntil =>
    match creationRequest threadId summary coveredUntil with
    | .error _ => history
    | .ok (threadId, summary, coveredUntil) =>
      if (∃ thread ∈ history.tables.dispatch.threads, thread.id = threadId) ∧
          history.creations threadId = none then
        history.setCreation threadId (some ⟨summary, coveredUntil, .locked⟩)
      else history
  | .advance threadId now =>
    match history.creations threadId with
    | none => history
    | some creation =>
      match creation.next history.tables threadId now with
      | .error _ => history.setCreation threadId none
      | .ok (.inl tables) => { history with tables }.setCreation threadId none
      | .ok (.inr stage) => history.setCreation threadId (some { creation with stage })
  | .rollback threadId => history.setCreation threadId none

/-- What the database and the id generators guarantee: a record is enqueued for a stored message,
with an id above all of its thread; a message and an artifact get an id of their own. -/
def Admissible (tables : ContextTables) : Action → Prop
  | .dispatch (.enqueue admission id _) => ∀ target, dispatchTarget admission = .ok target →
      0 < id ∧ (∃ message ∈ tables.messages, message.id = target.messageId) ∧
      ∀ record ∈ tables.dispatch.records, record.aiThreadId = target.aiThreadId → record.id < id
  | .receive message => ∀ other ∈ tables.messages, other.id ≠ message.id
  | .createArtifact artifact => ∀ other ∈ tables.artifacts,
      other.artifactId ≠ artifact.artifactId
  | _ => True

/-! ## What no action undoes -/

/-- What the rows keep of themselves over an action. -/
structure Grows (tables tables' : ContextTables) : Prop where
  persists : ∀ record ∈ tables.dispatch.records, ∃ record' ∈ tables'.dispatch.records,
    record'.id = record.id ∧ record'.aiThreadId = record.aiThreadId ∧
      (record.Finished → record' = record)
  origin : ∀ record' ∈ tables'.dispatch.records,
    (∃ record ∈ tables.dispatch.records, record.id = record'.id ∧
      record.aiThreadId = record'.aiThreadId ∧ record.messageId = record'.messageId ∧
      (record.Finished → record' = record)) ∨
    0 < record'.id ∧ ∀ record ∈ tables.dispatch.records,
      record.aiThreadId = record'.aiThreadId → record.id < record'.id
  responses : ∀ record ∈ tables.dispatch.records, record.Finished →
    (tables'.dispatch.responses.filter fun response => response.dispatchRecordId = record.id) =
      tables.dispatch.responses.filter fun response => response.dispatchRecordId = record.id
  messages : ∀ record ∈ tables.dispatch.records,
    (tables'.messages.filter fun message => message.id = record.messageId) =
      tables.messages.filter fun message => message.id = record.messageId
  artifacts : ∀ artifactId artifact,
    (tables.artifacts.find? fun artifact => artifact.artifactId = artifactId) = some artifact →
    ∃ artifact', (tables'.artifacts.find? fun artifact => artifact.artifactId = artifactId) =
      some artifact' ∧ artifact'.responseId = artifact.responseId
  persistedAt : tables'.persistedAt = tables.persistedAt

/-- The rows are sound: unique record ids, and a stored message for each record. -/
structure Sound (tables : ContextTables) : Prop where
  ids : UniqueKeys HermesDispatchRecord.id tables.dispatch.records
  messages : ∀ record ∈ tables.dispatch.records,
    ∃ message ∈ tables.messages, message.id = record.messageId

section Growth

variable {tables tables' : ContextTables} {history : History} {action : Action}

lemma Grows.refl (tables : ContextTables) : Grows tables tables where
  persists := fun record hrecord => ⟨record, hrecord, rfl, rfl, fun _ => rfl⟩
  origin := fun record hrecord => Or.inl ⟨record, hrecord, rfl, rfl, rfl, fun _ => rfl⟩
  responses := fun _ _ _ => rfl
  messages := fun _ _ => rfl
  artifacts := fun _ artifact hfind => ⟨artifact, hfind, rfl⟩
  persistedAt := rfl

/-- A new result belongs to a record that was running. -/
lemma responses_of_terminal (hsound : Sound tables) (call : Dispatch.Call)
    {record : HermesDispatchRecord} (hrecord : record ∈ tables.dispatch.records)
    (hterminal : record.Finished) :
    ((Dispatch.step tables.dispatch call).responses.filter fun response =>
        response.dispatchRecordId = record.id) =
      tables.dispatch.responses.filter fun response =>
        response.dispatchRecordId = record.id := by
  rcases responses_step_cases tables.dispatch call with hsame |
    ⟨recordId, token, outcome, responseId, dbNow, rfl⟩
  · rw [hsame]
  · rcases step_completeSuccess_cases tables.dispatch recordId token outcome responseId dbNow with
      hsame | ⟨tables', hstep, ⟨running, hrunning, hguard, -⟩, -, hresponses⟩
    · rw [hsame]
    · have hother : recordId ≠ record.id := by
        intro heq
        have hsame : running = record :=
          hsound.ids.eq_of_key_eq hrunning hrecord (hguard.1.1.trans heq)
        rw [← hsame] at hterminal
        rcases hterminal with h | h <;> rw [hguard.1.2.1] at h <;> cases h
      rw [hstep, hresponses, List.filter_append, List.filter_singleton]
      simp [newResponse, hother]

/-- A dispatch call only adds to the timeline. -/
lemma grows_dispatch (hsound : Sound tables) (call : Dispatch.Call)
    (hadmissible : Admissible tables (.dispatch call)) :
    Grows tables { tables with dispatch := Dispatch.step tables.dispatch call } where
  persists := by
    intro record hrecord
    obtain ⟨record', hrecord', hmove⟩ := step_persists hrecord call
    exact ⟨record', hrecord', hmove.identity.1, hmove.identity.2.2.1, hmove.eq_of_finished⟩
  origin := by
    intro record' hrecord'
    rcases step_origin hrecord' with ⟨record, hrecord, hmove⟩ |
      ⟨admission, target, id, createdAt, rfl, htarget, rfl, -⟩
    · obtain ⟨hid, hmessage, hthread, -⟩ := hmove.identity
      exact Or.inl ⟨record, hrecord, hid.symm, hthread.symm, hmessage.symm, hmove.eq_of_finished⟩
    · obtain ⟨hpositive, -, habove⟩ := hadmissible target htarget
      exact Or.inr ⟨hpositive, habove⟩
  responses := fun record hrecord hterminal => responses_of_terminal hsound call hrecord hterminal
  messages := fun _ _ => rfl
  artifacts := fun _ artifact hfind => ⟨artifact, hfind, rfl⟩
  persistedAt := rfl

/-- So does a message that arrives. -/
lemma grows_receive (hsound : Sound tables) {message : TimelineMessage}
    (hadmissible : Admissible tables (.receive message)) :
    Grows tables { tables with messages := tables.messages ++ [message] } := by
  refine { Grows.refl tables with messages := ?_ }
  intro record hrecord
  obtain ⟨stored, hstored, hid⟩ := hsound.messages record hrecord
  have hother : message.id ≠ record.messageId := fun heq =>
    hadmissible stored hstored (hid.trans heq.symm)
  simp [List.filter_append, hother]

lemma find?_append_of_some {α : Type} {p : α → Bool} {l l' : List α} {a : α}
    (h : l.find? p = some a) : (l ++ l').find? p = some a := by
  rw [List.find?_append, h]
  rfl

/-- So do artifacts that keep their responses. -/
lemma grows_artifacts {artifacts : List Artifact}
    (h : ∀ artifactId artifact,
      (tables.artifacts.find? fun artifact => artifact.artifactId = artifactId) = some artifact →
      ∃ artifact', (artifacts.find? fun artifact => artifact.artifactId = artifactId) =
        some artifact' ∧ artifact'.responseId = artifact.responseId) :
    Grows tables { tables with artifacts } :=
  { Grows.refl tables with artifacts := h }

lemma grows_snapshots (tables : ContextTables) (snapshots : List ContextSnapshotRecord) :
    Grows tables { tables with snapshots } :=
  { Grows.refl tables with }

/-- The calls that may happen keep the tables sound. -/
lemma sound_dispatch (hsound : Sound tables) (call : Dispatch.Call)
    (hadmissible : Admissible tables (.dispatch call)) :
    Sound { tables with dispatch := Dispatch.step tables.dispatch call } where
  ids := step_uniqueIds hsound.ids
  messages := by
    intro record' hrecord'
    rcases step_origin hrecord' with ⟨record, hrecord, hmove⟩ |
      ⟨admission, target, id, createdAt, rfl, htarget, rfl, -⟩
    · rw [hmove.identity.2.1]
      exact hsound.messages record hrecord
    · exact (hadmissible target htarget).2.1

/-- What an action can do to the system. -/
inductive Step (history : History) : History → Prop
  | rows {tables' : ContextTables} (hgrows : Grows history.tables tables') (hsound : Sound tables')
      (hsnapshots : tables'.snapshots = history.tables.snapshots) :
      Step history { history with tables := tables' }
  | locked {threadId summary coveredUntil} :
      Step history (history.setCreation threadId (some ⟨summary, coveredUntil, .locked⟩))
  | staged {threadId creation stage now} (hcreation : history.creations threadId = some creation)
      (hnext : creation.next history.tables threadId now = .ok (.inr stage)) :
      Step history (history.setCreation threadId (some { creation with stage }))
  | committed {threadId creation latest references now}
      (hcreation : history.creations threadId = some creation)
      (hstage : creation.stage = .validated latest references []) :
      Step history (History.setCreation { history with tables := { history.tables with
        snapshots := history.tables.snapshots ++
          [nextSnapshot latest threadId creation.summary creation.coveredUntil now] } }
        threadId none)
  | released {threadId : String} : Step history (history.setCreation threadId none)

lemma Step.refl (hsound : Sound history.tables) : Step history history :=
  .rows (.refl _) hsound rfl

/-- A stage that goes on writes nothing. -/
lemma staged_ne_inl {α : Type} {x : Except ContextError α} {stage : α → CreationStage} :
    (x >>= fun a => (pure (.inr (stage a)) : Except _ (ContextTables ⊕ CreationStage))) ≠
      .ok (.inl tables') := by
  intro h
  obtain ⟨_, -, h⟩ := bind_eq_ok.mp h
  cases h

/-- Only the last statement of a creation changes the rows. -/
lemma next_eq_inl {creation : Creation} {now : Timestamp}
    (h : creation.next tables threadId now = .ok (.inl tables')) :
    ∃ latest references, creation.stage = .validated latest references [] ∧
      tables' = { tables with snapshots := tables.snapshots ++
        [nextSnapshot latest threadId creation.summary creation.coveredUntil now] } := by
  unfold Creation.next at h
  split at h
  case h_5 latest references hstage =>
    cases h
    exact ⟨latest, references, hstage, rfl⟩
  all_goals exact absurd h staged_ne_inl

/-- What the action has done. -/
theorem step_cases (hsound : Sound history.tables)
    (hadmissible : Admissible history.tables action) : Step history (step history action) := by
  cases action with
  | dispatch call =>
    exact .rows (grows_dispatch hsound call hadmissible) (sound_dispatch hsound call hadmissible)
      rfl
  | receive message =>
    refine .rows (grows_receive hsound hadmissible) ⟨hsound.ids, ?_⟩ rfl
    intro record hrecord
    obtain ⟨stored, hstored, hid⟩ := hsound.messages record hrecord
    exact ⟨stored, List.mem_append_left _ hstored, hid⟩
  | createArtifact artifact =>
    exact .rows (grows_artifacts fun _ found hfind => ⟨found, find?_append_of_some hfind, rfl⟩)
      ⟨hsound.ids, hsound.messages⟩ rfl
  | updateArtifact artifactId size sha256 storageKey status =>
    refine .rows (grows_artifacts fun id artifact hfind => ?_) ⟨hsound.ids, hsound.messages⟩ rfl
    -- an update keeps the ids and the responses
    refine ⟨if artifact.artifactId = artifactId then
      { artifact with size, sha256, storageKey, status } else artifact, ?_, ?_⟩
    · rw [updateArtifact, find?_updateWhere, hfind]
      · rfl
      · exact fun _ => rfl
    · split_ifs <;> rfl
  | lock threadId summary coveredUntil =>
    simp only [step]
    split
    · exact .refl hsound
    · split
      · exact .locked
      · exact .refl hsound
  | advance threadId now =>
    simp only [step]
    split
    · exact .refl hsound
    · rename_i creation hcreation
      split
      · exact .released
      · rename_i tables hnext
        obtain ⟨latest, references, hstage, rfl⟩ := next_eq_inl hnext
        exact .committed hcreation hstage
      · rename_i stage hnext
        exact .staged hcreation hnext
  | rollback threadId => exact .released

end Growth

/-! ## Settled turns -/

/-- All turns of a range have come to their end. -/
def TurnsFinished (tables : ContextTables) (threadId : String) (validatedFrom : Option ℕ)
    (coveredUntil : ℕ) : Prop :=
  ∀ record ∈ tables.dispatch.records, Covered threadId validatedFrom coveredUntil record →
    record.Finished

/-- The artifacts that the responses of a range refer to. -/
def Referenced (tables : ContextTables) (threadId : String) (validatedFrom : Option ℕ)
    (coveredUntil : ℕ) (artifactId : String) : Prop :=
  ∃ response ∈ tables.dispatch.responses,
    CoveredResponse tables threadId validatedFrom coveredUntil response ∧
    ∃ payload ∈ responsePayload response, ∃ envelope,
      ResponseEnvelope.modelValidate payload = .ok envelope ∧ artifactId ∈ artifactIds envelope

/-- There is a row of the artifact. -/
def ArtifactStored (tables : ContextTables) (artifactId : String) : Prop :=
  ∃ artifact, (tables.artifacts.find? fun artifact => artifact.artifactId = artifactId) =
    some artifact

/-- Everything below the boundary is settled: it lies within the history, all turns have come to
their end, and all artifacts they refer to have their rows. -/
structure Settled (tables : ContextTables) (threadId : String) (coveredUntil : ℕ) : Prop where
  bounded : coveredUntil ≤ timelineEnd tables threadId
  finished : TurnsFinished tables threadId none coveredUntil
  stored : ∀ artifactId, Referenced tables threadId none coveredUntil artifactId →
    ArtifactStored tables artifactId

section Settled

variable {tables tables' : ContextTables} {threadId : String} {validatedFrom : Option ℕ}
  {coveredUntil bound : ℕ} {artifactId : String}

lemma foldl_max_le {l : List ℕ} {start : ℕ} :
    l.foldl max start ≤ bound ↔ start ≤ bound ∧ ∀ x ∈ l, x ≤ bound := by
  induction l generalizing start with
  | nil => simp
  | cons x l ih => simp [ih, and_assoc]

/-- The timeline ends behind the last record of the thread. -/
lemma timelineEnd_le_iff : timelineEnd tables threadId ≤ bound + 1 ↔
    ∀ record ∈ tables.dispatch.records, record.aiThreadId = threadId → record.id ≤ bound := by
  simp only [timelineEnd, Nat.add_le_add_iff_right, foldl_max_le, Nat.zero_le, true_and,
    List.mem_map, List.mem_filter, decide_eq_true_eq, forall_exists_index, and_imp]
  constructor
  · intro h record hrecord hthread
    exact h record.id record hrecord hthread rfl
  · rintro h - record hrecord hthread rfl
    exact h record hrecord hthread

variable {record record' : HermesDispatchRecord}

lemma lt_timelineEnd (hrecord : record ∈ tables.dispatch.records)
    (hthread : record.aiThreadId = threadId) : record.id < timelineEnd tables threadId := by
  have hle : timelineEnd tables threadId ≤ (timelineEnd tables threadId - 1) + 1 := by omega
  have hid := timelineEnd_le_iff.mp hle record hrecord hthread
  have hpos : 0 < timelineEnd tables threadId := Nat.succ_pos _
  omega

section Grows

variable (h : Grows tables tables')

include h

/-- The history of a thread only gets longer. -/
lemma Grows.timelineEnd_le (threadId : String) :
    timelineEnd tables threadId ≤ timelineEnd tables' threadId := by
  have hpos : 0 < timelineEnd tables' threadId := Nat.succ_pos _
  have hle : timelineEnd tables threadId ≤ (timelineEnd tables' threadId - 1) + 1 := by
    rw [timelineEnd_le_iff]
    intro record hrecord hthread
    obtain ⟨record', hrecord', hid, hthread', -⟩ := h.persists record hrecord
    have := lt_timelineEnd hrecord' (hthread'.trans hthread)
    omega
  omega

/-- A record below the end of the old history was there before. -/
lemma Grows.origin_of_lt (hrecord' : record' ∈ tables'.dispatch.records)
    (hlt : record'.id < timelineEnd tables record'.aiThreadId) :
    ∃ record ∈ tables.dispatch.records, record.id = record'.id ∧
      record.aiThreadId = record'.aiThreadId ∧ (record.Finished → record' = record) := by
  rcases h.origin record' hrecord' with ⟨record, hrecord, hid, hthread, -, hterminal⟩ |
    ⟨hpositive, habove⟩
  · exact ⟨record, hrecord, hid, hthread, hterminal⟩
  · -- a new record has an id of at least the old end
    exfalso
    have hle : timelineEnd tables record'.aiThreadId ≤ (record'.id - 1) + 1 := by
      rw [timelineEnd_le_iff]
      intro record hrecord hthread
      have := habove record hrecord hthread
      omega
    omega

/-- A covered record was there before, and had finished. -/
lemma Grows.covered_origin (hbounded : coveredUntil ≤ timelineEnd tables threadId)
    (hfinished : TurnsFinished tables threadId validatedFrom coveredUntil)
    (hrecord' : record' ∈ tables'.dispatch.records)
    (hcovered : Covered threadId validatedFrom coveredUntil record') :
    record' ∈ tables.dispatch.records ∧ record'.Finished := by
  obtain ⟨hthread, hlt, hfrom⟩ := hcovered
  obtain ⟨record, hrecord, hid, hsame, hterminal⟩ := h.origin_of_lt hrecord'
    (by rw [hthread]; omega)
  have hended : record.Finished := hfinished record hrecord
    ⟨hsame.trans hthread, hid ▸ hlt, hid ▸ hfrom⟩
  rw [hterminal hended]
  exact ⟨hrecord, hended⟩

/-- Covered turns stay finished. -/
lemma Grows.turnsFinished (hbounded : coveredUntil ≤ timelineEnd tables threadId)
    (hfinished : TurnsFinished tables threadId validatedFrom coveredUntil) :
    TurnsFinished tables' threadId validatedFrom coveredUntil := fun _ hrecord' hcovered =>
  (h.covered_origin hbounded hfinished hrecord' hcovered).2

lemma Grows.artifactStored (hstored : ArtifactStored tables artifactId) :
    ArtifactStored tables' artifactId := by
  obtain ⟨artifact, hfind⟩ := hstored
  obtain ⟨artifact', hfind', -⟩ := h.artifacts artifactId artifact hfind
  exact ⟨artifact', hfind'⟩

/-- What finished turns refer to, they referred to before. -/
lemma Grows.referenced (hbounded : coveredUntil ≤ timelineEnd tables threadId)
    (hfinished : TurnsFinished tables threadId validatedFrom coveredUntil)
    (hreferenced : Referenced tables' threadId validatedFrom coveredUntil artifactId) :
    Referenced tables threadId validatedFrom coveredUntil artifactId := by
  obtain ⟨response, hresponse, ⟨record', hrecord', hof, hcovered, hstatus⟩, hpayload⟩ :=
    hreferenced
  obtain ⟨hrecord, hended⟩ := h.covered_origin hbounded hfinished hrecord' hcovered
  have hmem : response ∈ tables'.dispatch.responses.filter fun response =>
      response.dispatchRecordId = record'.id :=
    List.mem_filter.mpr ⟨hresponse, decide_eq_true hof.symm⟩
  rw [h.responses record' hrecord hended] at hmem
  exact ⟨response, List.mem_of_mem_filter hmem, ⟨record', hrecord, hof, hcovered, hstatus⟩,
    hpayload⟩

end Grows

/-- What is settled stays settled. -/
lemma Settled.of_grows (hsettled : Settled tables threadId coveredUntil)
    (h : Grows tables tables') : Settled tables' threadId coveredUntil where
  bounded := hsettled.bounded.trans (h.timelineEnd_le threadId)
  finished := h.turnsFinished hsettled.bounded hsettled.finished
  stored := fun artifactId hreferenced => h.artifactStored
    (hsettled.stored artifactId (h.referenced hsettled.bounded hsettled.finished hreferenced))

/-! ## Timelines of settled turns -/

lemma mem_timelineRecords {rangeStart rangeEnd : Option ℕ} :
    record ∈ timelineRecords tables threadId rangeStart rangeEnd ↔
      record ∈ tables.dispatch.records ∧ record.aiThreadId = threadId ∧
        record.status = .success ∧ (∀ start ∈ rangeStart, start ≤ record.id) ∧
        ∀ end_ ∈ rangeEnd, record.id < end_ := by
  simp only [timelineRecords, List.mem_filter, List.mem_insertionSort, decide_eq_true_eq]

/-- A settled range has the same records for good. -/
lemma Settled.timelineRecords_eq (hsettled : Settled tables threadId coveredUntil)
    (h : Grows tables tables') (hsound : Sound tables) (hsound' : Sound tables') :
    timelineRecords tables' threadId none (some coveredUntil) =
      timelineRecords tables threadId none (some coveredUntil) := by
  refine filter_insertionSort_congr hsound'.ids hsound.ids fun record hshown => ?_
  obtain ⟨hthread, hstatus, -, hend⟩ := of_decide_eq_true hshown
  constructor
  · intro hrecord
    exact (h.covered_origin hsettled.bounded hsettled.finished hrecord
      ⟨hthread, hend coveredUntil rfl, nofun⟩).1
  · intro hrecord
    obtain ⟨record', hrecord', -, -, hsame⟩ := h.persists record hrecord
    rwa [hsame (Or.inl hstatus)] at hrecord'

/-- A part refers to an artifact that has its row, so it is shown or not shown as before. -/
lemma Grows.storedFor_iff (h : Grows tables tables') (hstored : ArtifactStored tables artifactId)
    (responseId : String) :
    StoredFor tables'.artifacts artifactId responseId ↔
      StoredFor tables.artifacts artifactId responseId := by
  obtain ⟨artifact, hfind⟩ := hstored
  obtain ⟨artifact', hfind', hof⟩ := h.artifacts artifactId artifact hfind
  unfold StoredFor
  rw [hfind, hfind']
  simp only [Option.some.injEq, exists_eq_left', hof]

lemma mem_artifactIds {envelope : ResponseEnvelope} :
    artifactId ∈ artifactIds envelope ↔ ResponsePart.artifactRef artifactId ∈ envelope.parts := by
  unfold artifactIds
  rw [List.mem_filterMap]
  constructor
  · rintro ⟨part, hpart, hsome⟩
    cases part with
    | text text => cases hsome
    | artifactRef id =>
      cases hsome
      exact hpart
  · intro hpart
    exact ⟨_, hpart, rfl⟩

/-- The entries of a response stay the same while its artifacts are stored. -/
lemma responseEntries_eq (h : Grows tables tables') (threadId : String)
    (record : HermesDispatchRecord) (response : HermesDispatchResponse)
    (hstored : ∀ payload ∈ responsePayload response, ∀ envelope,
      ResponseEnvelope.modelValidate payload = .ok envelope →
      ∀ artifactId ∈ artifactIds envelope, ArtifactStored tables artifactId) :
    responseEntries tables' threadId record response =
      responseEntries tables threadId record response := by
  unfold responseEntries payloadEntries
  rw [h.persistedAt]
  cases hpayload : responsePayload response with
  | none => rfl
  | some payload =>
    cases payload with
    | null => rfl
    | _ =>
      dsimp only
      cases henvelope : ResponseEnvelope.modelValidate _ with
      | error error => rfl
      | ok envelope =>
        dsimp only
        congr 2
        apply List.mapIdx_eq_mapIdx_iff.mpr
        intro index hindex
        cases hpart : envelope.parts[index] with
        | text text => rfl
        | artifactRef artifactId =>
          have hmem : artifactId ∈ artifactIds envelope :=
            mem_artifactIds.mpr (hpart ▸ List.getElem_mem hindex)
          dsimp only
          rw [if_congr (h.storedFor_iff (hstored _ hpayload envelope henvelope artifactId hmem)
            envelope.responseId) rfl rfl]

/-- The turns below a settled boundary are shown as before. -/
lemma Settled.turns_eq (hsettled : Settled tables threadId coveredUntil)
    (h : Grows tables tables') (hsound : Sound tables) (hsound' : Sound tables') :
    (timelineRows tables' threadId none (some coveredUntil)).mapM (turnEntries tables' threadId) =
      (timelineRows tables threadId none (some coveredUntil)).mapM
        (turnEntries tables threadId) := by
  have hrows : timelineRows tables' threadId none (some coveredUntil) =
      timelineRows tables threadId none (some coveredUntil) := by
    rw [timelineRows, timelineRows, hsettled.timelineRecords_eq h hsound hsound']
    apply List.flatMap_congr
    intro record hrecord
    obtain ⟨hmem, hthread, hstatus, -⟩ := mem_timelineRecords.mp hrecord
    rw [recordRows, recordRows, h.messages record hmem, h.responses record hmem (Or.inl hstatus)]
  rw [hrows]
  apply mapM_congr
  rintro ⟨record, message, response⟩ hrow
  obtain ⟨shown, hshown, hrow⟩ := List.mem_flatMap.mp hrow
  obtain ⟨rfl, hresponse, hof⟩ := mem_recordRows hrow
  obtain ⟨hmem, hthread, hstatus, -, hend⟩ := mem_timelineRecords.mp hshown
  have hcovered : CoveredResponse tables threadId none coveredUntil response :=
    ⟨record, hmem, hof.symm, ⟨hthread, hend coveredUntil rfl, fun _ h => by cases h⟩, hstatus⟩
  unfold turnEntries
  rw [responseEntries_eq h threadId record response fun payload hpayload envelope henvelope
    artifactId hartifact => hsettled.stored artifactId
      ⟨response, hresponse, hcovered, payload, hpayload, envelope, henvelope, hartifact⟩]

lemma optionalPositiveInteger_natCast {result : Option ℕ} {fieldName : String}
    (h : optionalPositiveInteger (some (bound : Int)) fieldName = .ok result) :
    result = some bound := by
  simp only [optionalPositiveInteger, requiredPositiveInteger] at h
  by_cases hle : (bound : Int) ≤ 0
  · simp only [raiseIf, if_pos hle] at h
    cases h
  · simp only [raiseIf, if_neg hle] at h
    cases h
    rw [Int.toNat_natCast]

/-- The timeline up to a settled boundary is the same afterwards. -/
lemma Settled.readTimeline_eq {value : String}
    (hsettled : Settled tables (strip value) coveredUntil) (h : Grows tables tables')
    (hsound : Sound tables) (hsound' : Sound tables') :
    readTimeline tables' value none (some (coveredUntil : Int)) =
      readTimeline tables value none (some (coveredUntil : Int)) := by
  unfold readTimeline
  cases hvalue : requiredText value "thread_id" with
  | error error => rfl
  | ok threadId =>
    obtain rfl := requiredText_eq_ok hvalue
    cases hend : optionalPositiveInteger (some (coveredUntil : Int)) "to" with
    | error error => rfl
    | ok rangeEnd =>
      obtain rfl := optionalPositiveInteger_natCast hend
      have hturns := hsettled.turns_eq h hsound hsound'
      simp only [optionalPositiveInteger, Bind.bind, Except.bind] at hturns ⊢
      rw [hturns]

/-! ## The two halves of a timeline -/

/-- A timeline is its part below a bound and the part from there on. -/
lemma timelineRecords_split (tables : ContextTables) (threadId : String) (bound : ℕ) :
    timelineRecords tables threadId none (some bound) ++
      timelineRecords tables threadId (some bound) none =
        timelineRecords tables threadId none none := by
  have : Std.Total fun a b : HermesDispatchRecord => a.id ≤ b.id :=
    ⟨fun a b => Nat.le_total a.id b.id⟩
  have : IsTrans HermesDispatchRecord fun a b => a.id ≤ b.id :=
    ⟨fun _ _ _ hab hbc => Nat.le_trans hab hbc⟩
  have hsplit := filter_lt_append_filter_le
    ((List.pairwise_insertionSort (fun a b : HermesDispatchRecord => a.id ≤ b.id)
      tables.dispatch.records).filter fun record =>
        record.aiThreadId = threadId ∧ record.status = .success) bound
  simpa [timelineRecords, List.filter_filter, Bool.and_comm, Bool.and_assoc] using hsplit

/-- Both halves, one after the other, are the whole timeline. -/
lemma readTimeline_split (tables : ContextTables) (value : String) (hbound : 1 ≤ bound) :
    (readTimeline tables value none (some (bound : Int)) >>= fun before =>
      readTimeline tables value (some (bound : Int)) none >>= fun after =>
        .ok (before ++ after)) = read tables value := by
  have hpositive : ∀ fieldName, optionalPositiveInteger (some (bound : Int)) fieldName =
      .ok (some bound) := by
    intro fieldName
    simp only [optionalPositiveInteger, requiredPositiveInteger, raiseIf,
      if_neg (show ¬ (bound : Int) ≤ 0 by omega)]
    exact congrArg (fun n => Except.ok (some n)) (Int.toNat_natCast bound)
  unfold read readTimeline
  cases hvalue : requiredText value "thread_id" with
  | error error => rfl
  | ok threadId =>
    have hrows : timelineRows tables threadId none none =
        timelineRows tables threadId none (some bound) ++
          timelineRows tables threadId (some bound) none := by
      rw [timelineRows, timelineRows, timelineRows, ← List.flatMap_append, timelineRecords_split]
    simp only [hpositive]
    simp only [optionalPositiveInteger, raiseIf, Bind.bind, Except.bind, Pure.pure, Except.pure]
    rw [hrows, List.mapM_append]
    dsimp only [Bind.bind, Except.bind, Pure.pure, Except.pure]
    cases (timelineRows tables threadId none (some bound)).mapM (turnEntries tables threadId) with
    | error error => simp
    | ok before =>
      cases (timelineRows tables threadId (some bound) none).mapM
          (turnEntries tables threadId) with
      | error error => simp
      | ok after => simp

end Settled

/-! ## The invariant -/

/-- The latest snapshot of the thread, not beyond the boundary. -/
def IsLatest (tables : ContextTables) (threadId : String) (latest : Option ContextSnapshotRecord)
    (coveredUntil : ℕ) : Prop :=
  latest = latestRecord tables threadId ∧
    ∀ snapshot ∈ latest, snapshot.coveredUntil ≤ coveredUntil

/-- The boundary lies within the history, and all newly covered turns have come to their end. -/
structure Passed (tables : ContextTables) (threadId : String)
    (latest : Option ContextSnapshotRecord) (coveredUntil : ℕ) : Prop where
  isLatest : IsLatest tables threadId latest coveredUntil
  bounded : coveredUntil ≤ timelineEnd tables threadId
  finished : TurnsFinished tables threadId (latest.map ContextSnapshotRecord.coveredUntil)
    coveredUntil

/-- What a creation has found so far still holds. -/
def Progress (tables : ContextTables) (threadId : String) (creation : Creation) : Prop :=
  match creation.stage with
  | .locked => True
  | .advanced latest => IsLatest tables threadId latest creation.coveredUntil
  | .bounded latest => IsLatest tables threadId latest creation.coveredUntil ∧
      creation.coveredUntil ≤ timelineEnd tables threadId
  | .finished latest => Passed tables threadId latest creation.coveredUntil
  | .validated latest _ pending => Passed tables threadId latest creation.coveredUntil ∧
      ∀ artifactId, Referenced tables threadId (latest.map ContextSnapshotRecord.coveredUntil)
        creation.coveredUntil artifactId → artifactId ∈ pending ∨ ArtifactStored tables artifactId

/-- The snapshots of a thread, in the order of their creation. -/
def snapshotsOf (tables : ContextTables) (threadId : String) : List ContextSnapshotRecord :=
  tables.snapshots.filter fun snapshot => snapshot.threadId = threadId

/-- The snapshots of a thread are numbered from one, and none goes back behind an earlier one. -/
structure Numbered (snapshots : List ContextSnapshotRecord) : Prop where
  versions : snapshots.map ContextSnapshotRecord.snapshotVersion = List.range' 1 snapshots.length
  ordered : ∀ a ∈ snapshots, ∀ b ∈ snapshots, a.snapshotVersion ≤ b.snapshotVersion →
    a.coveredUntil ≤ b.coveredUntil

/-- The invariant of the system. -/
structure Inv (history : History) : Prop where
  sound : Sound history.tables
  numbered : ∀ threadId, Numbered (snapshotsOf history.tables threadId)
  settled : ∀ snapshot ∈ history.tables.snapshots,
    Settled history.tables snapshot.threadId snapshot.coveredUntil
  creations : ∀ threadId creation, history.creations threadId = some creation →
    Progress history.tables threadId creation

section Invariant

variable {tables tables' : ContextTables} {threadId : String} {creation : Creation}
  {history history' : History}

/-- What a creation has checked outlives the growth of the tables. -/
lemma Progress.of_grows (hprogress : Progress tables threadId creation) (h : Grows tables tables')
    (hsame : latestRecord tables' threadId = latestRecord tables threadId) :
    Progress tables' threadId creation := by
  have hlatest : ∀ latest, IsLatest tables threadId latest creation.coveredUntil →
      IsLatest tables' threadId latest creation.coveredUntil := by
    intro latest hlatest
    rwa [IsLatest, hsame]
  have hend := h.timelineEnd_le threadId
  have hpassed : ∀ latest, Passed tables threadId latest creation.coveredUntil →
      Passed tables' threadId latest creation.coveredUntil := fun latest hpassed =>
    ⟨hlatest _ hpassed.isLatest, hpassed.bounded.trans hend,
      h.turnsFinished hpassed.bounded hpassed.finished⟩
  unfold Progress at hprogress ⊢
  split at hprogress
  · trivial
  · exact hlatest _ hprogress
  · exact ⟨hlatest _ hprogress.1, hprogress.2.trans hend⟩
  · exact hpassed _ hprogress
  · obtain ⟨hold, hstored⟩ := hprogress
    refine ⟨hpassed _ hold, fun artifactId hreferenced => ?_⟩
    rcases hstored artifactId (h.referenced hold.bounded hold.finished hreferenced) with hin | hrow
    · exact Or.inl hin
    · exact Or.inr (h.artifactStored hrow)

variable {snapshot : ContextSnapshotRecord} {coveredUntil start : ℕ}
  {references : List (String × String)} {latest : Option ContextSnapshotRecord}
  {artifactId : String}

lemma exists_mem_of_mapM {α β : Type} {f : α → Except ContextError β} {items : List α}
    {values : List β} (h : items.mapM f = .ok values) {item : α} (hitem : item ∈ items) :
    ∃ value ∈ values, f item = .ok value := by
  have hall := mapM_eq_ok.mp h
  clear h
  induction hall with
  | nil => cases hitem
  | @cons head value items values hhead _ ih =>
    rcases List.mem_cons.mp hitem with rfl | hitem
    · exact ⟨value, List.mem_cons_self, hhead⟩
    · obtain ⟨found, hfound, hvalue⟩ := ih hitem
      exact ⟨found, List.mem_cons_of_mem _ hfound, hvalue⟩

/-- The references that were read name every artifact of the range. -/
lemma referenced_of_references {validatedFrom : Option ℕ}
    (hreferences : coveredReferences tables threadId validatedFrom coveredUntil = .ok references)
    (h : Referenced tables threadId validatedFrom coveredUntil artifactId) :
    artifactId ∈ references.map Prod.fst := by
  obtain ⟨response, hresponse, hcovered, payload, hpayload, envelope, henvelope, hid⟩ := h
  simp only [coveredReferences, bind_eq_ok] at hreferences
  obtain ⟨lists, hlists, hflatten⟩ := hreferences
  cases hflatten
  have hmem : payload ∈ (tables.dispatch.responses.filter
      (CoveredResponse tables threadId validatedFrom coveredUntil)).filterMap responsePayload :=
    List.mem_filterMap.mpr ⟨response, List.mem_filter.mpr ⟨hresponse, decide_eq_true hcovered⟩,
      hpayload⟩
  obtain ⟨found, hfound, hvalue⟩ := exists_mem_of_mapM hlists hmem
  rw [payloadReferences, henvelope] at hvalue
  cases hvalue
  refine List.mem_map.mpr ⟨(artifactId, envelope.responseId), ?_, rfl⟩
  exact List.mem_flatten.mpr ⟨_, hfound, List.mem_map.mpr ⟨artifactId, hid, rfl⟩⟩

/-- Each statement of a creation adds to what it has found. -/
lemma Progress.next (hprogress : Progress tables threadId creation) {stage : CreationStage}
    {now : Timestamp} (h : creation.next tables threadId now = .ok (.inr stage)) :
    Progress tables threadId { creation with stage } := by
  unfold Creation.next at h
  unfold Progress at hprogress
  -- one check of the creation per stage
  split at h
  · simp only [bind_eq_ok, requireAdvance, raiseIf_eq_ok] at h
    obtain ⟨_, hadvance, h⟩ := h
    cases h
    refine ⟨rfl, fun snapshot hsnapshot => ?_⟩
    by_contra hlt
    exact hadvance ⟨snapshot, hsnapshot, Nat.lt_of_not_le hlt⟩
  · rename_i hstage
    simp only [bind_eq_ok, requireBounded, raiseIf_eq_ok] at h
    obtain ⟨_, hbounded, h⟩ := h
    cases h
    rw [hstage] at hprogress
    exact ⟨hprogress, Nat.le_of_not_lt hbounded⟩
  · rename_i hstage
    simp only [bind_eq_ok, requireFinished, raiseIf_eq_ok] at h
    obtain ⟨_, hfinished, h⟩ := h
    cases h
    rw [hstage] at hprogress
    refine ⟨hprogress.1, hprogress.2, fun record hrecord hcovered => ?_⟩
    by_contra hterminal
    refine hfinished ⟨record, hrecord, hcovered, ?_⟩
    unfold HermesDispatchRecord.Finished at hterminal
    cases hstatus : record.status <;> simp_all [unfinishedStatuses]
  · rename_i hstage
    simp only [bind_eq_ok] at h
    obtain ⟨references, hreferences, h⟩ := h
    cases h
    rw [hstage] at hprogress
    refine ⟨hprogress, fun artifactId hreferenced => Or.inl ?_⟩
    rw [List.mem_insertionSort, List.mem_dedup]
    exact referenced_of_references hreferences hreferenced
  · cases h
  · rename_i latest references pending hpending hstage
    simp only [bind_eq_ok, requireResolved, raiseIf_eq_ok] at h
    obtain ⟨_, hresolved, h⟩ := h
    cases h
    rw [hstage] at hprogress
    refine ⟨hprogress.1, fun artifactId hreferenced => ?_⟩
    -- an artifact is still pending, or was found in a batch before
    rcases hprogress.2 artifactId hreferenced with hin | hrow
    · rw [← List.take_append_drop artifactLookupBatchSize pending, List.mem_append] at hin
      rcases hin with htaken | hleft
      · right
        by_contra hmissing
        refine hresolved ⟨artifactId, htaken, ?_⟩
        rintro ⟨artifact, hfind, -⟩
        exact hmissing ⟨artifact, hfind⟩
      · exact Or.inl hleft
    · exact Or.inr hrow

/-- The ranges of two snapshots, one after the other. -/
lemma TurnsFinished.join (hbelow : TurnsFinished tables threadId none start)
    (habove : TurnsFinished tables threadId (some start) coveredUntil) :
    TurnsFinished tables threadId none coveredUntil := by
  rintro record hrecord ⟨hthread, hlt, -⟩
  rcases Nat.lt_or_ge record.id start with hbefore | hafter
  · exact hbelow record hrecord ⟨hthread, hbefore, nofun⟩
  · exact habove record hrecord ⟨hthread, hlt, fun bound hbound => by cases hbound; exact hafter⟩

lemma Referenced.split (h : Referenced tables threadId none coveredUntil artifactId) :
    Referenced tables threadId none start artifactId ∨
      Referenced tables threadId (some start) coveredUntil artifactId := by
  obtain ⟨response, hresponse, ⟨record, hrecord, hof, ⟨hthread, hlt, -⟩, hstatus⟩, hpayload⟩ := h
  rcases Nat.lt_or_ge record.id start with hbefore | hafter
  · exact Or.inl ⟨response, hresponse, ⟨record, hrecord, hof, ⟨hthread, hbefore, nofun⟩, hstatus⟩,
      hpayload⟩
  · exact Or.inr ⟨response, hresponse, ⟨record, hrecord, hof,
      ⟨hthread, hlt, fun bound hbound => by cases hbound; exact hafter⟩, hstatus⟩, hpayload⟩

lemma mem_snapshotsOf :
    snapshot ∈ snapshotsOf tables threadId ↔
      snapshot ∈ tables.snapshots ∧ snapshot.threadId = threadId := by
  rw [snapshotsOf, List.mem_filter, decide_eq_true_eq]

lemma mem_latestRecord (h : snapshot ∈ latestRecord tables threadId) :
    snapshot ∈ snapshotsOf tables threadId :=
  List.argmax_mem h

/-- A creation that has looked everything up has settled its boundary. -/
lemma Inv.settled_of_validated (hinv : Inv history)
    (hcreation : history.creations threadId = some creation)
    (hstage : creation.stage = .validated latest references []) :
    Settled history.tables threadId creation.coveredUntil := by
  have hprogress := hinv.creations threadId creation hcreation
  unfold Progress at hprogress
  rw [hstage] at hprogress
  obtain ⟨⟨⟨rfl, hle⟩, hbounded, hfinished⟩, hstored⟩ := hprogress
  have hrows : ∀ artifactId, Referenced history.tables threadId
      ((latestRecord history.tables threadId).map ContextSnapshotRecord.coveredUntil)
      creation.coveredUntil artifactId → ArtifactStored history.tables artifactId :=
    fun artifactId hreferenced => (hstored artifactId hreferenced).resolve_left List.not_mem_nil
  cases hlatest : latestRecord history.tables threadId with
  | none =>
    rw [hlatest] at hfinished hrows
    exact ⟨hbounded, hfinished, hrows⟩
  | some snapshot =>
    -- below the latest snapshot everything was settled before
    rw [hlatest] at hfinished hrows
    obtain ⟨hsnapshot, rfl⟩ := mem_snapshotsOf.mp (mem_latestRecord hlatest)
    have hbelow := hinv.settled snapshot hsnapshot
    refine ⟨hbounded, hbelow.finished.join hfinished, fun artifactId hreferenced => ?_⟩
    rcases hreferenced.split with hold | hnew
    · exact hbelow.stored artifactId hold
    · exact hrows artifactId hnew

/-- The next snapshot of a thread continues its numbers and its boundaries. -/
lemma Numbered.append (h : Numbered (snapshotsOf tables threadId)) (summary : String)
    (now : Timestamp) (hle : ∀ snapshot ∈ latestRecord tables threadId,
      snapshot.coveredUntil ≤ coveredUntil) :
    Numbered (snapshotsOf tables threadId ++
      [nextSnapshot (latestRecord tables threadId) threadId summary coveredUntil now]) := by
  set snapshots := snapshotsOf tables threadId with hsnapshots
  set new := nextSnapshot (latestRecord tables threadId) threadId summary coveredUntil now with hnew
  have hversion : ∀ snapshot ∈ snapshots, snapshot.snapshotVersion < snapshots.length + 1 := by
    intro snapshot hmem
    have hin := List.mem_map_of_mem (f := ContextSnapshotRecord.snapshotVersion) hmem
    rw [h.versions, List.mem_range'_1] at hin
    omega
  have hlast : new.snapshotVersion = snapshots.length + 1 ∧
      ∀ snapshot ∈ snapshots, snapshot.coveredUntil ≤ coveredUntil := by
    cases hlatest : latestRecord tables threadId with
    | none =>
      have hnil : snapshots = [] := List.argmax_eq_none.mp hlatest
      rw [hnew, hlatest, hnil]
      exact ⟨rfl, by rintro _ ⟨⟩⟩
    | some latest =>
      -- the latest snapshot has the last of the numbers
      have hmem : latest ∈ snapshots := mem_latestRecord hlatest
      have hge : snapshots.length ≤ latest.snapshotVersion := by
        have hin : snapshots.length ∈ snapshots.map ContextSnapshotRecord.snapshotVersion := by
          have hpos := List.length_pos_of_mem hmem
          rw [h.versions, List.mem_range'_1]
          omega
        obtain ⟨other, hother, hversion⟩ := List.mem_map.mp hin
        rw [← hversion]
        exact List.le_of_mem_argmax hother hlatest
      constructor
      · have hlt := hversion latest hmem
        rw [hnew, hlatest]
        show latest.snapshotVersion + 1 = _
        omega
      · intro snapshot hsnapshot
        exact (h.ordered snapshot hsnapshot latest hmem
          (List.le_of_mem_argmax hsnapshot hlatest)).trans (hle latest hlatest)
  constructor
  · rw [List.map_append, List.length_append, h.versions, List.map_singleton, hlast.1,
      List.length_singleton, List.range'_1_concat, Nat.add_comm 1]
  · intro a ha b hb hab
    rcases mem_concat.mp ha with ha | rfl <;> rcases mem_concat.mp hb with hb | rfl
    · exact h.ordered a ha b hb hab
    · exact hlast.2 a ha
    · rw [hlast.1] at hab
      exact absurd hab (Nat.not_le_of_lt (hversion b hb))
    · exact le_rfl

/-- Only the creation of this thread has changed. -/
lemma Progress.setCreation (hinv : Inv history) {value : Option Creation}
    (hvalue : ∀ creation, value = some creation → Progress history.tables threadId creation) :
    ∀ other creation, (history.setCreation threadId value).creations other = some creation →
      Progress history.tables other creation := by
  intro other creation hcreation
  by_cases hother : other = threadId
  · subst hother
    rw [setCreation_self] at hcreation
    exact hvalue creation hcreation
  · rw [setCreation_of_ne history hother] at hcreation
    exact hinv.creations other creation hcreation

/-- A committed snapshot keeps the invariant. -/
lemma Inv.commit (hinv : Inv history) (now : Timestamp)
    (hcreation : history.creations threadId = some creation)
    (hstage : creation.stage = .validated latest references []) :
    Inv (History.setCreation { history with tables := { history.tables with
      snapshots := history.tables.snapshots ++
        [nextSnapshot latest threadId creation.summary creation.coveredUntil now] } }
      threadId none) := by
  have hsettled := hinv.settled_of_validated hcreation hstage
  obtain ⟨rfl, hle⟩ : latest = latestRecord history.tables threadId ∧
      ∀ snapshot ∈ latest, snapshot.coveredUntil ≤ creation.coveredUntil := by
    have hprogress := hinv.creations threadId creation hcreation
    unfold Progress at hprogress
    rw [hstage] at hprogress
    exact hprogress.1.isLatest
  set new := nextSnapshot (latestRecord history.tables threadId) threadId creation.summary
    creation.coveredUntil now with hnew
  let tables' : ContextTables := { history.tables with
    snapshots := history.tables.snapshots ++ [new] }
  have hmine : snapshotsOf tables' threadId = snapshotsOf history.tables threadId ++ [new] := by
    unfold snapshotsOf
    rw [List.filter_append]
    exact congrArg _ (List.filter_cons_of_pos (decide_eq_true rfl))
  have hothers : ∀ other ≠ threadId, snapshotsOf tables' other =
      snapshotsOf history.tables other := by
    intro other hother
    unfold snapshotsOf
    rw [List.filter_append, List.filter_cons_of_neg
      (by simpa [hnew, nextSnapshot] using hother.symm), List.filter_nil, List.append_nil]
  have hgrows : Grows history.tables tables' := grows_snapshots history.tables _
  refine ⟨⟨hinv.sound.ids, hinv.sound.messages⟩, fun other => ?_, ?_, ?_⟩
  -- the new snapshot goes on where the latest one of its thread ends
  · change Numbered (snapshotsOf tables' other)
    by_cases hother : other = threadId
    · subst hother
      rw [hmine]
      exact (hinv.numbered other).append creation.summary now hle
    · rw [hothers other hother]
      exact hinv.numbered other
  · intro snapshot hsnapshot
    rcases mem_concat.mp hsnapshot with hold | rfl
    · exact (hinv.settled snapshot hold).of_grows hgrows
    · exact hsettled.of_grows hgrows
  · intro other active hactive
    by_cases hother : other = threadId
    · subst hother
      rw [setCreation_self] at hactive
      cases hactive
    · rw [setCreation_of_ne _ hother] at hactive
      refine (hinv.creations other active hactive).of_grows hgrows ?_
      exact congrArg (List.argmax ContextSnapshotRecord.snapshotVersion) (hothers other hother)

/-- Every action keeps the invariant. -/
lemma Inv.of_step (hinv : Inv history) (h : Step history history') : Inv history' := by
  cases h with
  | rows hgrows hsound hsnapshots =>
    refine ⟨hsound, ?_, ?_, ?_⟩
    · intro threadId
      rw [snapshotsOf, hsnapshots]
      exact hinv.numbered threadId
    · intro snapshot hsnapshot
      rw [hsnapshots] at hsnapshot
      exact (hinv.settled snapshot hsnapshot).of_grows hgrows
    · intro threadId creation hcreation
      refine (hinv.creations threadId creation hcreation).of_grows hgrows ?_
      rw [latestRecord, hsnapshots, latestRecord]
  | locked =>
    refine ⟨hinv.sound, hinv.numbered, hinv.settled,
      Progress.setCreation hinv fun creation hcreation => ?_⟩
    cases hcreation
    trivial
  | staged hcreation hnext =>
    refine ⟨hinv.sound, hinv.numbered, hinv.settled,
      Progress.setCreation hinv fun advanced hadvanced => ?_⟩
    cases hadvanced
    exact (hinv.creations _ _ hcreation).next hnext
  | committed hcreation hstage => exact hinv.commit _ hcreation hstage
  | released =>
    exact ⟨hinv.sound, hinv.numbered, hinv.settled,
      Progress.setCreation hinv fun creation hcreation => by cases hcreation⟩

/-- No action changes the timeline below a snapshot. -/
lemma Inv.readTimeline_eq (hinv : Inv history) (h : Step history history')
    (hsnapshot : snapshot ∈ history.tables.snapshots) {value : String}
    (hvalue : strip value = snapshot.threadId) :
    snapshot ∈ history'.tables.snapshots ∧
    Context.readTimeline history'.tables value none (some (snapshot.coveredUntil : Int)) =
      Context.readTimeline history.tables value none (some (snapshot.coveredUntil : Int)) := by
  have hsettled := hinv.settled snapshot hsnapshot
  rw [← hvalue] at hsettled
  cases h with
  | rows hgrows hsound hsnapshots =>
    exact ⟨hsnapshots.symm ▸ hsnapshot, hsettled.readTimeline_eq hgrows hinv.sound hsound⟩
  | locked | staged | released => exact ⟨hsnapshot, rfl⟩
  | committed => exact ⟨List.mem_append_left _ hsnapshot, rfl⟩

end Invariant

/-! ## Runs -/

/-- The actions of a run are admissible, each in the state it happens in. -/
def AdmissibleRun : History → List Action → Prop
  | _, [] => True
  | history, action :: actions =>
    Admissible history.tables action ∧ AdmissibleRun (step history action) actions

/-- A system without snapshots. -/
structure Fresh (history : History) : Prop where
  sound : Sound history.tables
  snapshots : history.tables.snapshots = []
  creations : ∀ threadId, history.creations threadId = none

variable {history : History} {actions : List Action}

lemma Fresh.inv (h : Fresh history) : Inv history where
  sound := h.sound
  numbered := fun threadId => by
    rw [snapshotsOf, h.snapshots]
    exact ⟨rfl, by rintro _ ⟨⟩⟩
  settled := fun snapshot hsnapshot => by rw [h.snapshots] at hsnapshot; cases hsnapshot
  creations := fun threadId creation hcreation => by rw [h.creations] at hcreation; cases hcreation

/-- The invariant holds after every admissible run. -/
lemma Inv.of_run (hinv : Inv history) (hrun : AdmissibleRun history actions) :
    Inv (run step history actions) := by
  induction actions generalizing history with
  | nil => exact hinv
  | cons action actions ih =>
    exact ih (hinv.of_step (step_cases hinv.sound hrun.1)) hrun.2

/-- What a snapshot covers reads the same after every run. -/
lemma Inv.readTimeline_run (hinv : Inv history) (hrun : AdmissibleRun history actions)
    {snapshot : ContextSnapshotRecord} (hsnapshot : snapshot ∈ history.tables.snapshots)
    {value : String} (hvalue : strip value = snapshot.threadId) :
    Context.readTimeline (Run.run step history actions).tables value none
        (some (snapshot.coveredUntil : Int)) =
      Context.readTimeline history.tables value none (some (snapshot.coveredUntil : Int)) := by
  induction actions generalizing history with
  | nil => rfl
  | cons action actions ih =>
    have hstep := step_cases hinv.sound hrun.1
    obtain ⟨hkept, hsame⟩ := hinv.readTimeline_eq hstep hsnapshot hvalue
    exact (ih (hinv.of_step hstep) hrun.2 hkept).trans hsame

lemma AdmissibleRun.append {later : List Action} (h : AdmissibleRun history (actions ++ later)) :
    AdmissibleRun history actions ∧ AdmissibleRun (run step history actions) later := by
  induction actions generalizing history with
  | nil => exact ⟨trivial, h⟩
  | cons action actions ih =>
    obtain ⟨hfirst, hrest⟩ := h
    obtain ⟨hactions, hlater⟩ := ih hrest
    exact ⟨⟨hfirst, hactions⟩, hlater⟩

/-- Whatever happens to a thread, its snapshots are numbered from one and their boundaries never go
back; the timeline below a snapshot is the same at every later time; and the two halves of a
timeline are the timeline. -/
theorem covered_history_never_changes (history : History) (hfresh : Fresh history)
    (actions : List Action) (hrun : AdmissibleRun history actions) :
    (∀ threadId, (snapshotsOf (run step history actions).tables threadId).map
        ContextSnapshotRecord.snapshotVersion =
          List.range' 1 (snapshotsOf (run step history actions).tables threadId).length ∧
      ∀ a ∈ snapshotsOf (run step history actions).tables threadId,
        ∀ b ∈ snapshotsOf (run step history actions).tables threadId,
          a.snapshotVersion ≤ b.snapshotVersion → a.coveredUntil ≤ b.coveredUntil) ∧
    (∀ earlier later, actions = earlier ++ later →
      ∀ snapshot ∈ (run step history earlier).tables.snapshots,
        ∀ threadId, strip threadId = snapshot.threadId →
          readTimeline (run step history actions).tables threadId none
              (some (snapshot.coveredUntil : Int)) =
            readTimeline (run step history earlier).tables threadId none
              (some (snapshot.coveredUntil : Int))) ∧
    ∀ threadId (bound : ℕ), 1 ≤ bound →
      (readTimeline (run step history actions).tables threadId none (some (bound : Int)) >>=
        fun before =>
          readTimeline (run step history actions).tables threadId (some (bound : Int)) none >>=
            fun after => .ok (before ++ after)) =
        read (run step history actions).tables threadId := by
  have hinv : Inv (run step history actions) := hfresh.inv.of_run hrun
  refine ⟨fun threadId => ⟨(hinv.numbered threadId).versions, (hinv.numbered threadId).ordered⟩, ?_, ?_⟩
  · rintro earlier later rfl snapshot hsnapshot threadId hthread
    obtain ⟨hearlier, hlater⟩ := hrun.append
    rw [run_append]
    exact (hfresh.inv.of_run hearlier).readTimeline_run hlater hsnapshot hthread
  · intro threadId bound hbound
    exact readTimeline_split _ threadId hbound

/-- A thread with one turn. -/
def oneTurn : History := ⟨singleTurn (some textEnvelope), fun _ => none⟩

/-- A snapshot of the turn, statement by statement, while a second turn is enqueued and claimed. -/
def firstSnapshot : List Action :=
  [.lock "thread" "first" 2, .advance "thread" 0, .receive ⟨8, "again", 1, 1, 1⟩,
    .advance "thread" 1, .dispatch (.enqueue (.allowedFor 8 "identity" "workspace" "thread") 2 1),
    .advance "thread" 1, .dispatch (.claim 2 "token" 10 1 2), .advance "thread" 2,
    .advance "thread" 2]

/-- The second turn succeeds, and a snapshot covers both. -/
def secondSnapshot : List Action :=
  .dispatch (.completeSuccess 2 "token"
    ⟨8, "workspace", "thread", "answer", some textEnvelope, none, none⟩ 2 3) ::
    .lock "thread" "second" 3 :: List.replicate 5 (.advance "thread" 4)

/-- The snapshots are numbered, and the history below the first reads as it did before the second
turn succeeded. -/
theorem second_turn_snapshot :
    (snapshotsOf (run step oneTurn (firstSnapshot ++ secondSnapshot)).tables "thread").map
      ContextSnapshotRecord.coveredUntil = [2, 3] ∧
    (snapshotsOf (run step oneTurn (firstSnapshot ++ secondSnapshot)).tables "thread").map
      ContextSnapshotRecord.snapshotVersion = [1, 2] ∧
    readTimeline (run step oneTurn (firstSnapshot ++ secondSnapshot)).tables "thread" none
        (some (2 : ℕ)) =
      readTimeline (run step oneTurn firstSnapshot).tables "thread" none (some (2 : ℕ)) := by
  have hrun : AdmissibleRun oneTurn (firstSnapshot ++ secondSnapshot) := by
    refine ⟨trivial, trivial, ?_, trivial, ?_, trivial, trivial, trivial, trivial, trivial,
      trivial, trivial, trivial, trivial, trivial, trivial, trivial⟩
    · unfold Admissible
      decide +kernel
    · intro target htarget
      cases htarget
      decide +kernel
  obtain ⟨hnumbered, hkept, -⟩ := covered_history_never_changes oneTurn
    ⟨⟨List.nodup_singleton _, by decide⟩, rfl, fun _ => rfl⟩ _ hrun
  have hcovered : (snapshotsOf (run step oneTurn (firstSnapshot ++ secondSnapshot)).tables
      "thread").map ContextSnapshotRecord.coveredUntil = [2, 3] := by decide +kernel
  refine ⟨hcovered, (hnumbered "thread").1.trans ?_, hkept firstSnapshot secondSnapshot rfl
    ⟨"thread", 1, "first", 2, 2⟩ (by decide +kernel) "thread" (by decide)⟩
  rw [← List.length_map (f := ContextSnapshotRecord.coveredUntil), hcovered]
  rfl

end AgentGateway.Context
