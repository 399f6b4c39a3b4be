import AgentGateway.Admission.Facts

/-!
# Admission authority

The outcome row of a message is the single authority on its admission, whatever the calls on the
message do: it is completed once and never again, it is completed as allowed in the very
transaction that queues the message, and a call that has lost its claim writes nothing.

* `Backed` and `Queued` are the two directions between records and allowed outcomes,
* `Authority` carries `Backed` along a run, together with the facts of every call under way,
* `Superseded` is a call whose claim has gone; it stays so, and its steps are silent.
-/

namespace AgentGateway.Admission

open Lib Lib.Table Lib.Run Dispatch

/-! ## Records and allowed outcomes -/

/-- The outcome allows the message, for the target of the record. -/
def Authorizes (row : MessageAdmissionOutcome) (record : HermesDispatchRecord) : Prop :=
  row.messageId = record.messageId ∧ row.state = .completed ∧ row.decision = some .allowed ∧
    row.enterpriseIdentityId = some record.enterpriseIdentityId ∧
    row.workspaceId = some record.workspaceId ∧ row.aiThreadId = some record.aiThreadId

/-- Every record of the message has its outcome. -/
def Backed (messageId : Int) (tables : Tables) : Prop :=
  ∀ record ∈ tables.dispatch.records, record.messageId = messageId →
    ∃ row ∈ tables.outcomes, Authorizes row record

/-- The outcome allows its message. -/
def Allows (messageId : Int) (row : MessageAdmissionOutcome) : Prop :=
  row.messageId = messageId ∧ row.state = .completed ∧ row.decision = some .allowed

/-- An allowed message has its record. -/
def Queued (messageId : Int) (tables : Tables) : Prop :=
  ∀ row ∈ tables.outcomes, Allows messageId row → Recorded messageId tables

section Records

variable {messageId other : Int} {input : Input} {tables tables' : Tables} {stage : Stage}
  {row : MessageAdmissionOutcome} {admission : AdmissionOutcome} {target : DispatchTarget}

/-- The completion of a claim authorizes the record of the same transaction. -/
lemma completedWith_authorizes (htarget : dispatchTarget admission = .ok target)
    (hrow : row.messageId = admission.messageId) (dbNow : Timestamp) (id : ℕ)
    (createdAt : Timestamp) :
    Authorizes (row.completedWith admission .allowed dbNow) (newRecord target id createdAt) := by
  obtain ⟨-, hmessage, hidentity, hworkspace, hthread⟩ := dispatchTarget_eq_ok htarget
  refine ⟨hrow.trans hmessage.symm, rfl, rfl, ?_, hworkspace, hthread⟩
  show admission.enterpriseIdentityId.or _ = _
  rw [hidentity, Option.some_or]
  rfl

/-- A record made from a replayed outcome is authorized by it. -/
lemma replayed_authorizes {stored : MessageAdmissionOutcome}
    (hreplay : toAdmissionOutcome stored = .ok admission)
    (htarget : dispatchTarget admission = .ok target) (id : ℕ) (createdAt : Timestamp) :
    Authorizes stored (newRecord target id createdAt) := by
  obtain ⟨hcompleted, hid, hadmitted, hidentity, hworkspace, hthread⟩ :=
    toAdmissionOutcome_eq_ok hreplay
  obtain ⟨hallowed, hmessage, hidentity', hworkspace', hthread'⟩ := dispatchTarget_eq_ok htarget
  refine ⟨hid.symm.trans hmessage.symm, hcompleted, hadmitted.mp hallowed, ?_, ?_, ?_⟩
  · exact hidentity.symm.trans hidentity'
  · exact hworkspace.symm.trans hworkspace'
  · exact hthread.symm.trans hthread'

/-- A record of the tables before the step keeps its outcome. -/
lemma Backed.kept (h : Backed other tables) (hgrows : Grows tables tables')
    {record : HermesDispatchRecord} (hrecord : record ∈ tables.dispatch.records)
    (hid : record.messageId = other) : ∃ row ∈ tables'.outcomes, Authorizes row record := by
  obtain ⟨row, hrow, hauthorizes⟩ := h record hrecord hid
  exact ⟨row, hgrows.1 row hrow hauthorizes.2.1, hauthorizes⟩

/-- A step that leaves the records alone keeps `Backed`. -/
lemma Backed.of_records_eq (h : Backed other tables) (hgrows : Grows tables tables')
    (hrecords : tables'.dispatch.records = tables.dispatch.records) : Backed other tables' := by
  intro record hrecord hid
  rw [hrecords] at hrecord
  exact h.kept hgrows hrecord hid

lemma Backed.effect (h : Backed other tables) (heffect : Effect messageId input tables stage tables')
    (hfacts : stage.Facts messageId tables) : Backed other tables' := by
  have hgrows := heffect.grows
  cases heffect with
  | committed htarget hrow =>
    obtain ⟨row, hrow, hclaimed⟩ := hrow
    intro record hrecord hid
    rcases mem_concat.mp hrecord with hold | rfl
    · exact h.kept hgrows hold hid
    · exact ⟨_, mem_updateWhere_of_pos hrow hclaimed,
        completedWith_authorizes htarget hclaimed.1 _ _ _⟩
  | enqueued htarget hfresh =>
    obtain ⟨hmessage, stored, hstored, -, -, hsource⟩ := hfacts
    intro record hrecord hid
    rcases mem_concat.mp hrecord with hold | rfl
    · exact h.kept hgrows hold hid
    · rcases hsource with ⟨existing, hexisting, hsame⟩ | ⟨-, hreplay⟩
      · -- the record is there already, so the insert has failed
        refine absurd ?_ (hfresh existing hexisting).2
        rw [hsame, ← hmessage]
        exact (dispatchTarget_eq_ok htarget).2.1.symm
      · exact ⟨stored, hstored, replayed_authorizes hreplay htarget _ _⟩
  | _ => exact h.of_records_eq hgrows rfl

/-- An update that leaves its rows pending makes no row allow its message. -/
lemma not_allows_of_pending (h : row.state = .pending) : ¬ Allows other row := by
  intro hallows
  have hstate : AdmissionOutcomeState.pending = .completed := h.symm.trans hallows.2.1
  cases hstate

/-- The rows of a step that rewrites some: an allowing one was there or has been rewritten. -/
lemma Queued.updateWhere {p : MessageAdmissionOutcome → Prop} [DecidablePred p]
    {f : MessageAdmissionOutcome → MessageAdmissionOutcome} (h : Queued other tables)
    (hgrows : Grows tables tables')
    (houtcomes : tables'.outcomes = Table.updateWhere p f tables.outcomes)
    (hnew : ∀ row ∈ tables.outcomes, p row → Allows other (f row) → Recorded other tables') :
    Queued other tables' := by
  intro row hrow hallows
  rw [houtcomes] at hrow
  rcases updateWhere_cases hrow with ⟨hold, -⟩ | ⟨old, hold, hp, rfl⟩
  · exact hgrows.2 other (h row hold hallows)
  · exact hnew old hold hp hallows

/-- The same for a step that adds a row. -/
lemma Queued.append {new : MessageAdmissionOutcome} (h : Queued other tables)
    (hgrows : Grows tables tables') (houtcomes : tables'.outcomes = tables.outcomes ++ [new])
    (hnew : Allows other new → Recorded other tables') : Queued other tables' := by
  intro row hrow hallows
  rw [houtcomes] at hrow
  rcases mem_concat.mp hrow with hold | rfl
  · exact hgrows.2 other (h row hold hallows)
  · exact hnew hallows

lemma Queued.effect (h : Queued other tables) (heffect : Effect messageId input tables stage tables')
    (hfacts : stage.Facts messageId tables) : Queued other tables' := by
  have hgrows := heffect.grows
  cases heffect with
  | silent => exact h
  | legacy =>
    refine h.append hgrows rfl fun hallows => ?_
    have hid : other = messageId := hallows.1.symm.trans hfacts.1
    rw [hid]
    exact hfacts.2
  | pended => exact h.append hgrows rfl fun hallows => absurd hallows (not_allows_of_pending rfl)
  | claimed | released =>
    refine h.updateWhere hgrows rfl fun row _ hp hallows => ?_
    exact absurd hallows (not_allows_of_pending hp.2.1)
  | @committed _ _ _ target htarget =>
    refine h.updateWhere hgrows rfl fun old _ hp hallows => ?_
    refine ⟨newRecord target input.recordId input.createdAt, ?_, ?_⟩
    · exact List.mem_append_right _ (List.mem_singleton_self _)
    · exact (dispatchTarget_eq_ok htarget).2.1.trans (hp.1.symm.trans hallows.1)
  | joined =>
    refine h.updateWhere hgrows rfl fun old _ hp hallows => ?_
    have hid : other = messageId := hallows.1.symm.trans (hp.1.trans hfacts.1)
    rw [hid]
    exact hfacts.2 rfl
  | denied =>
    refine h.updateWhere hgrows rfl fun old _ hp hallows => ?_
    cases hallows.2.2
  | adopted =>
    refine h.updateWhere hgrows rfl fun old _ hp hallows => ?_
    have hid : other = messageId := hallows.1.symm.trans (hp.1.trans hfacts.1)
    rw [hid]
    exact hfacts.2
  | enqueued =>
    intro row hrow hallows
    exact hgrows.2 other (h row hrow hallows)

end Records

/-! ## The dispatch side -/

section DispatchSide

variable {messageId : Int} {tables : Tables} {call : Call}

/-- The tables after somebody else's call on the dispatch tables. -/
def Tables.dispatched (tables : Tables) (call : Call) : Tables :=
  { tables with dispatch := Dispatch.step tables.dispatch call }

lemma dispatched_grows (tables : Tables) (call : Call) : Grows tables (tables.dispatched call) := by
  refine ⟨fun _ hrow _ => hrow, fun messageId hrecorded => ?_⟩
  obtain ⟨record, hrecord, hid⟩ := hrecorded
  obtain ⟨record', hrecord', hmove⟩ := step_persists hrecord call
  exact ⟨record', hrecord', hmove.target.1.trans hid⟩

/-- Only an enqueue makes records. -/
lemma dispatched_origin (hcall : Call.isEnqueue call = false) {record' : HermesDispatchRecord}
    (h : record' ∈ (tables.dispatched call).dispatch.records) :
    ∃ record ∈ tables.dispatch.records, Move tables.dispatch.records call record record' := by
  rcases step_origin h with hmoved | ⟨admission, target, id, createdAt, rfl, -⟩
  · exact hmoved
  · cases hcall

lemma Backed.dispatched (h : Backed messageId tables) (hcall : Call.isEnqueue call = false) :
    Backed messageId (tables.dispatched call) := by
  intro record' hrecord' hid
  obtain ⟨record, hrecord, hmove⟩ := dispatched_origin hcall hrecord'
  obtain ⟨hmessage, hidentity, hworkspace, hthread⟩ := hmove.target
  obtain ⟨row, hrow, hauthorizes⟩ := h record hrecord (hmessage.symm.trans hid)
  refine ⟨row, hrow, ?_⟩
  unfold Authorizes
  rw [hmessage, hidentity, hworkspace, hthread]
  exact hauthorizes

lemma Queued.dispatched (h : Queued messageId tables) :
    Queued messageId (tables.dispatched call) := by
  intro row hrow hallows
  exact (dispatched_grows tables call).2 messageId (h row hrow hallows)

end DispatchSide

/-! ## Steps of the system -/

/-- What one action does to the tables: nothing, the effect of one call's step, or a call on the
dispatch tables that makes no record. -/
inductive TablesMove (state : State) : Action → Tables → Prop
  | same {action} : TablesMove state action state.tables
  | effect {pid input process tables} (hprocess : state.processes[pid]? = some process)
      (heffect : Effect process.messageId input state.tables process.stage tables) :
      TablesMove state (.advance pid input) tables
  | dispatched {call} (hcall : Call.isEnqueue call = false) :
      TablesMove state (.dispatch call) (state.tables.dispatched call)

section Steps

variable {messageId : Int} {state : State} {action : Action}

lemma step_tables (state : State) (action : Action) :
    TablesMove state action (state.step action).tables := by
  cases action with
  | begin | crash => exact TablesMove.same
  | advance pid input =>
    simp only [State.step]
    split
    · exact TablesMove.same
    · rename_i process hprocess
      split_ifs
      · exact TablesMove.effect hprocess (advance_effect process input _)
      · exact TablesMove.same
  | dispatch call =>
    simp only [State.step]
    split_ifs with hcall
    · exact TablesMove.same
    · exact TablesMove.dispatched (Bool.eq_false_of_not_eq_true hcall)

lemma step_grows (state : State) (action : Action) :
    Grows state.tables (state.step action).tables := by
  have hmove := step_tables state action
  generalize (state.step action).tables = tables' at hmove ⊢
  cases hmove with
  | same => exact Grows.refl _
  | effect hprocess heffect => exact heffect.grows
  | dispatched => exact dispatched_grows _ _

lemma step_outcomesStep (state : State) (action : Action) :
    OutcomesStep state.tables.outcomes (state.step action).tables.outcomes := by
  have hmove := step_tables state action
  generalize (state.step action).tables = tables' at hmove ⊢
  cases hmove with
  | same | dispatched => exact outcomesStep_self
  | effect hprocess heffect => exact heffect.outcomesStep

/-- Every call under way knows the facts of its stage. -/
def Informed (state : State) : Prop :=
  ∀ process ∈ state.processes, process.stage.Facts process.messageId state.tables

lemma step_informed (h : Informed state) : Informed (state.step action) := by
  have hgrows := step_grows state action
  cases action with
  | begin messageId =>
    intro process hprocess
    rcases mem_concat.mp hprocess with hold | rfl
    · exact h process hold
    · trivial
  | crash pid =>
    intro process hprocess
    obtain ⟨i, hi, rfl⟩ := List.mem_iff_getElem.mp hprocess
    simp only [State.step, List.getElem_modify] at hi ⊢
    split_ifs
    · trivial
    · exact h _ (List.getElem_mem _)
  | dispatch call =>
    have hsame : (state.step (.dispatch call)).processes = state.processes := by
      simp only [State.step]
      split_ifs <;> rfl
    intro process hprocess
    rw [hsame] at hprocess
    exact (h process hprocess).mono hgrows
  -- the others know what they knew, since the tables only grow
  | advance pid input =>
    revert hgrows
    simp only [State.step]
    split
    · exact fun _ => h
    · rename_i process hprocess
      split_ifs
      · intro hgrows other hother
        rcases List.mem_or_eq_of_mem_set hother with hold | rfl
        · exact (h other hold).mono hgrows
        · have hid : (process.advance input state.tables).2.messageId = process.messageId := by
            unfold Process.advance
            split
            · rfl
            · split <;> rfl
          rw [hid]
          exact advance_facts process input _ (h process (List.mem_of_getElem? hprocess))
      · exact fun _ => h

lemma step_backed (h : Backed messageId state.tables) (hinformed : Informed state) :
    Backed messageId (state.step action).tables := by
  have hmove := step_tables state action
  generalize (state.step action).tables = tables' at hmove ⊢
  cases hmove with
  | same => exact h
  | effect hprocess heffect =>
    exact h.effect heffect (hinformed _ (List.mem_of_getElem? hprocess))
  | dispatched hcall => exact h.dispatched hcall

lemma step_queued (h : Queued messageId state.tables) (hinformed : Informed state) :
    Queued messageId (state.step action).tables := by
  have hmove := step_tables state action
  generalize (state.step action).tables = tables' at hmove ⊢
  cases hmove with
  | same => exact h
  | effect hprocess heffect =>
    exact h.effect heffect (hinformed _ (List.mem_of_getElem? hprocess))
  | dispatched => exact h.dispatched

end Steps

/-! ## Whole runs -/

section Runs

variable {messageId : Int} {tables : Tables}

lemma stateAfter_append (pre post : List Action) :
    stateAfter tables (pre ++ post) = run State.step (stateAfter tables pre) post :=
  run_append pre post

lemma informed_stateAfter (tables : Tables) (actions : List Action) :
    Informed (stateAfter tables actions) :=
  run_invariant (fun _ _ h => step_informed h) (by intro process hprocess; cases hprocess) actions

lemma unique_stateAfter (h : UniqueKeys MessageAdmissionOutcome.messageId tables.outcomes)
    (actions : List Action) :
    UniqueKeys MessageAdmissionOutcome.messageId (stateAfter tables actions).tables.outcomes :=
  run_invariant (P := fun state : State =>
      UniqueKeys MessageAdmissionOutcome.messageId state.tables.outcomes)
    (fun state action h => (step_outcomesStep state action).unique h) h actions

lemma backed_stateAfter (h : ¬ Recorded messageId tables) (actions : List Action) :
    Backed messageId (stateAfter tables actions).tables := by
  refine (run_invariant (P := fun state => Informed state ∧ Backed messageId state.tables)
    (fun state action h => ⟨step_informed h.1, step_backed h.2 h.1⟩) ⟨?_, ?_⟩ actions).2
  · intro process hprocess
    cases hprocess
  · intro record hrecord hid
    exact absurd ⟨record, hrecord, hid⟩ h

lemma queued_stateAfter (h : ∀ row ∈ tables.outcomes, ¬ Allows messageId row)
    (actions : List Action) : Queued messageId (stateAfter tables actions).tables := by
  refine (run_invariant (P := fun state => Informed state ∧ Queued messageId state.tables)
    (fun state action h => ⟨step_informed h.1, step_queued h.2 h.1⟩) ⟨?_, ?_⟩ actions).2
  · intro process hprocess
    cases hprocess
  · intro row hrow hallows
    exact absurd hallows (h row hrow)

/-- A completed row stays as it is for the rest of the run. -/
lemma completed_stateAfter {pre : List Action} {row : MessageAdmissionOutcome}
    (hrow : row ∈ (stateAfter tables pre).tables.outcomes) (hcompleted : row.state = .completed)
    (post : List Action) : row ∈ (stateAfter tables (pre ++ post)).tables.outcomes := by
  rw [stateAfter_append]
  exact run_invariant (P := fun state : State => row ∈ state.tables.outcomes)
    (fun state action h => (step_outcomesStep state action).completed_kept h hcompleted) hrow post

end Runs

/-! ## A call that has lost its claim -/

/-- No row of the message is claimed under the token. -/
def Unheld (messageId : Int) (token : String) (tables : Tables) : Prop :=
  ∀ row ∈ tables.outcomes, row.messageId = messageId → row.claimToken ≠ some token

/-- The call is over, or it works under the token. -/
def Stage.Bound (token : String) (stage : Stage) : Prop :=
  stage.token? = some token ∨ stage.over = true

section Superseded

variable {messageId : Int} {token : String} {input : Input} {tables tables' : Tables}
  {stage stage' : Stage}

lemma handle_bound (error : AdmissionError) (h : stage.Bound token) :
    (stage.handle error).Bound token := by
  rcases h with htoken | hover
  · cases stage with
    | staging tries | committing tries =>
      cases tries with
      | zero =>
        unfold Stage.handle
        split_ifs <;> exact Or.inl htoken
      | succ tries => exact Or.inl htoken
    | enqueuing held | inserting held =>
      obtain rfl : held = some token := htoken
      unfold Stage.handle
      split_ifs <;> exact Or.inl rfl
    | replaying held | rereading held =>
      obtain rfl : held = some token := htoken
      exact Or.inl rfl
    | claimedUnread | failing => exact Or.inr rfl
    | claimed | evaluating | denying | completingDenied | confirming | adopting | adopted =>
      exact Or.inl htoken
    | _ => cases htoken
  · cases stage with
    | returned | raised => exact Or.inr rfl
    | _ => cases hover

/-- No row matches the guard of a write under a lost claim. -/
lemma Unheld.not_claimedBy (h : Unheld messageId token tables) :
    ¬ ∃ row ∈ tables.outcomes, ClaimedBy messageId token row := by
  rintro ⟨row, hrow, hid, -, htoken⟩
  exact h row hrow hid htoken

/-- A call that holds a claim works under that token. -/
lemma Stage.Bound.eq {held : String} (h : stage.Bound token) (hheld : stage.token? = some held) :
    held = token := by
  rcases h with htoken | hover
  · exact Option.some.inj (hheld.symm.trans htoken)
  · cases stage with
    | returned | raised => cases hheld
    | _ => cases hover

/-- **A superseded call changes nothing.** -/
lemma Effect.eq_of_unheld (h : Effect messageId input tables stage tables')
    (hstage : stage.Bound token) (hunheld : Unheld messageId token tables)
    (hfacts : stage.Facts messageId tables) : tables' = tables := by
  cases h with
  | silent => rfl
  | committed htarget hrow | joined hrow | adopted hrow =>
    obtain rfl := hstage.eq rfl
    rw [hfacts.1] at hrow
    exact absurd hrow hunheld.not_claimedBy
  | denied hrow =>
    obtain rfl := hstage.eq rfl
    rw [show _ = messageId from hfacts] at hrow
    exact absurd hrow hunheld.not_claimedBy
  | @released held =>
    obtain rfl := hstage.eq rfl
    have hsame : releaseClaim messageId held evaluationErrorCode tables.outcomes =
        tables.outcomes :=
      updateWhere_eq_self fun row hrow hclaimed => hunheld.not_claimedBy ⟨row, hrow, hclaimed⟩
    rw [hsame]
    rfl
  | enqueued htarget hfresh =>
    obtain ⟨hmessage, stored, -, -, -, hsource⟩ := hfacts
    rcases hsource with ⟨existing, hexisting, hsame⟩ | ⟨rfl, -⟩
    · refine absurd ?_ (hfresh existing hexisting).2
      rw [hsame, ← hmessage]
      exact (dispatchTarget_eq_ok htarget).2.1.symm
    · -- under a claim this stage is reached only when the record exists
      rcases hstage with hheld | hover <;> contradiction
  | legacy | pended | claimed => rcases hstage with hheld | hover <;> contradiction

/-- A superseded call goes on under its lost claim until it ends. -/
lemma perform_bound (h : perform messageId input tables stage = .ok (tables', stage'))
    (hstage : stage.Bound token) (hunheld : Unheld messageId token tables)
    (hfacts : stage.Facts messageId tables) : stage'.Bound token := by
  -- most stages hand their token on
  have hkeeps : ∀ {next : Stage}, stage.over = false → next.token? = stage.token? →
      next.Bound token := by
    intro next hover hsame
    rcases hstage with hheld | hended
    · exact Or.inl (hsame.trans hheld)
    · exact absurd (hover.symm.trans hended) Bool.false_ne_true
  cases stage with
  | claimedUnread held =>
    simp only [perform] at h
    split at h
    · cases h
    · cases h
      exact hkeeps rfl rfl
  | claimed | denying =>
    simp only [perform] at h
    split at h
    all_goals
      cases h
      exact hkeeps rfl rfl
  | evaluating held outcome =>
    simp only [perform, bind_eq_ok] at h
    obtain ⟨request, -, h⟩ := h
    split_ifs at h
    all_goals
      cases h
      exact hkeeps rfl rfl
  | staging | completingDenied =>
    simp only [perform, bind_eq_ok] at h
    obtain ⟨existing, -, h⟩ := h
    cases h
    exact hkeeps rfl rfl
  | committing tries held admission insert =>
    simp only [perform, bind_eq_ok] at h
    obtain ⟨records, -, outcomes, hcomplete, -⟩ := h
    obtain ⟨decision, -, -, hrow⟩ := stageCompletion_eq_ok hcomplete
    obtain rfl := hstage.eq rfl
    rw [hfacts.1] at hrow
    exact absurd hrow hunheld.not_claimedBy
  | confirming held admission =>
    simp only [perform] at h
    split at h
    · cases h
    · cases h
      exact Or.inr rfl
  | adopting held record =>
    simp only [perform] at h
    split at h
    · cases h
      exact hkeeps rfl rfl
    · cases h
      exact hkeeps rfl rfl
    · cases h
  | adopted held record =>
    simp only [perform] at h
    split at h
    · cases h
    · obtain ⟨stored, -, h⟩ := bind_eq_ok.mp h
      cases h
      exact hkeeps rfl rfl
  | replaying held stored =>
    simp only [perform, bind_eq_ok] at h
    obtain ⟨admission, -, h⟩ := h
    split at h
    · cases h
      exact hkeeps rfl rfl
    · obtain ⟨existing, -, h⟩ := bind_eq_ok.mp h
      cases h
      exact Or.inr rfl
    · cases h
      exact Or.inr rfl
    · cases h
  | enqueuing held admission =>
    simp only [perform, bind_eq_ok] at h
    obtain ⟨existing, -, h⟩ := h
    split at h
    · cases h
      exact hkeeps rfl rfl
    · cases h
      exact Or.inr rfl
  | inserting held admission =>
    simp only [perform, bind_eq_ok] at h
    obtain ⟨records, -, h⟩ := h
    cases h
    exact Or.inr rfl
  | rereading held admission =>
    simp only [perform, bind_eq_ok] at h
    obtain ⟨existing, -, -, -, h⟩ := h
    cases h
    exact Or.inr rfl
  | failing held =>
    cases h
    exact Or.inr rfl
  | returned | raised =>
    cases h
    exact hstage
  | _ =>
    rcases hstage with hheld | hover
    · cases hheld
    · cases hover

/-- One step of a superseded call: silent, and superseded it stays. -/
lemma advance_unheld (input : Input) (process : Process) (hstage : process.stage.Bound token)
    (hunheld : Unheld process.messageId token tables)
    (hfacts : process.stage.Facts process.messageId tables) :
    (process.advance input tables).1 = tables ∧
      (process.advance input tables).2.messageId = process.messageId ∧
      (process.advance input tables).2.stage.Bound token := by
  refine ⟨(advance_effect process input tables).eq_of_unheld hstage hunheld hfacts, ?_⟩
  unfold Process.advance
  split
  · exact ⟨rfl, handle_bound _ hstage⟩
  · rename_i tables' stage hperform
    split
    · exact ⟨rfl, perform_bound hperform hstage hunheld hfacts⟩
    · exact ⟨rfl, handle_bound _ hstage⟩

/-- Only the claim of a step puts a token into a row. -/
lemma Effect.claimToken (h : Effect messageId input tables stage tables')
    {row' : MessageAdmissionOutcome} (hrow' : row' ∈ tables'.outcomes)
    (htoken : row'.claimToken = some token) (hother : input.token ≠ token) :
    ∃ row ∈ tables.outcomes, row.messageId = row'.messageId ∧ row.claimToken = some token := by
  -- an update that clears the token or sets the new one leaves only rows it did not touch
  have hkept : ∀ {p : MessageAdmissionOutcome → Prop} [DecidablePred p]
      {f : MessageAdmissionOutcome → MessageAdmissionOutcome},
      tables'.outcomes = updateWhere p f tables.outcomes →
      (∀ row, (f row).claimToken ≠ some token) →
      ∃ row ∈ tables.outcomes, row.messageId = row'.messageId ∧ row.claimToken = some token := by
    intro p _ f houtcomes hf
    rw [houtcomes] at hrow'
    rcases updateWhere_cases hrow' with ⟨hold, -⟩ | ⟨old, -, -, rfl⟩
    · exact ⟨row', hold, rfl, htoken⟩
    · exact absurd htoken (hf old)
  have hadded : ∀ {new : MessageAdmissionOutcome}, tables'.outcomes = tables.outcomes ++ [new] →
      new.claimToken ≠ some token →
      ∃ row ∈ tables.outcomes, row.messageId = row'.messageId ∧ row.claimToken = some token := by
    intro new houtcomes hnew
    rw [houtcomes] at hrow'
    rcases mem_concat.mp hrow' with hold | rfl
    · exact ⟨row', hold, rfl, htoken⟩
    · exact absurd htoken hnew
  have hnone : (none : Option String) ≠ some token := (Option.some_ne_none token).symm
  have hsome : some input.token ≠ some token := fun heq => hother (Option.some.inj heq)
  cases h with
  | silent | enqueued => exact ⟨row', hrow', rfl, htoken⟩
  | legacy => exact hadded rfl hnone
  | pended => exact hadded rfl hsome
  | claimed => exact hkept rfl fun _ => hsome
  | committed | joined | denied | adopted | released => exact hkept rfl fun _ => hnone

/-- A call that is over does nothing. -/
lemma advance_over (process : Process) (h : process.stage.over = true) :
    process.advance input tables = (tables, process) := by
  obtain ⟨messageId, stage⟩ := process
  cases stage with
  | returned | raised =>
    simp only [Process.advance, perform]
    split
    · rfl
    · rw [ite_self]
      rfl
  | _ => cases h

end Superseded

/-- The call has lost its claim to its message, or it is over. -/
def Superseded (pid : ℕ) (token : String) (state : State) : Prop :=
  ∃ process, state.processes[pid]? = some process ∧
    (process.stage.token? = some token ∧ Unheld process.messageId token state.tables ∨
      process.stage.over = true)

section Lost

variable {pid : ℕ} {token : String} {state : State} {action : Action}

section Superseded

variable (h : Superseded pid token state)

include h

/-- The step of a superseded call leaves the tables alone. -/
lemma Superseded.tables_eq (hinformed : Informed state) (input : Input) :
    (state.step (.advance pid input)).tables = state.tables := by
  obtain ⟨process, hprocess, hlost⟩ := h
  simp only [State.step, hprocess]
  split_ifs
  · rcases hlost with ⟨htoken, hunheld⟩ | hover
    · exact (advance_unheld _ process (Or.inl htoken) hunheld
        (hinformed process (List.mem_of_getElem? hprocess))).1
    · rw [advance_over process hover]
  · rfl

/-- Its own step keeps a superseded call superseded. -/
lemma Superseded.own_step (hinformed : Informed state) (input : Input) :
    Superseded pid token (state.step (.advance pid input)) := by
  have htables := h.tables_eq hinformed input
  obtain ⟨process, hprocess, hlost⟩ := id h
  have hlength := (List.getElem?_eq_some_iff.mp hprocess).1
  unfold Superseded
  rw [htables]
  simp only [State.step, hprocess]
  split_ifs
  · refine ⟨_, List.getElem?_set_self hlength, ?_⟩
    rcases hlost with ⟨htoken, hunheld⟩ | hover
    · obtain ⟨-, hid, hbound⟩ := advance_unheld _ process (Or.inl htoken) hunheld
        (hinformed process (List.mem_of_getElem? hprocess))
      rw [hid]
      exact hbound.imp_left fun hheld => ⟨hheld, hunheld⟩
    · rw [advance_over process hover]
      exact Or.inr hover
  · exact ⟨process, hprocess, hlost⟩

/-- So does the step of another call, whose token is a new one. -/
lemma Superseded.other_step {other : ℕ} (hother : other ≠ pid) (input : Input) :
    Superseded pid token (state.step (.advance other input)) := by
  obtain ⟨process, hprocess, hlost⟩ := id h
  simp only [State.step]
  split
  · exact h
  · rename_i mover hmover
    split_ifs with hfresh
    · refine ⟨process, ?_, ?_⟩
      · rw [← hprocess]
        exact List.getElem?_set_ne hother
      · refine hlost.imp_left fun ⟨htoken, hunheld⟩ => ⟨htoken, ?_⟩
        have hnew : input.token ≠ token := by
          intro heq
          exact hfresh.1 process (List.mem_of_getElem? hprocess) (heq ▸ htoken)
        intro row' hrow' hid hheld
        obtain ⟨row, hrow, hsame, hrowheld⟩ :=
          (advance_effect mover input state.tables).claimToken hrow' hheld hnew
        exact hunheld row hrow (hsame.trans hid) hrowheld
    · exact h

/-- A superseded call stays superseded, whatever happens. -/
lemma Superseded.step (hinformed : Informed state) : Superseded pid token (state.step action) := by
  obtain ⟨process, hprocess, hlost⟩ := id h
  cases action with
  | begin messageId =>
    refine ⟨process, ?_, hlost⟩
    rw [← hprocess]
    exact List.getElem?_append_left (List.getElem?_eq_some_iff.mp hprocess).1
  | crash other =>
    by_cases hsame : other = pid
    · refine ⟨{ process with stage := .raised }, ?_, Or.inr rfl⟩
      simp [State.step, hsame, hprocess]
    · refine ⟨process, ?_, hlost⟩
      simp [State.step, hsame, hprocess]
  | dispatch call =>
    simp only [State.step]
    split_ifs
    · exact h
    · exact ⟨process, hprocess, hlost⟩
  | advance other input =>
    by_cases hsame : other = pid
    · subst hsame
      exact h.own_step hinformed input
    · exact h.other_step hsame input

lemma Superseded.run (hinformed : Informed state) (actions : List Action) :
    Superseded pid token (run State.step state actions) :=
  (run_invariant (P := fun state => Informed state ∧ Superseded pid token state)
    (fun _ _ h => ⟨step_informed h.1, h.2.step h.1⟩) ⟨hinformed, h⟩ actions).2

end Superseded

end Lost

/-! ## The authority of the outcome -/

/-- **Admission authority.** Any number of calls on any messages run, fail and die in any order,
from tables without a dispatch record for the message. There is at most one outcome for it. Once
completed it stays as it is. Every record of the message is authorized by it, with the same
identity, workspace and thread, and a record exists exactly when it is completed as allowed
(unless it was allowed before the run began, when the record it lacks is only made up for by a
replay). A denied outcome has no record. A call that no longer holds the claim of its message
writes nothing any more. -/
theorem admission_authority (tables : Tables) (messageId : Int)
    (hunique : UniqueKeys MessageAdmissionOutcome.messageId tables.outcomes)
    (hnone : ¬ Recorded messageId tables) (actions : List Action) :
    rowcount (fun row : MessageAdmissionOutcome => row.messageId = messageId)
        (stateAfter tables actions).tables.outcomes ≤ 1 ∧
    (∀ pre post, actions = pre ++ post → ∀ row ∈ (stateAfter tables pre).tables.outcomes,
      row.messageId = messageId → row.state = .completed →
      row ∈ (stateAfter tables actions).tables.outcomes) ∧
    (∀ record ∈ (stateAfter tables actions).tables.dispatch.records,
      record.messageId = messageId →
      ∃ row ∈ (stateAfter tables actions).tables.outcomes, Authorizes row record) ∧
    ((∀ row ∈ tables.outcomes, ¬ Allows messageId row) →
      (Recorded messageId (stateAfter tables actions).tables ↔
        ∃ row ∈ (stateAfter tables actions).tables.outcomes, Allows messageId row)) ∧
    (∀ row ∈ (stateAfter tables actions).tables.outcomes, row.messageId = messageId →
      row.decision = some .denied → ¬ Recorded messageId (stateAfter tables actions).tables) ∧
    ∀ pre mid pid input, actions = pre ++ mid ++ [.advance pid input] →
      ∀ process token, (stateAfter tables pre).processes[pid]? = some process →
      process.stage.token? = some token →
      Unheld process.messageId token (stateAfter tables pre).tables →
      (stateAfter tables actions).tables = (stateAfter tables (pre ++ mid)).tables := by
  have huniqueAfter := unique_stateAfter hunique actions
  have hbacked := backed_stateAfter hnone actions
  refine ⟨?_, ?_, hbacked, ?_, ?_, ?_⟩
  · exact huniqueAfter.rowcount_le_one fun _ hid => hid
  · intro pre post hactions row hrow _ hcompleted
    rw [hactions]
    exact completed_stateAfter hrow hcompleted post
  · intro hstart
    constructor
    · rintro ⟨record, hrecord, hid⟩
      obtain ⟨row, hrow, hmessage, hcompleted, hallowed, -⟩ := hbacked record hrecord hid
      exact ⟨row, hrow, hmessage.trans hid, hcompleted, hallowed⟩
    · rintro ⟨row, hrow, hallows⟩
      exact queued_stateAfter hstart actions row hrow hallows
  · rintro row hrow hid hdenied ⟨record, hrecord, hmessage⟩
    obtain ⟨row', hrow', hauthorizes⟩ := hbacked record hrecord hmessage
    have hsame : row = row' :=
      huniqueAfter.eq_of_key_eq hrow hrow' (hid.trans (hmessage.symm.trans hauthorizes.1.symm))
    rw [hsame, hauthorizes.2.2.1] at hdenied
    cases hdenied
  · intro pre mid pid input hactions process token hprocess htoken hunheld
    have hlost : Superseded pid token (stateAfter tables pre) :=
      ⟨process, hprocess, Or.inl ⟨htoken, hunheld⟩⟩
    have hlater := hlost.run (informed_stateAfter tables pre) mid
    rw [← stateAfter_append] at hlater
    rw [hactions, stateAfter_append]
    exact hlater.tables_eq (informed_stateAfter tables (pre ++ mid)) input

/-! Two calls reach opposite decisions: the first one stalls after it has taken the claim, the
second one takes over when the lease is past and denies the message, and the first one comes back
with an allowed evaluation. -/

/-- No message has been admitted yet. -/
def freshTables : Tables := ⟨[], initial []⟩

/-- A step at a time, under a token, with what the evaluation says. -/
def plainInput (token : String) (now : Timestamp) (admission : AdmissionOutcome) : Input where
  token := token
  request := ⟨[], [], .normal⟩
  now := now
  lease := 60
  dbNow := now
  admission := admission
  recordId := 1
  createdAt := now
  synchronous := false
  fault := none

def deniedEvaluation : AdmissionOutcome where
  messageId := 1
  admitted := false
  shouldCreateTask := false
  reason := .accessDenied
  enterpriseIdentityId := none
  workspaceId := none
  aiThreadId := none
  authorization := none
  policy := .empty
  route := .empty "none"

def takeoverRun : List Action :=
  let advance (pid : ℕ) (token : String) (now : Timestamp) (admission : AdmissionOutcome) :=
    Action.advance pid (plainInput token now admission)
  [.begin 1] ++ List.replicate 3 (advance 0 "first" 0 deniedEvaluation) ++
  [.begin 1] ++ List.replicate 3 (advance 1 "second" 100 deniedEvaluation) ++
  List.replicate 6 (advance 1 "unused" 100 deniedEvaluation) ++
  List.replicate 6 (advance 0 "unused" 200 (.allowedFor 1 "identity" "workspace" "thread"))

theorem admission_authority_takeover :
    (∃ row ∈ (stateAfter freshTables takeoverRun).tables.outcomes,
      row.messageId = 1 ∧ row.decision = some .denied) ∧
    (stateAfter freshTables takeoverRun).processes = [⟨1, .raised⟩,
      ⟨1, .returned (ingestionOutcome deniedEvaluation none)⟩] ∧
    ¬ Recorded 1 (stateAfter freshTables takeoverRun).tables := by
  have hdenied : ∃ row ∈ (stateAfter freshTables takeoverRun).tables.outcomes,
      row.messageId = 1 ∧ row.decision = some .denied := by decide +kernel
  have hstart : ¬ Recorded 1 freshTables := by
    rintro ⟨record, hrecord, -⟩
    cases hrecord
  have hauthority := admission_authority freshTables 1 List.nodup_nil hstart takeoverRun
  obtain ⟨row, hrow, hid, hdecision⟩ := id hdenied
  exact ⟨hdenied, by decide +kernel, hauthority.2.2.2.2.1 row hrow hid hdecision⟩

end AgentGateway.Admission
