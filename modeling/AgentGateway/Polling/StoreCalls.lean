import AgentGateway.Lib.Interleaving
import AgentGateway.Polling.Database

/-!
# Concurrent calls of the checkpoint store

Any number of store calls with arbitrary arguments on one row, one statement at a time in any
order, each statement answered or failing. `_apply_cas` commits before it reloads the row, outside
its `try`, so a call may raise although its `UPDATE` is committed.

* `StoreOp.program`: the calls; `StoreCall`: the shape they share,
* `moment_cases`: a moment leaves the row, creates it, or replaces the row a forward statement
  expects, so the row only goes up (`row_up`),
* `StoreCall.reported`: what a call that has changed the row reports.
-/

namespace AgentGateway.Polling

open Lib Lib.Program Polling.Checkpoint Polling.WechatPollingService

/-! ## The calls -/

/-- A call of the store, with arbitrary arguments. -/
inductive StoreOp
  | initializeCheckpoint (lastLocalId lastMessageFingerprint : PyValue)
  | advance (lastLocalId lastMessageFingerprint : PyValue)
  | advanceCas (expectedLastLocalId expectedGeneration expectedMessageFingerprint lastLocalId
      lastMessageFingerprint : PyValue)
  | enrollAnchor (expectedLastLocalId expectedGeneration lastMessageFingerprint : PyValue)
  | rewind (expectedLastLocalId expectedGeneration expectedMessageFingerprint
      lastLocalId : PyValue)
  | rebaseLatestAfterRegression (expectedLastLocalId expectedGeneration
      expectedMessageFingerprint remoteLatestLocalId remoteLatestMessageFingerprint : PyValue)
  | beginLiveSuffixAfterEmptyWindow (expectedLastLocalId expectedGeneration
      expectedMessageFingerprint firstLiveLocalId baselineMessageFingerprint : PyValue)
  deriving DecidableEq, Repr

/-- `advance`: read the row, then `advance_cas` against it. Others may write in between. (The
source drops the flag of `advance_cas`.) -/
def advanceRow (key : ChatKey) (lastLocalId lastMessageFingerprint : PyValue) :
    Poll (Except Raised (WechatSyncCheckpoint × Bool)) :=
  match validatedCheckpointLocalId lastLocalId,
      validatedCheckpointFingerprint lastMessageFingerprint with
  | .error error, _ => .done (.error (.ofCheckpoint error))
  | .ok _, .error error => .done (.error (.ofCheckpoint error))
  | .ok localId, .ok fingerprint =>
    .call (.select key) fun
      | .error _ => .done (.error .other)
      | .ok none => .done (.error (.ofCheckpoint .notFound))
      | .ok (some checkpoint) => compareAndSwap key (advanceCas (.int checkpoint.lastLocalId)
          (.int checkpoint.regressionGeneration) (.ofOptionStr checkpoint.lastMessageFingerprint)
          (.int localId) (.ofOptionStr fingerprint))

/-- A store call on the row of the key. -/
def StoreOp.program (key : ChatKey) : StoreOp → Poll (Except Raised (WechatSyncCheckpoint × Bool))
  | .initializeCheckpoint newId fp => initializeRow key (Checkpoint.initializeCheckpoint newId fp)
  | .advance newId fp => advanceRow key newId fp
  | .advanceCas expId gen expFp newId fp =>
    compareAndSwap key (Checkpoint.advanceCas expId gen expFp newId fp)
  | .enrollAnchor expId gen fp => compareAndSwap key (Checkpoint.enrollAnchor expId gen fp)
  | .rewind expId gen expFp newId => compareAndSwap key (Checkpoint.rewind expId gen expFp newId)
  | .rebaseLatestAfterRegression expId gen expFp newId fp =>
    compareAndSwap key (Checkpoint.rebaseLatestAfterRegression expId gen expFp newId fp)
  | .beginLiveSuffixAfterEmptyWindow expId gen expFp newId fp =>
    compareAndSwap key (Checkpoint.beginLiveSuffixAfterEmptyWindow expId gen expFp newId fp)

/-! ## Their shape -/

/-- The shape of a store call: reads, then a forward `UPDATE` with its reload or the `INSERT` of a
well-formed row. Without a write it raises or reports no change. -/
inductive StoreCall (key : ChatKey) : Poll (Except Raised (WechatSyncCheckpoint × Bool)) → Prop
  | raises (error) : StoreCall key (.done (.error error))
  | unchanged (row) : StoreCall key (.done (.ok (row, false)))
  | read {next} (h : ∀ reply, StoreCall key (next reply)) : StoreCall key (.call (.select key) next)
  | update {statement next} (hforward : statement.Forward)
      (hok : ∀ changed, next (.ok changed) = requireRow key changed)
      (herror : ∀ error, next (.error error) = .done (.error .other)) :
      StoreCall key (.call (.update key statement) next)
  | insert {created next} (hcreated : created.WellFormed)
      (hok : next (.ok ()) = .done (.ok (created, true)))
      (hother : next (.error .other) = .done (.error .other))
      (hrefused : StoreCall key (next (.error .integrity))) :
      StoreCall key (.call (.insert key created) next)

section Shape

variable {key : ChatKey} {p : Poll (Except Raised (WechatSyncCheckpoint × Bool))}
  {after : List PollEvent} {result : Except Raised (WechatSyncCheckpoint × Bool)}
  {event : PollEvent}

lemma storeCall_requireRow : StoreCall key (requireRow key false) := by
  refine .read fun reply => ?_
  rcases reply with error | (_ | row)
  · exact .raises _
  · exact .raises _
  · exact .unchanged row

lemma storeCall_compareAndSwap {prepared : Except WechatCheckpointError (Option CasStatement)}
    (h : ∀ statement, prepared = .ok (some statement) → statement.Forward) :
    StoreCall key (compareAndSwap key prepared) := by
  rcases prepared with error | (_ | statement)
  · exact .raises _
  · exact storeCall_requireRow
  · exact .update (h statement rfl) (fun _ => rfl) fun _ => rfl

lemma storeCall_insertRow {created : WechatSyncCheckpoint} (h : created.WellFormed) :
    StoreCall key (insertRow key created) := by
  refine .read fun reply => ?_
  rcases reply with error | (_ | existing)
  · exact .raises _
  · refine .insert h rfl rfl (.read fun reply => ?_)
    rcases reply with error | (_ | existing)
    · exact .raises _
    · exact .raises _
    · exact .unchanged existing
  · exact .unchanged existing

/-- Every store call has the shape. -/
lemma StoreOp.storeCall (key : ChatKey) (op : StoreOp) : StoreCall key (op.program key) := by
  cases op with
  | initializeCheckpoint newId fp =>
    rw [StoreOp.program]
    cases hcreated : Checkpoint.initializeCheckpoint newId fp with
    | error error => exact .raises _
    | ok created => exact storeCall_insertRow (initializeCheckpoint_wellFormed hcreated)
  | advance newId fp =>
    rw [StoreOp.program]
    unfold advanceRow
    split
    · exact .raises _
    · exact .raises _
    · refine .read fun reply => ?_
      rcases reply with error | (_ | checkpoint)
      · exact .raises _
      · exact .raises _
      · exact storeCall_compareAndSwap fun _ => advanceCas_forward
  | advanceCas => exact storeCall_compareAndSwap fun _ => advanceCas_forward
  | enrollAnchor => exact storeCall_compareAndSwap fun _ => enrollAnchor_forward
  | rewind => exact storeCall_compareAndSwap fun _ => rewind_forward
  | rebaseLatestAfterRegression =>
    exact storeCall_compareAndSwap fun _ => rebaseLatestAfterRegression_forward
  | beginLiveSuffixAfterEmptyWindow =>
    exact storeCall_compareAndSwap fun _ => beginLiveSuffixAfterEmptyWindow_forward

/-- What a store call may ask of the database. -/
def StoreRequest (key : ChatKey) : Request → Prop
  | .select k => k = key
  | .insert k created => k = key ∧ created.WellFormed
  | .update k statement => k = key ∧ statement.Forward
  | _ => False

lemma StoreCall.request (h : StoreCall key p) {events : List PollEvent} {op : Request}
    (hreaches : p.Reaches events op) : StoreRequest key op := by
  induction h generalizing events with
  | raises => exact absurd hreaches reaches_done
  | unchanged => exact absurd hreaches reaches_done
  | read _ ih =>
    rcases reaches_call.mp hreaches with ⟨-, rfl⟩ | ⟨reply, rest, rfl, hrest⟩
    · rfl
    · exact ih reply hrest
  | update hforward hok herror =>
    rcases reaches_call.mp hreaches with ⟨-, rfl⟩ | ⟨error | changed, rest, rfl, hrest⟩
    · exact ⟨rfl, hforward⟩
    · rw [herror] at hrest
      exact absurd hrest reaches_done
    · rw [hok] at hrest
      rw [(requireRow_reaches hrest).1]
      rfl
  | insert hcreated hok hother _ ih =>
    rcases reaches_call.mp hreaches with ⟨-, rfl⟩ | ⟨(_ | _) | _, rest, rfl, hrest⟩
    · exact ⟨rfl, hcreated⟩
    · exact ih hrest
    · rw [hother] at hrest
      exact absurd hrest reaches_done
    · rw [hok] at hrest
      exact absurd hrest reaches_done

/-- A write whose statement or commit has raised. -/
def PollEvent.WriteRaised : PollEvent → Prop
  | ⟨.insert _ _, .error _⟩ | ⟨.update _ _, .error _⟩ => True
  | _ => False

/-- A write that may have changed the row. -/
def PollEvent.MayChange : PollEvent → Prop
  | ⟨.insert _ _, .error .integrity⟩ | ⟨.update _ _, .ok false⟩ => False
  | ⟨.insert _ _, _⟩ | ⟨.update _ _, _⟩ => True
  | _ => False

/-- What a call may make of its write and of what comes after it: it reports a change, or it raises.
It raises because the write itself has raised, or because the reload after the commit has not shown
a row. -/
def Reported (key : ChatKey) (event : PollEvent) (after : List PollEvent)
    (result : Except Raised (WechatSyncCheckpoint × Bool)) : Prop :=
  (∃ row, result = .ok (row, true)) ∨
    (∃ error, result = .error error) ∧ (event.WriteRaised ∨
      ∃ reply, after = [⟨.select key, reply⟩] ∧ ∀ row, reply ≠ .ok (some row))

/-- The reload after a committed `UPDATE` reports the change, or it has not shown a row. -/
lemma reloaded_reported (h : (requireRow key true).Returns after result) :
    Reported key event after result := by
  obtain ⟨reply, rest, rfl, hrest⟩ := returns_call.mp h
  rcases reply with error | (_ | row) <;> obtain ⟨rfl, rfl⟩ := returns_done.mp hrest
  · exact Or.inr ⟨⟨_, rfl⟩, Or.inr ⟨_, rfl, nofun⟩⟩
  · exact Or.inr ⟨⟨_, rfl⟩, Or.inr ⟨_, rfl, nofun⟩⟩
  · exact Or.inl ⟨row, rfl⟩

/-- A write that may have changed the row is reported so. -/
lemma StoreCall.reported (h : StoreCall key p) {before : List PollEvent}
    (hreturns : p.Returns (before ++ event :: after) result) (hchange : event.MayChange) :
    Reported key event after result := by
  induction h generalizing before with
  | raises => exact absurd (returns_done.mp hreturns).1 (by simp)
  | unchanged => exact absurd (returns_done.mp hreturns).1 (by simp)
  | read _ ih =>
    obtain ⟨reply, rest, heq, hrest⟩ := returns_call.mp hreturns
    cases before with
    | nil =>
      obtain ⟨rfl, -⟩ := List.cons.inj heq
      exact absurd hchange id
    | cons first before =>
      obtain ⟨rfl, rfl⟩ := List.cons.inj heq
      exact ih reply hrest
  | update hforward hok herror =>
    obtain ⟨reply, rest, heq, hrest⟩ := returns_call.mp hreturns
    cases before with
    | nil =>
      obtain ⟨rfl, rfl⟩ := List.cons.inj heq
      rcases reply with error | changed
      · rw [herror] at hrest
        exact Or.inr ⟨⟨_, (returns_done.mp hrest).2.symm⟩, Or.inl trivial⟩
      · obtain rfl : changed = true := by
          cases changed with
          | true => rfl
          | false => exact absurd hchange id
        rw [hok] at hrest
        exact reloaded_reported hrest
    | cons first before =>
      -- after the write there is only the reload
      obtain ⟨-, rfl⟩ := List.cons.inj heq
      rcases reply with error | changed
      · rw [herror] at hrest
        exact absurd (returns_done.mp hrest).1 (by simp)
      · rw [hok] at hrest
        have hselect := Runs.forall_mem hrest (fun _ _ h => (requireRow_reaches h).1) event (by simp)
        obtain ⟨op, reply⟩ := event
        subst hselect
        exact absurd hchange id
  | insert hcreated hok hother _ ih =>
    obtain ⟨reply, rest, heq, hrest⟩ := returns_call.mp hreturns
    cases before with
    | nil =>
      obtain ⟨rfl, rfl⟩ := List.cons.inj heq
      rcases reply with (_ | _) | _
      · exact absurd hchange id
      · rw [hother] at hrest
        exact Or.inr ⟨⟨_, (returns_done.mp hrest).2.symm⟩, Or.inl trivial⟩
      · rw [hok] at hrest
        exact Or.inl ⟨_, (returns_done.mp hrest).2.symm⟩
    | cons first before =>
      obtain ⟨-, rfl⟩ := List.cons.inj heq
      rcases reply with (_ | _) | _
      · exact ih hrest
      · rw [hother] at hrest
        exact absurd (returns_done.mp hrest).1 (by simp)
      · rw [hok] at hrest
        exact absurd (returns_done.mp hrest).1 (by simp)

end Shape

/-! ## The row -/

section Interleaving

variable {κ : Type} [DecidableEq κ] {key : ChatKey} {ops : κ → StoreOp}
  {trace past future between : List (Moment κ Rows Request Reply)}
  {moment : Moment κ Rows Request Reply}

/-- The calls have made their requests in this order, on a table that was empty. -/
abbrev Calls (key : ChatKey) (ops : κ → StoreOp) (trace : List (Moment κ Rows Request Reply)) :
    Prop :=
  Interleaving StoreStep (fun k => (ops k).program key) (fun _ => none) trace

/-- The row after a trace of calls. -/
def rowAfter (key : ChatKey) (trace : List (Moment κ Rows Request Reply)) : Row :=
  stateAfter (fun _ => none : Rows) trace key

lemma StoreStep.mayChange {rows rows' : Rows} {event : PollEvent} (h : StoreStep rows event rows')
    (hchanged : rows' key ≠ rows key) : event.MayChange := by
  cases h with
  | elsewhere | selected | unread | refused | insertFailed | updateFailed => exact absurd rfl hchanged
  | inserted | insertUnconfirmed | updateUnconfirmed => trivial
  | updated key' statement =>
    by_cases hrow : rows key' = some statement.expected
    · rw [applyCas, if_pos hrow]
      trivial
    · rw [Rows.updated_of_ne hrow] at hchanged
      exact absurd rfl hchanged

/-- A moment that changes the row moves it up to a well-formed one. -/
lemma moment_cases (h : Calls key ops trace) (htrace : trace = past ++ moment :: future) :
    moment.state key = rowAfter key past ∨
      ∃ row, moment.state key = some row ∧ row.WellFormed ∧
        rowPosition (rowAfter key past) < rowPosition (some row) := by
  have hrequest := ((ops moment.who).storeCall key).request (h.reaches htrace)
  rcases (h.steps past moment future htrace).row_cases with hsame | ⟨created, hop, hnone, hafter⟩ |
    ⟨statement, hop, hbefore, hafter⟩
  · exact Or.inl hsame
  · rw [hop] at hrequest
    refine Or.inr ⟨created, hafter, hrequest.2, ?_⟩
    rw [rowAfter, hnone]
    exact WithBot.bot_lt_coe (position created)
  · rw [hop] at hrequest
    refine Or.inr ⟨_, hafter, hrequest.2.wellFormed, ?_⟩
    rw [rowAfter, hbefore]
    exact WithBot.coe_lt_coe.mpr hrequest.2.up

/-- Along any part of the trace the row stays or goes up. -/
lemma row_up (h : Calls key ops trace) (htrace : trace = past ++ between ++ future) :
    rowAfter key past = rowAfter key (past ++ between) ∨
      rowPosition (rowAfter key past) < rowPosition (rowAfter key (past ++ between)) := by
  refine stateAfter_related (R := fun rows rows' : Rows =>
    rows key = rows' key ∨ rowPosition (rows key) < rowPosition (rows' key))
    (fun _ => Or.inl rfl) ?_ (fun past moment future htrace => ?_) htrace
  · rintro a b c (hab | hab) (hbc | hbc)
    · exact Or.inl (hab.trans hbc)
    · exact Or.inr (hab ▸ hbc)
    · exact Or.inr (hbc ▸ hab)
    · exact Or.inr (hab.trans hbc)
  · rcases moment_cases h htrace with hsame | ⟨row, hrow, -, hup⟩
    · exact Or.inl hsame.symm
    · exact Or.inr (hrow ▸ hup)

/-- A row that was left does not come back. -/
lemma row_left (h : Calls key ops trace) {later : List (Moment κ Rows Request Reply)}
    (htrace : trace = past ++ between ++ later ++ future)
    (hleft : rowAfter key (past ++ between) ≠ rowAfter key past) :
    rowAfter key (past ++ between ++ later) ≠ rowAfter key past := by
  have hsplit : trace = past ++ between ++ (later ++ future) := by simp [htrace]
  have hup := (row_up h hsplit).resolve_left (Ne.symm hleft)
  intro hback
  rcases row_up h htrace with hsame | hlater
  · exact hleft (hsame.trans hback)
  · rw [hback] at hlater
    exact lt_asymm hup hlater

lemma row_wellFormed (h : Calls key ops trace) {row : WechatSyncCheckpoint}
    (hrow : rowAfter key trace = some row) : row.WellFormed := by
  induction trace using List.reverseRecOn with
  | nil => cases hrow
  | append_singleton trace moment ih =>
    rw [rowAfter, stateAfter_concat] at hrow
    rcases moment_cases h rfl with hsame | ⟨_, hafter, hwf, -⟩
    · exact ih h.of_append (hsame.symm.trans hrow)
    · cases hafter.symm.trans hrow
      exact hwf

/-- **Checkpoint progress without ABA.** For any number of store calls with any arguments, one
statement at a time in any order and with failures anywhere:

* a change strictly increases the position of the row,
* a row that was left does not come back,
* an `UPDATE` that expects a row from before a change does nothing and does not report a match,
* both numbers stay in range, and there is no fingerprint at zero,
* a call that reports no change has made none, and one that raises has changed the row only if its
  write has raised, or if the reload after its commit has. -/
theorem checkpoint_progress_without_aba (key : ChatKey) (ops : κ → StoreOp)
    (trace : List (Moment κ Rows Request Reply)) (h : Calls key ops trace) :
    (∀ past (moment : Moment κ Rows Request Reply) future, trace = past ++ moment :: future →
      moment.state key ≠ rowAfter key past →
      rowPosition (rowAfter key past) < rowPosition (moment.state key)) ∧
    (∀ past between later future, trace = past ++ between ++ later ++ future →
      rowAfter key (past ++ between) ≠ rowAfter key past →
      rowAfter key (past ++ between ++ later) ≠ rowAfter key past) ∧
    (∀ past between later (moment : Moment κ Rows Request Reply) future statement,
      trace = past ++ between ++ later ++ moment :: future →
      rowAfter key (past ++ between) ≠ rowAfter key past →
      moment.event.1 = .update key statement → rowAfter key past = some statement.expected →
      moment.state key = rowAfter key (past ++ between ++ later) ∧
        moment.event ≠ ⟨.update key statement, .ok true⟩) ∧
    (∀ row, rowAfter key trace = some row →
      (0 ≤ row.lastLocalId ∧ row.lastLocalId ≤ 2 ^ 63 - 1) ∧
      (0 ≤ row.regressionGeneration ∧ row.regressionGeneration ≤ 2 ^ 63 - 1) ∧
      (row.lastLocalId = 0 → row.lastMessageFingerprint = none)) ∧
    (∀ past (moment : Moment κ Rows Request Reply) future result, trace = past ++ moment :: future →
      ((ops moment.who).program key).Returns (eventsOf moment.who trace) result →
      moment.state key ≠ rowAfter key past →
      Reported key moment.event (eventsOf moment.who future) result) := by
  refine ⟨?_, ?_, ?_, ?_, ?_⟩
  · intro past moment future htrace hchanged
    obtain ⟨row, hrow, -, hup⟩ := (moment_cases h htrace).resolve_left hchanged
    exact hrow ▸ hup
  · intro past between later future htrace hleft
    exact row_left h htrace hleft
  · intro past between later moment future statement htrace hleft hop hread
    have hsplit : trace = past ++ between ++ later ++ (moment :: future) := by simp [htrace]
    -- the expected row has been left for good
    have hstale : rowAfter key (past ++ between ++ later) ≠ some statement.expected :=
      hread ▸ row_left h hsplit hleft
    have hstep := h.steps _ moment future htrace
    constructor
    · rcases hstep.row_cases with hsame | ⟨_, hinsert, -⟩ | ⟨other, hother, hbefore, -⟩
      · exact hsame
      · cases hop.symm.trans hinsert
      · cases hop.symm.trans hother
        exact absurd hbefore hstale
    · intro hevent
      rw [hevent] at hstep
      exact hstale hstep.won.1
  · intro row hrow
    obtain ⟨h1, h2, h3, h4, h5⟩ := row_wellFormed h hrow
    exact ⟨⟨h1, h2⟩, ⟨h3, h4⟩, h5⟩
  · intro past moment future result htrace hreturns hchanged
    have hevents : eventsOf moment.who trace =
        eventsOf moment.who past ++ moment.event :: eventsOf moment.who future := by
      rw [htrace, eventsOf_append, eventsOf_cons_self]
    rw [hevents] at hreturns
    exact ((ops moment.who).storeCall key).reported hreturns
      ((h.steps past moment future htrace).mayChange hchanged)

end Interleaving

/-! ## A committed update that raises -/

/-- One call creates the row, another one advances it. -/
def twoCalls : Bool → StoreOp
  | false => .initializeCheckpoint (.int 0) .none
  | true => .advanceCas (.int 0) (.int 0) .none (.int 5) .none

/-- A database that answers every statement but a read. -/
def unreadable (rows : Rows) : (op : Request) → Reply op × Rows
  | .select _ => (.error .other, rows)
  | op => answers [] rows op

lemma unreadable_step (rows : Rows) (op : Request) :
    StoreStep rows ⟨op, (unreadable rows op).1⟩ (unreadable rows op).2 := by
  cases op with
  | select key => exact .unread rows key .other
  | _ => exact answers_step [] rows _

/-- The creation, with the database answering. -/
def createdTrace : List (Moment Bool Rows Request Reply) :=
  soloMoments (answers []) false ((twoCalls false).program ("me", "friend")) fun _ => none

lemma createdTrace_calls : Calls ("me", "friend") twoCalls createdTrace := by
  have hnil : Calls ("me", "friend") twoCalls ([] : List (Moment Bool Rows Request Reply)) :=
    ⟨fun k => ⟨_, Runs.refl _⟩, fun past moment future h => absurd h (by simp)⟩
  exact hnil.solo (k := false) rfl (answers_step [])

/-- The advance after it. -/
def advancedTrace (answer : Rows → (op : Request) → Reply op × Rows) :
    List (Moment Bool Rows Request Reply) :=
  createdTrace ++ soloMoments answer true ((twoCalls true).program ("me", "friend"))
    (stateAfter (fun _ => none) createdTrace)

/-- The advance is answered: the row has gone up to it. -/
theorem checkpoint_progress_advanced :
    rowAfter ("me", "friend") (advancedTrace (answers [])) = some ⟨5, 0, none⟩ ∧
      (0 ≤ (5 : Int) ∧ (5 : Int) ≤ 2 ^ 63 - 1) := by
  have hcalls : Calls ("me", "friend") twoCalls (advancedTrace (answers [])) :=
    createdTrace_calls.solo rfl (answers_step [])
  have hrow : rowAfter ("me", "friend") (advancedTrace (answers [])) = some ⟨5, 0, none⟩ := rfl
  exact ⟨hrow, ((checkpoint_progress_without_aba _ _ _ hcalls).2.2.2.1 _ hrow).1⟩

/-- The advance is committed, then its reload fails: the call raises, and the row has changed. -/
theorem raising_call_changes_row :
    Calls ("me", "friend") twoCalls (advancedTrace unreadable) ∧
    ((twoCalls true).program ("me", "friend")).Returns
      (eventsOf true (advancedTrace unreadable)) (.error .other) ∧
    rowAfter ("me", "friend") createdTrace = some ⟨0, 0, none⟩ ∧
    rowAfter ("me", "friend") (advancedTrace unreadable) = some ⟨5, 0, none⟩ := by
  refine ⟨createdTrace_calls.solo rfl unreadable_step, ?_, rfl, rfl⟩
  exact exec_returns unreadable ((twoCalls true).program ("me", "friend"))
    (stateAfter (fun _ => none) createdTrace)

end AgentGateway.Polling
