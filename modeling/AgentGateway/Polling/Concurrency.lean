import AgentGateway.Lib.Interleaving
import AgentGateway.Polling.AtLeastOnce

/-!
# Concurrent pollers of one conversation

Any number of pollers load the checkpoint and deliver their windows, one request at a time in any
order. Nobody holds a lock: a poller that finds its compare-and-swap lost goes on from the cursor
that somebody else has written, if that is ahead of its own message.

* `Poller`: one load and the delivery after it, over a window without equal local ids,
* `moment_changes`: the only moments that change the row are advances of a delivery loop, so the
  row only goes up (`row_grows`),
* `passed_le`: the loop of every poller has left behind only messages at or below its cursor.

Committed advances therefore never jump over a message of their own window, and windows that are
snapshots of one sequence of messages lose none of it.
-/

namespace AgentGateway.Polling

open Lib Lib.Program Polling.Checkpoint Polling.WechatPollingService

/-- A poller of one conversation, with the window that it has read. -/
structure Poller (key : ChatKey) where
  service : WechatPollingService
  conversationName : Option String
  orderedMessages : List Numbered
  lifecycle : WechatPollingLifecycleState
  increasing : orderedMessages.Pairwise fun a b => a.1 < b.1

namespace Poller

variable {key : ChatKey} (poller : Poller key)

/-- The poller of a validated window in which no local id occurs twice. -/
def ofWindow (service : WechatPollingService) (conversationName : Option String)
    (lifecycle : WechatPollingLifecycleState) {messages : List WechatMessage}
    {window : List Numbered} (h : validatedOrderedMessages key.2 messages = .ok window)
    (hids : (window.map Prod.fst).Nodup) : Poller key :=
  ⟨service, conversationName, window, lifecycle, validatedOrderedMessages_increasing h hids⟩

def chat : ChatWindow := ⟨key.1, key.2, poller.conversationName, poller.orderedMessages⟩

@[simp] lemma chat_key : poller.chat.key = key := rfl

/-- Load the checkpoint and deliver the window. -/
def program : Poll ChatOutcome :=
  .call (.select key) fun
    | .ok (some checkpoint) =>
      poller.service.deliver poller.chat false poller.lifecycle checkpoint {} poller.orderedMessages
    | _ => .done (poller.lifecycle, .ok (poller.chat.checkpointFailed .other))

/-- Where the anchor check has nothing to ask for, this is what a call does with its window. -/
lemma runs_pollMessages
    (h : (poller.service.pollWindow poller.chat state).Returns
      [⟨.select key, .ok (some checkpoint)⟩] (poller.lifecycle, .start checkpoint false)) :
    (poller.service.pollMessages poller.chat state).Runs
        (⟨.select key, .ok (some checkpoint)⟩ :: events) rest ↔
      poller.program.Runs (⟨.select key, .ok (some checkpoint)⟩ :: events) rest := by
  rw [Returns, pollWindow, chat_key, runs_call_cons] at h
  rw [program, pollMessages, pollWindow, chat_key, call_bind, runs_call_cons, runs_call_cons]
  dsimp only at h ⊢
  generalize poller.service.pollLoaded _ _ _ = loaded at h ⊢
  cases h
  rfl

/-- After these events of its own, the poller has come to a message with this checkpoint and has
handed it over. -/
def Passing (events : List PollEvent) (current : WechatSyncCheckpoint) (numbered : Numbered) :
    Prop :=
  ∃ start passed rest before handed,
    events = ⟨.select key, .ok (some start)⟩ :: (before ++ handed) ∧
    poller.orderedMessages = passed ++ numbered :: rest ∧
    Loop poller.service poller.chat start passed before current ∧
    current.lastLocalId < numbered.1 ∧
    HandedOver poller.service poller.chat current.regressionGeneration numbered handed

variable {poller} {events : List PollEvent} {key' : ChatKey}

/-- The updates of a poller. -/
lemma program_update {statement : CasStatement}
    (h : poller.program.Reaches events (.update key' statement)) :
    key' = key ∧ ∃ numbered fingerprint,
      statement = ⟨statement.expected, some numbered.1, false, fingerprint⟩ ∧
      poller.Passing events statement.expected numbered := by
  rcases reaches_call.mp h with ⟨-, hop⟩ | ⟨reply, rest, rfl, hrest⟩
  · cases hop
  · rcases reply with error | (_ | start)
    · exact absurd hrest reaches_done
    · exact absurd hrest reaches_done
    · obtain ⟨passed, numbered, left, before, handed, current, hwindow, rfl, hloop, hlt, hin⟩ :=
        deliver_reaches hrest
      cases hin with
      | update hhanded _ hstatement =>
        obtain rfl := advanceStatement_eq hstatement
        exact ⟨rfl, numbered, _, rfl, start, passed, left, before, handed, rfl, hwindow, hloop, hlt,
          hhanded⟩

/-- A poller does not create rows. -/
lemma program_insert {created : WechatSyncCheckpoint} :
    ¬ poller.program.Reaches events (.insert key' created) := by
  intro h
  rcases reaches_call.mp h with ⟨-, hop⟩ | ⟨reply, rest, rfl, hrest⟩
  · cases hop
  · rcases reply with error | (_ | start)
    · exact absurd hrest reaches_done
    · exact absurd hrest reaches_done
    · obtain ⟨_, _, _, _, _, _, _, _, _, _, hin⟩ := deliver_reaches hrest
      cases hin

end Poller

/-! ## The row -/

section Interleaving

variable {κ : Type} [DecidableEq κ] {key : ChatKey} {pollers : κ → Poller key} {rows : Rows}
  {trace past future : List (Moment κ Rows Request Reply)} {moment : Moment κ Rows Request Reply}
  {k : κ} {row : Row}

/-- The pollers have made their requests in this order. -/
abbrev Polls (pollers : κ → Poller key) (rows : Rows)
    (trace : List (Moment κ Rows Request Reply)) : Prop :=
  Interleaving StoreStep (fun k => (pollers k).program) rows trace

/-- The row changes in an advance of a poller, and only there. -/
lemma moment_changes (h : Polls pollers rows trace)
    (htrace : trace = past ++ moment :: future) :
    moment.state key = stateAfter rows past key ∨
    ∃ a b numbered, stateAfter rows past key = some a ∧ moment.state key = some b ∧
      b.lastLocalId = numbered.1 ∧ b.regressionGeneration = a.regressionGeneration ∧
      (pollers moment.who).Passing (eventsOf moment.who past) a numbered := by
  have hreaches := h.reaches htrace
  rcases (h.steps past moment future htrace).row_cases with hsame | ⟨created, hop, -⟩ |
    ⟨statement, hop, hbefore, hafter⟩
  · exact Or.inl hsame
  · rw [hop] at hreaches
    exact absurd hreaches Poller.program_insert
  · rw [hop] at hreaches
    obtain ⟨-, numbered, fingerprint, hstatement, hpassing⟩ := Poller.program_update hreaches
    refine Or.inr ⟨_, _, numbered, hbefore, hafter, ?_, ?_, hpassing⟩ <;> rw [hstatement]
    · rfl
    · exact add_zero _

/-- A row is where it was, or further on in the same generation. -/
def Grown (row row' : Row) : Prop :=
  row = row' ∨ ∃ a b, row = some a ∧ row' = some b ∧ a.lastLocalId < b.lastLocalId ∧
    b.regressionGeneration = a.regressionGeneration

lemma Grown.trans {a b c : Row} (hab : Grown a b) (hbc : Grown b c) : Grown a c := by
  rcases hab with rfl | ⟨x, y, rfl, rfl, hxy, hgeneration⟩
  · exact hbc
  · rcases hbc with rfl | ⟨y', z, hy, rfl, hyz, hgeneration'⟩
    · exact Or.inr ⟨x, y, rfl, rfl, hxy, hgeneration⟩
    · cases hy
      exact Or.inr ⟨x, z, rfl, rfl, hxy.trans hyz, hgeneration'.trans hgeneration⟩

/-- From a row to a later one. -/
lemma Grown.of_some {a : WechatSyncCheckpoint} (h : Grown (some a) row) :
    ∃ b, row = some b ∧ a.lastLocalId ≤ b.lastLocalId ∧
      b.regressionGeneration = a.regressionGeneration := by
  rcases h with rfl | ⟨_, b, ha, rfl, hlt, hgeneration⟩
  · exact ⟨a, rfl, le_rfl, rfl⟩
  · cases ha
    exact ⟨b, rfl, hlt.le, hgeneration⟩

/-- Whatever the pollers do, the row only goes up. -/
lemma row_grows (h : Polls pollers rows trace)
    (past between future : List (Moment κ Rows Request Reply))
    (htrace : trace = past ++ between ++ future) :
    Grown (stateAfter rows past key) (stateAfter rows (past ++ between) key) := by
  refine stateAfter_related (R := fun rows rows' => Grown (rows key) (rows' key))
    (fun _ => Or.inl rfl) Grown.trans (fun past moment future htrace => ?_) htrace
  rcases moment_changes h htrace with hsame | ⟨a, b, numbered, ha, hb, hid, hgeneration, hpassing⟩
  · exact Or.inl hsame.symm
  · obtain ⟨_, _, _, _, _, _, _, _, hlt, _⟩ := hpassing
    exact Or.inr ⟨a, b, ha, hb, hid ▸ hlt, hgeneration⟩

/-! ## The loops -/

/-- What a poller reads is the row at that moment. -/
lemma row_of_read (h : Polls pollers rows trace) (before after : List PollEvent)
    (hevents : eventsOf k trace = before ++ ⟨.select key, .ok row⟩ :: after) :
    ∃ past future, trace = past ++ future ∧ eventsOf k past = before ∧
      stateAfter rows past key = row := by
  obtain ⟨past, moment, future, htrace, -, hevent, hpast, -⟩ := exists_moment hevents
  refine ⟨past, moment :: future, htrace, hpast, ?_⟩
  have hstep := h.steps past moment future htrace
  rw [hevent] at hstep
  exact hstep.read

variable {current start : WechatSyncCheckpoint} {passed : List Numbered}
  {before after : List PollEvent}

/-- A poller that has won its update reads back a row that is at least as far. -/
lemma read_after_won {checkpoint : WechatSyncCheckpoint} {localId : Int}
    {fingerprint : Option String} (h : Polls pollers rows trace)
    (hevents : eventsOf k trace = before ++
      ⟨.update key ⟨checkpoint, some localId, false, fingerprint⟩, .ok true⟩ ::
        ⟨.select key, .ok (some current)⟩ :: after) :
    localId ≤ current.lastLocalId ∧
      current.regressionGeneration = checkpoint.regressionGeneration := by
  obtain ⟨past, moment, future, htrace, -, hupdate, -, hfuture⟩ := exists_moment hevents
  rw [← List.nil_append (_ :: after)] at hfuture
  obtain ⟨between, reading, later, rfl, -, hselect, -, -⟩ := exists_moment hfuture
  have hwon := h.steps past moment _ htrace
  have hread := h.steps (past ++ [moment] ++ between) reading later (by rw [htrace]; simp)
  have hgrown := row_grows h (past ++ [moment]) between (reading :: later) (by rw [htrace]; simp)
  rw [hupdate] at hwon
  rw [hselect] at hread
  rw [stateAfter_concat, hwon.won.2, hread.read] at hgrown
  obtain ⟨_, hcurrent, hle, hgeneration⟩ := hgrown.of_some
  cases hcurrent
  exact ⟨hle, hgeneration.trans (add_zero _)⟩

/-- The loop of a poller has left behind only messages at or below its cursor. -/
lemma passed_le {earlier : List PollEvent} (h : Polls pollers rows trace)
    (hloop : Loop (pollers k).service (pollers k).chat start passed before current)
    (hevents : eventsOf k trace = earlier ++ before ++ after) :
    start.lastLocalId ≤ current.lastLocalId ∧
      current.regressionGeneration = start.regressionGeneration ∧
      ∀ x ∈ passed, x.1 ≤ current.lastLocalId := by
  induction hloop generalizing earlier with
  | nil checkpoint => exact ⟨le_rfl, rfl, fun x hx => absurd hx List.not_mem_nil⟩
  | @cons checkpoint numbered turn next rest events last hturn hrest ih =>
    have hturned : checkpoint.lastLocalId ≤ next.lastLocalId ∧
        next.regressionGeneration = checkpoint.regressionGeneration ∧
        numbered.1 ≤ next.lastLocalId := by
      cases hturn with
      | skipped hle => exact ⟨le_rfl, rfl, hle⟩
      | @passed handed fingerprint statement changed _ hlt _ _ hstatement hchanged =>
        have hread : numbered.1 ≤ next.lastLocalId ∧
            next.regressionGeneration = checkpoint.regressionGeneration := by
          rcases hchanged with rfl | ⟨hgeneration, hahead⟩
          · obtain rfl := advanceStatement_eq hstatement
            have hsplit : eventsOf k trace = earlier ++ handed ++
                ⟨.update key ⟨checkpoint, some numbered.1, false, fingerprint⟩, .ok true⟩ ::
                  ⟨.select key, .ok (some next)⟩ :: (events ++ after) := by
              rw [hevents]
              simp
            exact read_after_won h hsplit
          · refine ⟨?_, hgeneration⟩
            rcases hahead with hahead | ⟨hsame, -⟩
            · exact hahead.le
            · exact hsame.ge
        exact ⟨hlt.le.trans hread.1, hread.2, hread.1⟩
    have hlater : eventsOf k trace = earlier ++ turn ++ events ++ after := by
      rw [hevents]
      simp
    obtain ⟨hle, hgeneration, hpassed⟩ := ih hlater
    refine ⟨hturned.1.trans hle, hgeneration.trans hturned.2.1, ?_⟩
    intro x hx
    rcases List.mem_cons.mp hx with rfl | hx
    · exact hturned.2.2.trans hle
    · exact hpassed x hx

/-- The cursor of a loop is the one it has started from, or one it has read. -/
lemma WechatPollingService.Loop.read {service : WechatPollingService} {chat : ChatWindow}
    {events : List PollEvent} (h : Loop service chat start passed events current) :
    current = start ∨ ⟨.select chat.key, .ok (some current)⟩ ∈ events := by
  induction h with
  | nil => exact Or.inl rfl
  | cons hturn hrest ih =>
    rcases ih with rfl | hread
    · cases hturn with
      | skipped => exact Or.inl rfl
      | passed => exact Or.inr (by simp)
    · exact Or.inr (List.mem_append_right _ hread)

/-- A loop that is ahead of the checkpoint it has loaded is at a cursor that somebody has
committed. -/
lemma ahead_committed (h : Polls pollers rows trace)
    (hevents : eventsOf k trace = ⟨.select key, .ok (some start)⟩ :: (before ++ after))
    (hloop : Loop (pollers k).service (pollers k).chat start passed before current)
    (hahead : start.lastLocalId < current.lastLocalId) :
    ∃ past moment future, trace = past ++ moment :: future ∧
      stateAfter rows past key ≠ some current ∧ moment.state key = some current := by
  -- the row was not that far when the checkpoint was loaded, so it was not that far before
  obtain ⟨loaded, later, hloaded, -, hstart⟩ := row_of_read h [] _ hevents
  have hfirst : rows key ≠ some current := by
    intro hrow
    have hgrown := row_grows h [] loaded later hloaded
    rw [List.nil_append, stateAfter_nil, hrow, hstart] at hgrown
    obtain ⟨_, hsome, hle, -⟩ := hgrown.of_some
    cases hsome
    exact absurd hle (not_le.mpr hahead)
  rcases hloop.read with rfl | hmem
  · exact absurd hahead (lt_irrefl _)
  · obtain ⟨earlier, rest, rfl⟩ := List.append_of_mem hmem
    have hsplit : eventsOf k trace = ⟨.select key, .ok (some start)⟩ :: earlier ++
        ⟨.select key, .ok (some current)⟩ :: (rest ++ after) := by
      rw [hevents]
      simp
    obtain ⟨read, left, rfl, -, hread⟩ := row_of_read h _ _ hsplit
    obtain ⟨past, moment, future, rfl, hpast, hmoment⟩ :=
      exists_change (P := fun rows : Rows => rows key = some current) hfirst hread
    exact ⟨past, moment, future ++ left, by simp, hpast, hmoment⟩

/-! ## No message is jumped over -/

/-- A committed advance hands over the next message of its own window. -/
lemma committed_advance (h : Polls pollers rows trace)
    (htrace : trace = past ++ moment :: future)
    (hchanged : moment.state key ≠ stateAfter rows past key) :
    ∃ a b numbered, stateAfter rows past key = some a ∧ moment.state key = some b ∧
      b.regressionGeneration = a.regressionGeneration ∧
      numbered ∈ (pollers moment.who).orderedMessages ∧ b.lastLocalId = numbered.1 ∧
      a.lastLocalId < b.lastLocalId ∧
      (∀ x ∈ (pollers moment.who).orderedMessages,
        ¬ (a.lastLocalId < x.1 ∧ x.1 < b.lastLocalId)) ∧
      (isSelfMessage numbered.2 = false →
        Accepted (pollers moment.who).service (pollers moment.who).chat a.regressionGeneration
          (eventsOf moment.who past) numbered) := by
  rcases moment_changes h htrace with hsame | ⟨a, b, numbered, ha, hb, hid, hgeneration, hpassing⟩
  · exact absurd hsame hchanged
  · obtain ⟨start, passed, rest, before, handed, hevents, hwindow, hloop, hlt, hhanded⟩ := hpassing
    have hincreasing := (pollers moment.who).increasing
    rw [hwindow] at hincreasing
    have hpassed : ∀ x ∈ passed, x.1 ≤ a.lastLocalId := by
      subst htrace
      have hsplit : eventsOf moment.who past =
          [⟨.select key, .ok (some start)⟩] ++ before ++ handed := by
        rw [hevents]
        simp
      exact (passed_le (Interleaving.of_append h) hloop hsplit).2.2
    refine ⟨a, b, numbered, ha, hb, hgeneration, by simp [hwindow], hid, hid ▸ hlt, ?_, ?_⟩
    · rintro x hx ⟨hahead, hbehind⟩
      rw [hid] at hbehind
      rw [hwindow] at hx
      rcases List.mem_append.mp hx with hx | hx
      · exact absurd (hpassed x hx) (not_le.mpr hahead)
      · rcases List.mem_cons.mp hx with rfl | hx
        · exact absurd hbehind (lt_irrefl _)
        · have hlater := List.rel_of_pairwise_cons (List.pairwise_append.mp hincreasing).2.1 hx
          exact absurd hbehind (not_lt.mpr hlater.le)
    · intro hself
      cases hhanded with
      | self hself' => exact absurd (hself.symm.trans hself') nofun
      | handed _ hnormalized disposition =>
        exact ⟨_, disposition, hnormalized, by simp [hevents]⟩

/-- The window shows, above the cursor, the messages of a conversation up to some message. -/
structure Snapshot (cursor : Int) (sequence : Set Numbered) (window : List Numbered) : Prop where
  shown : ∀ x ∈ window, cursor < x.1 → x ∈ sequence
  closed : ∀ x ∈ sequence, ∀ y ∈ window, x.1 ≤ y.1 → x ∈ window

/-- If the windows are snapshots of one sequence, nothing of it is lost. -/
lemma accepted_of_snapshots {sequence : Set Numbered} (h : Polls pollers rows trace)
    (hstart : rows key = some start) (habove : ∀ x ∈ sequence, start.lastLocalId < x.1)
    (hsnapshots : ∀ k, Snapshot start.lastLocalId sequence (pollers k).orderedMessages)
    (hcurrent : stateAfter rows trace key = some current) {x : Numbered} (hx : x ∈ sequence)
    (hself : isSelfMessage x.2 = false) (hle : x.1 ≤ current.lastLocalId) :
    ∃ k, Accepted (pollers k).service (pollers k).chat start.regressionGeneration
      (eventsOf k trace) x := by
  induction trace using List.reverseRecOn generalizing current with
  | nil =>
    cases hstart.symm.trans hcurrent
    exact absurd hle (not_le.mpr (habove x hx))
  | append_singleton past moment ih =>
    have hpast : Polls pollers rows past := Interleaving.of_append h
    -- what has been accepted stays so
    have earlier : ∀ {row : WechatSyncCheckpoint}, stateAfter rows past key = some row →
        x.1 ≤ row.lastLocalId → ∃ k, Accepted (pollers k).service (pollers k).chat
          start.regressionGeneration (eventsOf k (past ++ [moment])) x := by
      intro row hrow hle
      obtain ⟨k, normalized, disposition, hnormalized, hmem⟩ := ih hpast hrow hle
      refine ⟨k, normalized, disposition, hnormalized, ?_⟩
      rw [eventsOf_append]
      exact List.mem_append_left _ hmem
    rw [stateAfter_concat] at hcurrent
    by_cases hchanged : moment.state key = stateAfter rows past key
    · exact earlier (hchanged.symm.trans hcurrent) hle
    · obtain ⟨a, b, numbered, ha, hb, -, hmem, hid, hlt, hbetween, haccepted⟩ :=
        committed_advance h rfl hchanged
      cases hb.symm.trans hcurrent
      by_cases hbehind : x.1 ≤ a.lastLocalId
      · exact earlier ha hbehind
      · -- the message is the one that was passed, since nothing lies between
        have hgrown := row_grows hpast [] past [] (by simp)
        rw [List.nil_append, stateAfter_nil, hstart, ha] at hgrown
        obtain ⟨_, hsome, hstarted, hgeneration⟩ := hgrown.of_some
        cases hsome
        have hshown : x ∈ (pollers moment.who).orderedMessages :=
          (hsnapshots moment.who).closed x hx numbered hmem (hid ▸ hle)
        have hsame : x.1 = numbered.1 := by
          have := hbetween x hshown
          omega
        obtain rfl := eq_of_localId_eq (pollers moment.who).increasing hshown hmem hsame
        obtain ⟨normalized, disposition, hnormalized, hhandled⟩ := haccepted hself
        refine ⟨moment.who, normalized, disposition, hgeneration ▸ hnormalized, ?_⟩
        rw [eventsOf_append]
        exact List.mem_append_left _ hhandled

/-- **Concurrent pollers never jump over unhandled messages.** Each change of the row is an advance
of one poller, within the generation, past the next message of its own window, which its sink has
accepted before if it is not a self message. A message that a poller skips is at or below the
checkpoint it has loaded or at or below a cursor that was committed by such an advance. If the
windows are snapshots of one sequence of messages above the starting cursor, every non-self message
of the sequence at or below the committed cursor has been accepted by the sink of some poller. -/
theorem concurrent_pollers_never_jump {κ : Type} [DecidableEq κ] {key : ChatKey}
    (pollers : κ → Poller key) (rows : Rows) :
    (∀ trace past moment future, Polls pollers rows trace → trace = past ++ moment :: future →
      moment.state key ≠ stateAfter rows past key →
      ∃ a b numbered, stateAfter rows past key = some a ∧ moment.state key = some b ∧
        b.regressionGeneration = a.regressionGeneration ∧
        numbered ∈ (pollers moment.who).orderedMessages ∧ b.lastLocalId = numbered.1 ∧
        a.lastLocalId < b.lastLocalId ∧
        (∀ x ∈ (pollers moment.who).orderedMessages,
          ¬ (a.lastLocalId < x.1 ∧ x.1 < b.lastLocalId)) ∧
        (isSelfMessage numbered.2 = false →
          Accepted (pollers moment.who).service (pollers moment.who).chat a.regressionGeneration
            (eventsOf moment.who past) numbered)) ∧
    (∀ trace k start current passed skipped rest before after, Polls pollers rows trace →
      eventsOf k trace = ⟨.select key, .ok (some start)⟩ :: (before ++ after) →
      (pollers k).orderedMessages = passed ++ skipped :: rest →
      Loop (pollers k).service (pollers k).chat start passed before current →
      skipped.1 ≤ current.lastLocalId →
      skipped.1 ≤ start.lastLocalId ∨
        ∃ past moment future, trace = past ++ moment :: future ∧
          moment.state key ≠ stateAfter rows past key ∧ moment.state key = some current) ∧
    (∀ trace start sequence current, Polls pollers rows trace → rows key = some start →
      (∀ x ∈ sequence, start.lastLocalId < x.1) →
      (∀ k, Snapshot start.lastLocalId sequence (pollers k).orderedMessages) →
      stateAfter rows trace key = some current →
      ∀ x ∈ sequence, isSelfMessage x.2 = false → x.1 ≤ current.lastLocalId →
        ∃ k, Accepted (pollers k).service (pollers k).chat start.regressionGeneration
          (eventsOf k trace) x) := by
  refine ⟨fun _ _ _ _ h htrace hchanged => committed_advance h htrace hchanged, ?_, ?_⟩
  · intro trace k start current passed skipped rest before after h hevents _ hloop hskipped
    by_cases hloaded : skipped.1 ≤ start.lastLocalId
    · exact Or.inl hloaded
    · obtain ⟨past, moment, future, htrace, hpast, hmoment⟩ :=
        ahead_committed h hevents hloop ((not_le.mp hloaded).trans_le hskipped)
      exact Or.inr ⟨past, moment, future, htrace, fun heq => hpast (heq ▸ hmoment), hmoment⟩
  · intro trace start sequence current h hstart habove hsnapshots hcurrent x hx hself hle
    exact accepted_of_snapshots h hstart habove hsnapshots hcurrent hx hself hle

/-- A poller that has read the two messages of the friend. -/
def friendPoller : Poller ("me", "friend") :=
  .ofWindow ⟨.latest, coarseCodecs⟩ none .initial friendMessages_ordered (by decide)

/-- Two such pollers, one after the other. -/
def friendTrace : List (Moment Bool Rows Request Reply) :=
  inTurn (fun _ => answers []) (fun _ => friendPoller.program) (friendRow ⟨0, 0, none⟩) [true, false]

/-- The cursor ends on the later message, and each has been accepted from one of the pollers. -/
theorem concurrent_pollers_never_jump_inTurn :
    ∃ current, stateAfter (friendRow ⟨0, 0, none⟩) friendTrace ("me", "friend") = some current ∧
      current.lastLocalId = 6 ∧
      ∀ x ∈ friendWindow, ∃ k : Bool, Accepted friendPoller.service friendPoller.chat 0
        (eventsOf k friendTrace) x := by
  have hpolls : Polls (fun _ : Bool => friendPoller) (friendRow ⟨0, 0, none⟩) friendTrace :=
    interleaving_inTurn (by decide) fun _ => answers_step []
  have hcurrent : stateAfter (friendRow ⟨0, 0, none⟩) friendTrace ("me", "friend") =
      some ⟨6, 0, some (coarseCodecs.digest (.serverAnchor "8"))⟩ := by
    decide +kernel
  have hwindow : ∀ x ∈ friendWindow, 0 < x.1 ∧ isSelfMessage x.2 = false ∧ x.1 ≤ 6 := by
    decide +kernel
  refine ⟨_, hcurrent, rfl, fun x hx => ?_⟩
  exact (concurrent_pollers_never_jump _ _).2.2 friendTrace ⟨0, 0, none⟩ { x | x ∈ friendWindow } _
    hpolls rfl (fun x hx => (hwindow x hx).1)
    (fun _ => ⟨fun _ hx _ => hx, fun _ hx _ _ _ => hx⟩) hcurrent x hx (hwindow x hx).2.1
    (hwindow x hx).2.2

end Interleaving

end AgentGateway.Polling
