import AgentGateway.Polling.Database

/-!
# Fail-closed continuity

A message is handed to the sink only if its window is known to continue what has been delivered,
or if this very call has opened a new generation. A call that ends with a continuity failure hands
nothing over and leaves the row as it was, except that it may enrol a missing fingerprint.
-/

namespace AgentGateway.Polling

open Lib Lib.Program Polling.Checkpoint

/-- A result that reports a continuity failure. -/
def ChatPollResult.ContinuityFailed (result : ChatPollResult) : Prop :=
  ∃ failure ∈ result.failures, failure.IsContinuity

namespace WechatPollingService

variable {service : WechatPollingService} {chat : ChatWindow}
  {lifecycle state : WechatPollingLifecycleState} {checkpoint : WechatSyncCheckpoint} {isNew : Bool}
  {marker : Option EmptyWindowMarker} {before events : List PollEvent} {rows rows' : Rows}
  {op : Request} {prologue : Prologue} {result : ChatPollResult}

/-! ## The checkpoint of a call -/

/-- Finding a positive checkpoint changes nothing. -/
lemma WindowStart.rows_eq (h : WindowStart chat lifecycle before checkpoint isNew marker)
    (hpositive : 0 < checkpoint.lastLocalId) (hpath : Path StoreStep rows before rows') :
    rows' = rows := by
  cases h with
  | loaded =>
    simp only [path_select, path_nil] at hpath
    exact hpath.2.symm
  | initialized hnew hinit =>
    cases hinit with
    | exists_ =>
      simp only [path_select, path_nil] at hpath
      exact hpath.2.2.symm
    | raced =>
      simp only [path_select, path_refused, path_nil] at hpath
      exact hpath.2.2.2.2.symm
    | inserted => exact absurd (hnew rfl) hpositive.ne'

/-! ## Continuity failures -/

lemma not_continuityFailed_of_store (h : chat.StoreFailure result) : ¬ result.ContinuityFailed := by
  obtain ⟨error, skipped, bootstrapped, hcode, rfl⟩ := h
  rintro ⟨failure, hmem, -, hfailure⟩
  rw [List.mem_singleton.mp hmem] at hfailure
  exact code_ne_of_failure hcode hfailure

lemma not_continuityFailed_of_deliver {bootstrapped : Bool} {window : List Numbered}
    (h : DeliverExit service chat bootstrapped checkpoint window events (.ok result)) :
    ¬ result.ContinuityFailed := by
  rintro ⟨failure, hmem, hfailure⟩
  cases h with
  | finished => cases hmem
  | interrupted _ _ _ _ hno =>
    rw [List.mem_singleton.mp hmem] at hfailure
    exact hno hfailure

/-- The fingerprint of a row that had none. -/
def Enrolled (key : ChatKey) (rows rows' : Rows) : Prop :=
  rows' = rows ∨ ∃ checkpoint fingerprint, rows key = some checkpoint ∧
    checkpoint.lastMessageFingerprint = none ∧
    rows' = Function.update rows key
      (some { checkpoint with lastMessageFingerprint := some fingerprint })

/-- An enrolment takes effect on a row without a fingerprint, or not at all. -/
lemma enrolled_of_statement {remote : String} {statement : CasStatement}
    (h : enrollStatement checkpoint remote = .ok (some statement))
    (hrows : rows' = rows.updated chat.key statement) : Enrolled chat.key rows rows' := by
  obtain rfl := hrows
  obtain rfl := enrollStatement_eq checkpoint h
  by_cases hrow : rows chat.key = some { checkpoint with lastMessageFingerprint := none }
  · refine Or.inr ⟨_, remote, hrow, rfl, ?_⟩
    rw [Rows.updated_of_eq hrow]
    simp [CasStatement.values]
  · exact Or.inl (Rows.updated_of_ne hrow)

/-- Recording an empty window reads the clock at most. -/
lemma recordEmptyWindow_rows {seen : WechatPollingLifecycleState × Bool}
    (h : (recordEmptyWindow lifecycle chat.key checkpoint).Returns events seen)
    (hpath : Path StoreStep rows events rows') : rows' = rows := by
  unfold recordEmptyWindow at h
  split_ifs at h
  · obtain ⟨reading, rest, rfl, hrest⟩ := returns_call.mp h
    rw [(returns_done.mp hrest).1, path_clock, path_nil] at hpath
    exact hpath.symm
  · obtain ⟨rfl, -⟩ := returns_done.mp h
    exact (path_nil.mp hpath).symm

/-- The rows after a call that ended before the loop with a continuity failure. -/
lemma WindowExit.enrolled (h : WindowExit service chat lifecycle events state prologue)
    (hprologue : prologue = .ended (.ok result)) (hfailed : result.ContinuityFailed)
    (hpath : Path StoreStep rows events rows') : Enrolled chat.key rows rows' := by
  cases h with
  | unread =>
    cases hprologue
    exact absurd hfailed (not_continuityFailed_of_store ⟨.other, 0, false, nofun, rfl⟩)
  | empty hseen =>
    exact Or.inl (recordEmptyWindow_rows hseen (path_select.mp hpath).2)
  | mismatched =>
    simp only [path_select, path_nil] at hpath
    exact Or.inl hpath.2.symm
  | unstarted hresult =>
    cases hprologue
    exact absurd hfailed (not_continuityFailed_of_store hresult)
  | bootstrapped =>
    cases hprologue
    obtain ⟨failure, hmem, -⟩ := hfailed
    cases hmem
  | anchored hstart hexit =>
    obtain ⟨mid, hbefore, hafter⟩ := path_append.mp hpath
    cases hexit with
    | started => cases hprologue
    | ended hoverlap hend =>
      obtain rfl := hstart.rows_eq hoverlap.1 hbefore
      cases hend with
      | stopped | unanchored => exact Or.inl (path_nil.mp hafter).symm
      | unreadable => cases hprologue
      | enrolled hstatement =>
        simp only [path_update, path_select, path_nil] at hafter
        exact enrolled_of_statement hstatement hafter.2.2.symm
      | failed hresult =>
        cases hprologue
        exact absurd hfailed (not_continuityFailed_of_store hresult)
      | rebased =>
        cases hprologue
        obtain ⟨failure, hmem, -⟩ := hfailed
        cases hmem

/-! ## Empty windows -/

lemma not_overlaps_of_empty (hempty : chat.orderedMessages = []) : ¬ Overlaps chat checkpoint :=
  fun h => h.ne_nil hempty

/-- Over a positive checkpoint, a call with an empty window only reads the clock. -/
lemma pollMessages_empty_reaches (hmode : service.bootstrapMode = .latest)
    (hempty : chat.orderedMessages = [])
    (h : (service.pollMessages chat lifecycle).Reaches events op)
    (hfound : foundCheckpoint events = some checkpoint) (hpositive : 0 < checkpoint.lastLocalId) :
    op = .clock := by
  rcases reaches_bind.mp h with hwindow | ⟨_, ⟨state, prologue⟩, _, -, -, hrest⟩
  · exact (pollWindow_reaches hwindow).2 checkpoint hmode hempty hfound hpositive
  · cases prologue with
    | ended outcome => exact absurd hrest reaches_pure
    | start current isNew =>
      obtain ⟨passed, numbered, left, _, _, _, hsplit, -⟩ := deliver_reaches hrest
      rw [hempty] at hsplit
      cases passed <;> cases hsplit

/-- An empty window has nothing to hand over. -/
lemma pollMessages_empty_no_handle (hempty : chat.orderedMessages = [])
    (h : (service.pollMessages chat lifecycle).Reaches events op) (message) :
    op ≠ .handle message := by
  rintro rfl
  rcases pollMessages_reaches h with hprepares | ⟨_, _, _, _, _, -, -, hdeliver⟩
  · exact hprepares
  · obtain ⟨passed, numbered, left, _, _, _, hsplit, -⟩ := deliver_reaches hdeliver
    rw [hempty] at hsplit
    cases passed <;> cases hsplit

/-- The part before the loop leaves the rows when the window is empty. -/
lemma WindowExit.rows_eq_of_empty (hempty : chat.orderedMessages = [])
    (h : WindowExit service chat lifecycle events state prologue)
    (hfound : foundCheckpoint events = some checkpoint) (hpositive : 0 < checkpoint.lastLocalId)
    (hpath : Path StoreStep rows events rows') : rows' = rows := by
  cases h with
  | unread => cases hfound
  | empty hseen => exact recordEmptyWindow_rows hseen (path_select.mp hpath).2
  | mismatched =>
    simp only [path_select, path_nil] at hpath
    exact hpath.2.symm
  | unstarted hresult hnone => exact absurd (hfound.symm.trans hnone) (Option.some_ne_none _)
  | bootstrapped hcreated =>
    -- the row that would have been created is at local id 0
    obtain rfl := Option.some.inj hfound
    rw [hcreated, ChatWindow.remoteLatestLocalId, hempty] at hpositive
    exact absurd hpositive (lt_irrefl 0)
  | anchored hstart hexit =>
    obtain rfl := Option.some.inj ((hstart.found _).symm.trans hfound)
    obtain ⟨mid, hbefore, hafter⟩ := path_append.mp hpath
    obtain rfl := hstart.rows_eq hpositive hbefore
    cases hexit with
    | started hstarted =>
      cases hstarted with
      | disjoint => exact (path_nil.mp hafter).symm
      | verified h | rewound h | resumed h => exact absurd h (not_overlaps_of_empty hempty)
    | ended h => exact absurd h (not_overlaps_of_empty hempty)

/-- A completed call with an empty window over a positive checkpoint leaves the rows. -/
lemma pollMessages_empty_returns {out : ChatOutcome} (hempty : chat.orderedMessages = [])
    (h : (service.pollMessages chat lifecycle).Returns events out)
    (hfound : foundCheckpoint events = some checkpoint) (hpositive : 0 < checkpoint.lastLocalId)
    (hpath : Path StoreStep rows events rows') : rows' = rows := by
  rcases pollMessages_returns h with hwindow | ⟨before, after, current, isNew, rfl, hwindow, hexit⟩
  · exact (pollWindow_returns hwindow).rows_eq_of_empty hempty hfound hpositive hpath
  · obtain ⟨state, outcome⟩ := out
    have hnil : after = [] := by
      rw [hempty] at hexit
      cases hexit with
      | finished hloop => cases hloop; rfl
      | interrupted hsplit => exact absurd hsplit (by simp)
    rw [hnil, List.append_nil] at hfound hpath
    exact (pollWindow_returns hwindow).rows_eq_of_empty hempty hfound hpositive hpath

/-! ## The result -/

/-- Why a message may be handed over although the window reaches back to the checkpoint. -/
lemma handle_justified {message : NormalizedWechatMessage}
    (h : (service.pollMessages chat lifecycle).Reaches events (.handle message))
    (hfound : foundCheckpoint events = some checkpoint) (hoverlap : Overlaps chat checkpoint) :
    (∃ anchor fingerprint, anchorCandidates chat checkpoint = [anchor] ∧
      service.fingerprint anchor.2 = .ok (some fingerprint) ∧
      checkpoint.lastMessageFingerprint = some fingerprint) ∨
    ∃ statement, ⟨.update chat.key statement, .ok true⟩ ∈ events ∧
      statement.expected = checkpoint ∧ statement.bumpGeneration = true ∧
      (service.bootstrapMode = .backfill ∧
        (∃ first ∈ chat.orderedMessages.head?, statement.setLocalId = some (first.1 - 1)) ∧
          statement.setFingerprint = none ∨
      service.bootstrapMode = .latest ∧
        ∃ marker index, (lifecycle.evidence chat.key).marker = some marker ∧
          marker.MatchesCheckpoint (some checkpoint) ∧
          liveSuffixStartIndex marker chat.orderedMessages = .ok (some index) ∧
          ∃ first ∈ chat.orderedMessages[index]?, statement.setLocalId = some (first.1 - 1)) := by
  rcases pollMessages_reaches h with hprepares | ⟨_, _, state, _, _, rfl, hwindow, -⟩
  · exact absurd hprepares id
  · obtain ⟨-, before, after, found, isNew, marker, rfl, hstart, hstarted⟩ :=
      (pollWindow_returns hwindow).of_start rfl
    rw [List.append_assoc] at hfound
    obtain rfl := Option.some.inj ((hstart.found _).symm.trans hfound)
    cases hstarted with
    | disjoint hdisjoint => exact absurd hoverlap hdisjoint
    | verified _ hcandidates hremote hsaved => exact Or.inl ⟨_, _, hcandidates, hremote, hsaved⟩
    | @rewound statement current _ hmode hstatement =>
      refine Or.inr ⟨statement, by simp, ?_⟩
      obtain rfl := rewindStatement_eq _ _ hstatement
      obtain ⟨first, hfirst⟩ : ∃ first, chat.orderedMessages.head? = some first :=
        ⟨_, List.head?_eq_some_head hoverlap.ne_nil⟩
      refine ⟨rfl, rfl, Or.inl ⟨hmode, ⟨first, hfirst, ?_⟩, rfl⟩⟩
      rw [ChatWindow.remoteFirstLocalId, hfirst]
      rfl
    | @resumed _ _ _ statement _ _ hmode hmarker hindex hbaseline hstatement =>
      refine Or.inr ⟨statement, by simp, ?_⟩
      obtain rfl := liveSuffixStatement_eq _ _ hstatement
      refine ⟨rfl, rfl, Or.inr ⟨hmode, ?_⟩⟩
      cases hstart with
      | initialized => cases hmarker
      | loaded hmatches =>
        have hget := List.getElem?_eq_getElem ((liveSuffixStartIndex_spec hindex).lt)
        refine ⟨_, _, ?_, hmatches _ hmarker, hindex, _, hget, ?_⟩
        · rw [← hmarker, taken, WechatPollingLifecycleState.takeEmptyWindow, recorded,
            WechatPollingLifecycleState.recordVisibleWindow]
          simp
        · rw [hget]
          rfl

/-- **Fail-closed continuity.** In a call whose window reaches back to a positive checkpoint, a
sink call is preceded by a verified anchor or by a won compare-and-swap that opens a generation: a
rewind in BACKFILL mode, or in LATEST mode a live suffix for which the lifecycle state held a
marker of that checkpoint. A call that ends with a continuity failure has no sink call and changes
the rows at most by an enrolment. And an empty window over a positive checkpoint in LATEST mode
leads to no sink call and no change. -/
theorem fail_closed_continuity (service : WechatPollingService) (sourceAccountId : String)
    (entry : ChatEntry) (failed : List String) (lifecycle : WechatPollingLifecycleState) :
    (∀ conversationId rawMessages window events checkpoint message,
      (service.pollChat sourceAccountId entry failed lifecycle).Reaches
        (⟨.listMessages conversationId, .ok rawMessages⟩ :: events) (.handle message) →
      validatedOrderedMessages conversationId rawMessages = .ok window →
      foundCheckpoint events = some checkpoint →
      0 < checkpoint.lastLocalId → (∃ first ∈ window.head?, first.1 ≤ checkpoint.lastLocalId) →
      (∃ anchor fingerprint,
        window.filter (fun numbered => numbered.1 = checkpoint.lastLocalId) = [anchor] ∧
        buildWechatCheckpointFingerprint service.codecs anchor.2 = .ok (some fingerprint) ∧
        checkpoint.lastMessageFingerprint = some fingerprint) ∨
      ∃ statement,
        ⟨.update (sourceAccountId, conversationId) statement, .ok true⟩ ∈ events ∧
        statement.expected = checkpoint ∧ statement.bumpGeneration = true ∧
        (service.bootstrapMode = .backfill ∧
          (∃ first ∈ window.head?, statement.setLocalId = some (first.1 - 1)) ∧
            statement.setFingerprint = none ∨
        service.bootstrapMode = .latest ∧
          ∃ marker index, (lifecycle.evidence (sourceAccountId, conversationId)).marker
              = some marker ∧
            marker.MatchesCheckpoint (some checkpoint) ∧
            liveSuffixStartIndex marker window = .ok (some index) ∧
            ∃ first ∈ window[index]?, statement.setLocalId = some (first.1 - 1))) ∧
    (∀ events state result rows rows',
      (service.pollChat sourceAccountId entry failed lifecycle).Returns events
        (state, .ok result) →
      result.ContinuityFailed → Path StoreStep rows events rows' →
      (∀ message reply, ⟨.handle message, reply⟩ ∉ events) ∧
      (rows' = rows ∨ ∃ key checkpoint fingerprint, rows key = some checkpoint ∧
        checkpoint.lastMessageFingerprint = none ∧
        rows' = Function.update rows key
          (some { checkpoint with lastMessageFingerprint := some fingerprint }))) ∧
    (∀ conversationId events checkpoint, service.bootstrapMode = .latest →
      foundCheckpoint events = some checkpoint → 0 < checkpoint.lastLocalId →
      (∀ op, (service.pollChat sourceAccountId entry failed lifecycle).Reaches
        (⟨.listMessages conversationId, .ok []⟩ :: events) op → op = .clock) ∧
      ∀ out rows rows', (service.pollChat sourceAccountId entry failed lifecycle).Returns
        (⟨.listMessages conversationId, .ok []⟩ :: events) out →
        Path StoreStep rows (⟨.listMessages conversationId, .ok []⟩ :: events) rows' →
        (∀ message reply, ⟨.handle message, reply⟩ ∉ events) ∧ rows' = rows) := by
  refine ⟨?_, ?_, ?_⟩
  · intro conversationId rawMessages window events checkpoint message h hwindow hfound hpositive
      hoverlap
    obtain ⟨conversationId', name, -, -, ⟨hnil, -⟩ | ⟨raw, ordered, rest, heq, hordered, hpoll⟩⟩ :=
      pollChat_reaches h
    · cases hnil
    · cases heq
      cases hwindow.symm.trans hordered
      exact handle_justified hpoll hfound ⟨hpositive, hoverlap⟩
  · intro events state result rows rows' h hfailed hpath
    cases pollChat_returns h with
    | unparsed => exact absurd hfailed (by simp [ChatPollResult.ContinuityFailed, failure,
        PollFailure.IsContinuity])
    | rejected hparse hevents hconversation hsucceeded hstage =>
      obtain ⟨failure, hmem, hfailure, -⟩ := hfailed
      exact absurd hfailure (hstage failure hmem)
    | polled hparse hfresh hwindow hpoll =>
      rw [path_listMessages] at hpath
      -- the call has ended before the loop, since the loop does not fail that way
      rcases pollMessages_returns hpoll with hwindow | ⟨_, _, _, _, rfl, -, hexit⟩
      · have hrequests := Runs.forall_mem hwindow (fun _ _ h => (pollWindow_reaches h).1)
        refine ⟨?_, ?_⟩
        · intro message reply hmem
          rcases List.mem_cons.mp hmem with hfirst | hmem
          · cases hfirst
          · exact hrequests _ hmem
        · rcases (pollWindow_returns hwindow).enrolled rfl hfailed hpath with hsame | henrolled
          · exact Or.inl hsame
          · exact Or.inr ⟨_, henrolled⟩
      · exact absurd hfailed (not_continuityFailed_of_deliver hexit)
  · intro conversationId events checkpoint hmode hfound hpositive
    refine ⟨?_, ?_⟩
    · intro op h
      obtain ⟨conversationId', name, -, -, ⟨hnil, -⟩ |
        ⟨raw, ordered, rest, heq, hordered, hpoll⟩⟩ := pollChat_reaches h
      · cases hnil
      · cases heq
        cases hordered
        exact pollMessages_empty_reaches hmode rfl hpoll hfound hpositive
    · intro out rows rows' h hpath
      cases pollChat_returns h with
      | rejected hparse hevents =>
        rcases hevents with hnil | ⟨reply, hone⟩
        · cases hnil
        · cases hone
          cases hfound
      | polled hparse hfresh hwindow hpoll =>
        cases hwindow
        rw [path_listMessages] at hpath
        refine ⟨?_, pollMessages_empty_returns rfl hpoll hfound hpositive hpath⟩
        intro message reply hmem
        exact Runs.forall_mem hpoll (fun _ _ => pollMessages_empty_no_handle rfl) _ hmem _ rfl

/-- The checkpoint of the older message has no fingerprint yet: the poll enrols one and fails, and
the newer message stays where it is. -/
theorem fail_closed_enrolment :
    ∃ events state result rows',
      (friendPoll .initial).Returns (⟨.listMessages "friend", .ok friendMessages⟩ :: events)
        (state, .ok result) ∧
      result.ContinuityFailed ∧
      Path StoreStep (friendRow ⟨5, 0, none⟩)
        (⟨.listMessages "friend", .ok friendMessages⟩ :: events) rows' ∧
      rows' ("me", "friend") = some ⟨5, 0, some (coarseCodecs.digest (.serverAnchor "7"))⟩ ∧
      ∀ message reply, ⟨.handle message, reply⟩ ∉ events := by
  have hresult : (friendRun .initial friendMessages ⟨5, 0, none⟩).2.2.2 = .ok
      { conversationId := some "friend", succeeded := false, messagesSeen := 2,
        messagesSkippedByCheckpoint := 1,
        failures := [⟨.checkpoint, continuityCode, some "friend", none⟩] } := by
    decide +kernel
  have hreturns := friendRun_returns hresult
  have hfailed := ((fail_closed_continuity ⟨.latest, coarseCodecs⟩ "me" friendEntry [] .initial).2.1
    _ _ _ _ _ hreturns ⟨_, List.mem_singleton_self _, rfl, rfl⟩ friendRun_path).1
  exact ⟨_, _, _, _, hreturns, ⟨_, List.mem_singleton_self _, rfl, rfl⟩, friendRun_path,
    by decide +kernel, fun message reply hmem => hfailed message reply (List.mem_cons_of_mem _ hmem)⟩

end WechatPollingService
end AgentGateway.Polling
