import AgentGateway.Polling.Handover

/-!
# The live suffix after an empty window

A LATEST poller that has seen a chat empty since some instant, and then sees messages that do not
continue its checkpoint, delivers those that are later than the instant. `liveSuffixStartIndex`
finds them by one scan (`liveSuffixStartIndex_spec`); the suffix is handed to the delivery loop as
a checkpoint in a new generation (`liveSuffixStatement_ok`), from which the loop finds exactly that
suffix again (`LiveFrom.filter_ahead`).
-/

namespace AgentGateway.Polling

open Lib Lib.Program Polling.Checkpoint

variable {marker : EmptyWindowMarker} {window : List Numbered}

/-! ## The suffix as a checkpoint -/

/-- From the id before the suffix, a loop finds the suffix again. -/
lemma LiveFrom.filter_ahead {index : ℕ} (h : LiveFrom marker window index) :
    window.filter (localIdBefore window index < ·.1) = window.drop index := by
  obtain ⟨first, -, hdrop, hid⟩ := h.drop_eq
  have hsplit := List.take_append_drop index window
  have hincreasing := h.increasing
  rw [← hsplit] at hincreasing
  obtain ⟨-, hsuffix, hcross⟩ := List.pairwise_append.mp hincreasing
  have hbehind : ∀ x ∈ window.take index, x.1 ≤ localIdBefore window index := by
    intro x hx
    have := hcross x hx first (by rw [hdrop]; exact List.mem_cons_self)
    omega
  have hahead : ∀ x ∈ window.drop index, localIdBefore window index < x.1 := by
    intro x hx
    rw [hdrop] at hx hsuffix
    rcases List.mem_cons.mp hx with rfl | hx
    · omega
    · have := List.rel_of_pairwise_cons hsuffix hx
      omega
  calc window.filter (localIdBefore window index < ·.1)
      = (window.take index).filter (localIdBefore window index < ·.1) ++
          (window.drop index).filter (localIdBefore window index < ·.1) := by
        rw [← List.filter_append, hsplit]
    _ = [] ++ window.drop index := by
        congr 1
        · exact List.filter_eq_nil_iff.mpr fun x hx => by simpa using hbehind x hx
        · exact List.filter_eq_self.mpr fun x hx => decide_eq_true (hahead x hx)
    _ = window.drop index := List.nil_append _

/-- A checkpoint that a marker is about can be stored. -/
lemma EmptyWindowMarker.MatchesCheckpoint.storable {checkpoint : WechatSyncCheckpoint}
    (h : marker.MatchesCheckpoint (some checkpoint)) : Storable checkpoint := by
  obtain ⟨_, hsome, ⟨hid, hgeneration, fingerprint, hmem, hshape⟩, -⟩ := h
  cases hsome
  refine ⟨⟨hid.1.le, hid.2⟩, hgeneration, ?_⟩
  rw [Option.mem_def.mp hmem]
  exact if_pos hshape

namespace WechatPollingService

variable {service : WechatPollingService} {chat : ChatWindow} {rows rows' : Rows}
  {checkpoint : WechatSyncCheckpoint} {marker : EmptyWindowMarker} {index : ℕ}
  {baseline : Option String} {events : List PollEvent}

lemma baselineFingerprint_valid (hsha : service.codecs.Sha256)
    (h : service.baselineFingerprint chat index = .ok baseline) :
    validatedCheckpointFingerprint (.ofOptionStr baseline) = .ok baseline := by
  cases index with
  | zero =>
    cases h
    rfl
  | succ index =>
    simp only [baselineFingerprint] at h
    split at h
    · cases h
    · exact fingerprint_valid hsha h

/-- The store raises no validation error, and the checkpoint from which the suffix is delivered can
be stored. -/
lemma liveSuffixStatement_ok (hsha : service.codecs.Sha256) (hcheckpoint : Storable checkpoint)
    (hgeneration : checkpoint.regressionGeneration < maxCheckpointLocalId)
    (hlive : LiveFrom marker chat.orderedMessages index)
    (hle : ∀ x ∈ chat.orderedMessages, x.1 ≤ maxCheckpointLocalId)
    (hbaseline : service.baselineFingerprint chat index = .ok baseline)
    (hnonnull : 0 < index → baseline ≠ none) :
    liveSuffixStatement chat checkpoint index baseline =
      .ok (some ⟨checkpoint, some (localIdBefore chat.orderedMessages index), true, baseline⟩) ∧
    Storable ⟨localIdBefore chat.orderedMessages index, checkpoint.regressionGeneration + 1,
      baseline⟩ := by
  obtain ⟨first, hfirst, hdrop, hid⟩ := hlive.drop_eq
  have hmem : first ∈ chat.orderedMessages := List.mem_of_getElem? hfirst
  have hpositive := hlive.positive first hmem
  -- the cursor is 0 exactly if there is no message before the suffix, and so no fingerprint
  have hpaired : first.1 - 1 = 0 ↔ baseline = none := by
    cases index with
    | zero =>
      cases hbaseline
      simp only [localIdBefore] at hid
      simp [hid]
    | succ index =>
      simp only [baselineFingerprint] at hbaseline
      split at hbaseline
      · cases hbaseline
      case h_2 localId message hbefore =>
        have hbehind := hlive.positive _ (List.mem_of_getElem? hbefore)
        simp only [localIdBefore, hbefore, Option.map_some, Option.getD_some] at hid
        have hzero : first.1 - 1 ≠ 0 := by
          simp only at hbehind
          omega
        exact iff_of_false hzero (hnonnull index.succ_pos)
  have hcursor := validatedCheckpointLocalId_eq_ok.mpr ⟨rfl, hcheckpoint.localId⟩
  have hstored := validatedCheckpointGeneration_eq_ok.mpr ⟨rfl, hcheckpoint.generation⟩
  have hlocal := validatedCheckpointLocalId_eq_ok.mpr ⟨rfl, hpositive.le, hle first hmem⟩
  have hbefore : localIdBefore chat.orderedMessages index = first.1 - 1 := by omega
  have hvalid := baselineFingerprint_valid hsha hbaseline
  have hbound := hle first hmem
  have hpast := hcheckpoint.generation
  refine ⟨?_, ⟨by dsimp only; omega, by dsimp only; omega⟩, ⟨by dsimp only; omega, hgeneration⟩,
    hvalid⟩
  simp only [liveSuffixStatement, beginLiveSuffixAfterEmptyWindow, hfirst, Option.map_some,
    Option.getD_some, hbefore, bind_eq_ok, raiseIf_eq_ok]
  exact ⟨_, hcursor, _, hstored, _, hlocal, _, hcheckpoint.fingerprint, _,
    hvalid, (), hgeneration.ne, (), hpositive.ne', (),
    not_not.mpr hpaired, rfl⟩

variable {lifecycle : WechatPollingLifecycleState}

/-- The recovery wins its compare-and-swap and starts the loop before the suffix. -/
lemma liveSuffix_answered {state : WechatPollingLifecycleState} {prologue : Prologue}
    {statement : CasStatement} (hbaseline : service.baselineFingerprint chat index = .ok baseline)
    (hnonnull : 0 < index → baseline ≠ none)
    (hstatement : liveSuffixStatement chat checkpoint index baseline = .ok (some statement))
    (hexpected : statement.expected = checkpoint)
    (h : (service.liveSuffix chat lifecycle checkpoint false index).Returns events
      (state, prologue)) (hanswered : ∀ event ∈ events, event.Answered)
    (hrow : rows chat.key = some checkpoint) (hpath : Path StoreStep rows events rows') :
    events.filterMap PollEvent.handed = [] ∧
      rows' chat.key = some (statement.values checkpoint) ∧
      prologue = .start (statement.values checkpoint) true := by
  have hbase : ¬ (0 < index ∧ baseline = none) := fun h => hnonnull h.1 h.2
  unfold liveSuffix at h
  rw [hbaseline] at h
  dsimp only at h
  rw [if_neg hbase, hstatement] at h
  obtain ⟨first, swapped, second, rfl, hswap, hrest⟩ := returns_bind.mp h
  obtain ⟨mid, hfirst, hsecond⟩ := path_append.mp hpath
  obtain ⟨hnone, hmid, rfl⟩ := compareAndSwap_answered hswap
    (fun event hmem => hanswered event (List.mem_append_left _ hmem)) (hexpected ▸ hrow) hfirst
  obtain ⟨rfl, hout⟩ := returns_pure.mp hrest
  obtain rfl := path_nil.mp hsecond
  cases hout
  rw [List.append_nil]
  exact ⟨hnone, hexpected ▸ hmid, hexpected ▸ rfl⟩

/-- A message with an instant for a timestamp has a fingerprint, or none for want of an id. -/
lemma fingerprint_of_instant {message : WechatMessage} {raw : RawWechatMessage}
    {timestamp : Timestamp} (hraw : message.validated = some raw)
    (hinstant : raw.timestamp.toUtc = .ok timestamp) :
    ∃ taken, service.fingerprint message = .ok taken := by
  have hmessage : rawMessage message = .ok raw := by simp [rawMessage, hraw]
  rw [fingerprint, buildWechatCheckpointFingerprint, hmessage]
  simp only [Bind.bind, Except.bind]
  split
  · exact ⟨_, rfl⟩
  · rw [hinstant]
    exact ⟨_, rfl⟩
  · exact ⟨_, rfl⟩

/-- The recovery of a LATEST poller with a marker. -/
lemma recover_latest (hmode : service.bootstrapMode = .latest) :
    service.recover chat lifecycle checkpoint false (some marker) =
      match liveSuffixStartIndex marker chat.orderedMessages with
      | .error _ =>
        .done (stopped chat lifecycle checkpoint false .emptyWindowTimeUnverified
          chat.messagesSeen)
      | .ok none => service.rebase chat lifecycle checkpoint false
      | .ok (some index) => service.liveSuffix chat lifecycle checkpoint false index := by
  obtain ⟨mode, codecs⟩ := service
  obtain rfl : mode = .latest := hmode
  rfl

/-- What a call hands over after it has found the live suffix. -/
lemma pollMessages_liveSuffix {out : ChatOutcome} (hsha : service.codecs.Sha256)
    (hmode : service.bootstrapMode = .latest)
    (hle : ∀ x ∈ chat.orderedMessages, x.1 ≤ maxCheckpointLocalId)
    (hmarker : (lifecycle.evidence chat.key).marker = some marker)
    (hmatches : marker.MatchesCheckpoint (some checkpoint))
    (hgeneration : checkpoint.regressionGeneration < maxCheckpointLocalId)
    (hregressed : Regressed service chat checkpoint)
    (hindex : liveSuffixStartIndex marker chat.orderedMessages = .ok (some index))
    (hbaseline : service.baselineFingerprint chat index = .ok baseline)
    (hnonnull : 0 < index → baseline ≠ none) (h : (service.pollMessages chat lifecycle).Returns
      (⟨.select chat.key, .ok (some checkpoint)⟩ :: events) out)
    (hanswered : ∀ event ∈ events, event.Answered)
    (hpath : Path StoreStep rows (⟨.select chat.key, .ok (some checkpoint)⟩ :: events) rows') :
    ∃ before after mid, events = before ++ after ∧ Path StoreStep rows before mid ∧
      mid chat.key = some ⟨localIdBefore chat.orderedMessages index,
        checkpoint.regressionGeneration + 1, baseline⟩ ∧
      before.filterMap PollEvent.handed = [] ∧
      after.filterMap PollEvent.handed =
        handovers service chat (checkpoint.regressionGeneration + 1)
          (chat.orderedMessages.drop index) := by
  have hlive := liveSuffixStartIndex_spec hindex
  obtain ⟨hstatement, hstorable⟩ := liveSuffixStatement_ok hsha hmatches.storable hgeneration hlive
    hle hbaseline hnonnull
  have hallowed : ∀ other ∈ (lifecycle.evidence chat.key).marker,
      other.MatchesCheckpoint (some checkpoint) := by
    rw [hmarker]
    rintro other ⟨⟩
    exact hmatches
  obtain ⟨before, after, state, prologue, rfl, hanchor, hrest⟩ :=
    pollMessages_loaded hregressed.1.ne_nil hallowed h
  obtain ⟨hrow, hevents⟩ := path_select.mp hpath
  obtain ⟨mid, hbefore, hafter⟩ := path_append.mp hevents
  rw [List.forall_mem_append] at hanswered
  rw [checkAnchor_of_regressed hregressed, hmarker, recover_latest hmode, hindex] at hanchor
  obtain ⟨hnone, hmid, rfl⟩ := liveSuffix_answered hbaseline hnonnull hstatement rfl hanchor
    hanswered.1 hrow hbefore
  have hvalues : CasStatement.values
      ⟨checkpoint, some (localIdBefore chat.orderedMessages index), true, baseline⟩ checkpoint =
      ⟨localIdBefore chat.orderedMessages index, checkpoint.regressionGeneration + 1, baseline⟩ :=
    rfl
  rw [hvalues] at hmid hrest
  refine ⟨before, after, mid, rfl, hbefore, hmid, hnone, ?_⟩
  obtain ⟨outcome, hended, -⟩ | ⟨current, isNew, hstart, hdeliver⟩ := hrest
  · cases hended
  · cases hstart
    rw [deliver_handed hsha hstorable hle hdeliver hanswered.2 hmid hafter,
      ahead_eq_filter hlive.increasing, hlive.filter_ahead]

/-- Nothing is handed over after a regression without a live suffix. -/
lemma pollMessages_nothing_live {out : ChatOutcome} (hmode : service.bootstrapMode = .latest)
    (hmarker : (lifecycle.evidence chat.key).marker = some marker)
    (hmatches : marker.MatchesCheckpoint (some checkpoint))
    (hregressed : Regressed service chat checkpoint)
    (hnone : ∀ x ∈ chat.orderedMessages, ¬ LaterThan marker.emptySince x)
    (h : (service.pollMessages chat lifecycle).Returns
      (⟨.select chat.key, .ok (some checkpoint)⟩ :: events) out) :
    events.filterMap PollEvent.handed = [] := by
  have hallowed : ∀ other ∈ (lifecycle.evidence chat.key).marker,
      other.MatchesCheckpoint (some checkpoint) := by
    rw [hmarker]
    rintro other ⟨⟩
    exact hmatches
  obtain ⟨before, after, state, prologue, rfl, hanchor, hrest⟩ :=
    pollMessages_loaded hregressed.1.ne_nil hallowed h
  have hquiet := prepares_handed (hanchor.forall_mem fun _ _ => checkAnchor_prepares)
  rw [checkAnchor_of_regressed hregressed, hmarker, recover_latest hmode] at hanchor
  have hended : ∃ outcome, prologue = .ended outcome := by
    split at hanchor
    · exact ⟨_, congrArg Prod.snd (returns_done.mp hanchor).2.symm⟩
    · exact rebase_ended hanchor
    case h_3 index hindex => exact absurd hindex (liveSuffixStartIndex_ne_some hnone index)
  obtain ⟨outcome, rfl⟩ := hended
  obtain ⟨_, -, rfl, -⟩ | ⟨_, _, hstart, -⟩ := hrest
  · rw [List.append_nil]
    exact hquiet
  · cases hstart

/-- **Live-suffix exactness.** The index found by the scan is the start of what is later than the
marker, in a window whose ids strictly increase, whose timestamps are instants that do not
decrease, and in which the suffix follows what is before it without a gap. A recovery with that
index passes the validation of the store and commits the cursor of the message before the suffix;
with a sink that never fails, the sink then gets the messages of others from the index on, each
once and in the order of the local ids, up to the first one that cannot be normalized. Without a
message later than the marker the sink gets nothing. -/
theorem live_suffix_exact (service : WechatPollingService) :
    (∀ marker window index, liveSuffixStartIndex marker window = .ok (some index) →
      LiveFrom marker window index) ∧
    ∀ sourceAccountId entry failed lifecycle conversationId conversationName rawMessages window
        marker checkpoint (events : List PollEvent) out,
      parseChat entry = .ok (conversationId, conversationName) →
      validatedOrderedMessages conversationId rawMessages = .ok window →
      service.bootstrapMode = .latest →
      (lifecycle.evidence (sourceAccountId, conversationId)).marker = some marker →
      marker.MatchesCheckpoint (some checkpoint) →
      let chat : ChatWindow := ⟨sourceAccountId, conversationId, conversationName, window⟩
      Regressed service chat checkpoint →
      (service.pollChat sourceAccountId entry failed lifecycle).Returns
        (⟨.listMessages conversationId, .ok rawMessages⟩ ::
          ⟨.select chat.key, .ok (some checkpoint)⟩ :: events) out →
      (∀ index baseline rows rows', service.codecs.Sha256 →
        checkpoint.regressionGeneration < maxCheckpointLocalId →
        liveSuffixStartIndex marker window = .ok (some index) →
        service.baselineFingerprint chat index = .ok baseline →
        (0 < index → baseline ≠ none) → (∀ event ∈ events, PollEvent.Answered event) →
        Path StoreStep rows (⟨.select chat.key, .ok (some checkpoint)⟩ :: events) rows' →
        liveSuffixStatement chat checkpoint index baseline =
          .ok (some ⟨checkpoint, some (localIdBefore window index), true, baseline⟩) ∧
        ∃ before after mid shown rest, events = before ++ after ∧ Path StoreStep rows before mid ∧
          mid chat.key =
            some ⟨localIdBefore window index, checkpoint.regressionGeneration + 1, baseline⟩ ∧
          before.filterMap PollEvent.handed = [] ∧
          nonSelf (window.drop index) = shown ++ rest ∧
          HandedExactly service chat (checkpoint.regressionGeneration + 1) shown
            (after.filterMap PollEvent.handed) ∧
          ∀ x ∈ rest.head?, ∃ error, normalizeForChat service.codecs chat
            (checkpoint.regressionGeneration + 1) x.2 = .error error) ∧
      ((∀ x ∈ window, ¬ LaterThan marker.emptySince x) →
        events.filterMap PollEvent.handed = []) := by
  refine ⟨fun _ _ _ hindex => liveSuffixStartIndex_spec hindex, ?_⟩
  intro sourceAccountId entry failed lifecycle conversationId conversationName rawMessages window
    marker checkpoint events out hparse hwindow hmode hmarker hmatches chat hregressed h
  have hpoll : (service.pollMessages chat lifecycle).Returns
      (⟨.select chat.key, .ok (some checkpoint)⟩ :: events) out := by
    cases pollChat_returns h with
    | rejected _ hevents => rcases hevents with hevents | ⟨_, hevents⟩ <;> cases hevents
    | polled hparse' _ hwindow' hpoll =>
      cases hparse.symm.trans hparse'
      cases hwindow.symm.trans hwindow'
      exact hpoll
  refine ⟨?_, fun hnone => pollMessages_nothing_live hmode hmarker hmatches hregressed hnone hpoll⟩
  intro index baseline rows rows' hsha hgeneration hindex hbaseline hnonnull hanswered hpath
  have hlive := liveSuffixStartIndex_spec hindex
  have hle : ∀ x ∈ chat.orderedMessages, x.1 ≤ maxCheckpointLocalId := fun x hx =>
    (numericLocalId_eq_ok (numeric_of_validated hwindow x hx)).2
  refine ⟨(liveSuffixStatement_ok hsha hmatches.storable hgeneration hlive hle hbaseline
    hnonnull).1, ?_⟩
  obtain ⟨before, after, mid, hevents, hbefore, hmid, hnone, hhanded⟩ :=
    pollMessages_liveSuffix hsha hmode hle hmarker hmatches hgeneration hregressed hindex hbaseline
      hnonnull hpoll hanswered hpath
  have htaken : ∀ x ∈ window.drop index, ∃ taken, service.fingerprint x.2 = .ok taken := by
    intro x hx
    obtain ⟨raw, timestamp, hraw, -, hinstant⟩ := hlive.aware x (List.mem_of_mem_drop hx)
    exact fingerprint_of_instant hraw hinstant
  obtain ⟨shown, rest, hsplit, hexact, hrest⟩ := handovers_of_fingerprints htaken
  exact ⟨before, after, mid, shown, rest, hevents, hbefore, hmid, hnone, hsplit,
    hhanded ▸ hexact, hrest⟩

/-- The checkpoint of a chat that has been seen empty. -/
def emptiedCheckpoint : WechatSyncCheckpoint :=
  ⟨5, 0, some (coarseCodecs.digest (.serverAnchor "5"))⟩

def emptiedMarker : EmptyWindowMarker where
  sourceAccountId := "me"
  conversationId := "friend"
  checkpointLastLocalId := emptiedCheckpoint.lastLocalId
  checkpointGeneration := emptiedCheckpoint.regressionGeneration
  checkpointFingerprint := emptiedCheckpoint.lastMessageFingerprint
  emptySince := 0
  lastEmptyObservedAt := 0
  observationCount := 1

/-- The state after one empty window. -/
def emptiedLifecycle : WechatPollingLifecycleState :=
  WechatPollingLifecycleState.initial.modify ("me", "friend") fun evidence =>
    { evidence with marker := some emptiedMarker }

/-- A message later than the marker. -/
def laterMessage : WechatMessage := .raw { friendMessage 1 (.int 7) with timestamp := ⟨1, some 0⟩ }

/-- The only live message is handed over, once. -/
theorem live_suffix_exact_one :
    ∃ (events : List PollEvent) (out : ChatOutcome) (normalized : NormalizedWechatMessage),
      (friendPoll emptiedLifecycle).Returns (⟨.listMessages "friend", .ok [laterMessage]⟩ ::
        ⟨.select ("me", "friend"), .ok (some emptiedCheckpoint)⟩ :: events) out ∧
      normalizeForChat coarseCodecs ⟨"me", "friend", none, [(1, laterMessage)]⟩ 1 laterMessage =
        .ok normalized ∧
      events.filterMap PollEvent.handed = [normalized] := by
  let service : WechatPollingService := ⟨.latest, coarseCodecs⟩
  let run := friendRun emptiedLifecycle [laterMessage] emptiedCheckpoint
  have hresult : run.2.2.2 = .ok
      { conversationId := some "friend", succeeded := true, messagesSeen := 1,
        messagesProcessed := 1, messagesNew := 1, bootstrapped := true } := by
    decide +kernel
  have hnormal : ∀ error, normalizeForChat coarseCodecs
      ⟨"me", "friend", none, [(1, laterMessage)]⟩ 1 laterMessage ≠ .error error := by
    intro error herror
    have hok : (normalizeForChat coarseCodecs ⟨"me", "friend", none, [(1, laterMessage)]⟩ 1
        laterMessage).toOption.isSome := by
      decide +kernel
    rw [herror] at hok
    cases hok
  have hreturns : (friendPoll emptiedLifecycle).Returns
      (⟨.listMessages "friend", .ok [laterMessage]⟩ ::
        ⟨.select ("me", "friend"), .ok (some emptiedCheckpoint)⟩ :: run.1.tail.tail) _ :=
    friendRun_returns hresult
  have hpath := @friendRun_path emptiedLifecycle [laterMessage] emptiedCheckpoint
  obtain ⟨before, after, _, shown, rest, hevents, -, -, hquiet, hlive, hexact, hrest⟩ :=
    (((live_suffix_exact service).2 "me" friendEntry [] emptiedLifecycle "friend" none [laterMessage]
      [(1, laterMessage)] emptiedMarker emptiedCheckpoint run.1.tail.tail _ rfl (by decide +kernel)
      rfl rfl (by decide +kernel) ⟨by decide +kernel, Or.inl (by decide +kernel)⟩ hreturns).1 0 none
      (friendRow emptiedCheckpoint) run.2.1 coarseCodecs_sha256 (by decide) (by decide +kernel) rfl
      (fun h => absurd h (lt_irrefl 0)) (by decide +kernel)
      (path_listMessages.mp hpath)).2
  -- the message can be normalized, so none is left
  cases rest with
  | cons left rest =>
    have hleft : left = (1, laterMessage) := by
      have hmem : left ∈ nonSelf [(1, laterMessage)] := hlive ▸ by simp
      exact List.mem_singleton.mp (List.mem_of_mem_filter hmem)
    obtain ⟨error, herror⟩ := hrest left rfl
    rw [hleft] at herror
    exact absurd herror (hnormal error)
  | nil =>
    obtain rfl : [(1, laterMessage)] = shown := hlive.trans (List.append_nil _)
    rw [HandedExactly, List.forall₂_cons_left_iff] at hexact
    obtain ⟨normalized, _, hnormalized, hend, hhanded⟩ := hexact
    cases hend
    refine ⟨run.1.tail.tail, _, normalized, hreturns, hnormalized, ?_⟩
    rw [hevents, List.filterMap_append, hquiet, hhanded, List.nil_append]

/-- A later message without a sender, which cannot be normalized. -/
def anonymousMessage : WechatMessage :=
  .raw { friendMessage 1 (.int 7) with sender := none, timestamp := ⟨1, some 0⟩ }

/-- The only live message cannot be normalized: the recovery commits its cursor, and the sink gets
nothing. -/
theorem live_message_not_normalized :
    ∃ (events : List PollEvent) (rows' : Rows) (out : ChatOutcome),
      let service : WechatPollingService := ⟨.latest, coarseCodecs⟩
      let chat : ChatWindow := ⟨"me", "friend", none, [(1, anonymousMessage)]⟩
      parseChat friendEntry = .ok ("friend", none) ∧
      validatedOrderedMessages "friend" [anonymousMessage] = .ok chat.orderedMessages ∧
      (emptiedLifecycle.evidence chat.key).marker = some emptiedMarker ∧
      emptiedMarker.MatchesCheckpoint (some emptiedCheckpoint) ∧
      Regressed service chat emptiedCheckpoint ∧
      liveSuffixStartIndex emptiedMarker chat.orderedMessages = .ok (some 0) ∧
      (friendPoll emptiedLifecycle).Returns (⟨.listMessages "friend", .ok [anonymousMessage]⟩ ::
        ⟨.select chat.key, .ok (some emptiedCheckpoint)⟩ :: events) out ∧
      (∀ event ∈ events, PollEvent.Answered event) ∧
      Path StoreStep (friendRow emptiedCheckpoint)
        (⟨.select chat.key, .ok (some emptiedCheckpoint)⟩ :: events) rows' ∧
      rows' chat.key = some ⟨0, 1, none⟩ ∧
      nonSelf (chat.orderedMessages.drop 0) = chat.orderedMessages ∧
      events.filterMap PollEvent.handed = [] := by
  let run := friendRun emptiedLifecycle [anonymousMessage] emptiedCheckpoint
  have hreturns := exec_returns (answers [anonymousMessage]) (friendPoll emptiedLifecycle)
    (friendRow emptiedCheckpoint)
  have hpath := @friendRun_path emptiedLifecycle [anonymousMessage] emptiedCheckpoint
  refine ⟨run.1.tail.tail, run.2.1, run.2.2, by decide +kernel, by decide +kernel, rfl,
    by decide +kernel, ⟨by decide +kernel, Or.inl (by decide +kernel)⟩, by decide +kernel, hreturns,
    by decide +kernel, path_listMessages.mp hpath, by decide +kernel, by decide +kernel, by decide +kernel⟩

end WechatPollingService

end AgentGateway.Polling
