import AgentGateway.Polling.AtLeastOnce

/-!
# What a delivery hands over when nothing fails around it

A single poller, a store that answers every statement and a sink that accepts every message: then
the loop stops only at a message that cannot be normalized, or after one whose fingerprint cannot
be taken. `handovers` says what the sink gets from a list of messages, `deliver_handed` that it is
what the loop hands over.
-/

namespace AgentGateway.Polling

open Lib Lib.Program Polling.Checkpoint

/-- The store and the sink have replied without an error. -/
def PollEvent.Answered : PollEvent → Prop
  | ⟨.select _, .error _⟩ | ⟨.insert _ _, .error _⟩ | ⟨.update _ _, .error _⟩
  | ⟨.handle _, .error _⟩ => False
  | _ => True

instance : DecidablePred PollEvent.Answered
  | ⟨.select _, .error _⟩ | ⟨.insert _ _, .error _⟩ | ⟨.update _ _, .error _⟩
  | ⟨.handle _, .error _⟩ => .isFalse id
  | ⟨.select _, .ok _⟩ | ⟨.insert _ _, .ok _⟩ | ⟨.update _ _, .ok _⟩ | ⟨.handle _, .ok _⟩
  | ⟨.getAuthStatus, _⟩ | ⟨.listChats, _⟩ | ⟨.listMessages _, _⟩ | ⟨.clock, _⟩ => .isTrue trivial

/-- A checkpoint that passes the validation of the store. -/
structure Storable (checkpoint : WechatSyncCheckpoint) : Prop where
  localId : 0 ≤ checkpoint.lastLocalId ∧ checkpoint.lastLocalId ≤ maxCheckpointLocalId
  generation : 0 ≤ checkpoint.regressionGeneration ∧
    checkpoint.regressionGeneration ≤ maxCheckpointLocalId
  fingerprint : validatedCheckpointFingerprint (.ofOptionStr checkpoint.lastMessageFingerprint) =
    .ok checkpoint.lastMessageFingerprint

namespace WechatPollingService

variable {service : WechatPollingService} {chat : ChatWindow} {rows rows' : Rows}
  {checkpoint : WechatSyncCheckpoint} {numbered : Numbered} {events : List PollEvent}
  {key : ChatKey}

/-! ## One turn -/

/-- A fingerprint that can be taken can be stored. -/
lemma fingerprint_valid (hsha : service.codecs.Sha256) {message : WechatMessage}
    {taken : Option String} (h : service.fingerprint message = .ok taken) :
    validatedCheckpointFingerprint (.ofOptionStr taken) = .ok taken := by
  have digest : ∀ fields, validatedCheckpointFingerprint
      (.ofOptionStr (some (service.codecs.digest fields))) =
        .ok (some (service.codecs.digest fields)) := fun fields =>
          if_pos ⟨hsha.length fields, hsha.hexadecimal fields⟩
  simp only [fingerprint, buildWechatCheckpointFingerprint, bind_eq_ok] at h
  obtain ⟨raw, -, h⟩ := h
  split at h
  · cases h
    exact digest _
  · obtain ⟨_, -, h⟩ := bind_eq_ok.mp h
    cases h
    exact digest _
  · cases h
    rfl

lemma advanceStatement_ok {localId : Int} {taken : Option String}
    (hcheckpoint : Storable checkpoint) (hlt : checkpoint.lastLocalId < localId)
    (hle : localId ≤ maxCheckpointLocalId)
    (htaken : validatedCheckpointFingerprint (.ofOptionStr taken) = .ok taken) :
    advanceStatement checkpoint localId taken =
      .ok (some ⟨checkpoint, some localId, false, taken⟩) := by
  have hcursor := validatedCheckpointLocalId_eq_ok.mpr ⟨rfl, hcheckpoint.localId⟩
  have hgeneration := validatedCheckpointGeneration_eq_ok.mpr ⟨rfl, hcheckpoint.generation⟩
  have hid := validatedCheckpointLocalId_eq_ok.mpr ⟨rfl, (hcheckpoint.localId.1.trans_lt hlt).le, hle⟩
  simp only [advanceStatement, advanceCas, hcursor, hgeneration, hid, hcheckpoint.fingerprint,
    htaken]
  exact if_neg (not_le.mpr hlt)

/-- A single poller whose statements are answered wins its compare-and-swap. -/
lemma compareAndSwap_answered {statement : CasStatement}
    {swapped : Except Raised (WechatSyncCheckpoint × Bool)}
    (h : (compareAndSwap key (.ok (some statement))).Returns events swapped)
    (hanswered : ∀ event ∈ events, event.Answered) (hrow : rows key = some statement.expected)
    (hpath : Path StoreStep rows events rows') :
    events.filterMap PollEvent.handed = [] ∧
      rows' key = some (statement.values statement.expected) ∧
      swapped = .ok (statement.values statement.expected, true) := by
  obtain ⟨reply, rest, rfl, hrest⟩ := returns_call.mp h
  rcases reply with error | changed
  · exact absurd (hanswered _ List.mem_cons_self) id
  obtain ⟨row, rest, rfl, hdone⟩ := returns_call.mp hrest
  rcases row with error | row
  · exact absurd (hanswered _ (List.mem_cons_of_mem _ List.mem_cons_self)) id
  obtain ⟨hchanged, hselect⟩ := path_update.mp hpath
  obtain ⟨hread, hlast⟩ := path_select.mp hselect
  rw [Rows.updated_of_eq hrow] at hread hlast
  rw [Function.update_self] at hread
  obtain rfl := hread
  obtain ⟨rfl, rfl⟩ := returns_done.mp hdone
  obtain rfl := path_nil.mp hlast
  exact ⟨rfl, Function.update_self .., by rw [hchanged.mpr hrow]⟩

/-- A single poller whose statements are answered wins its advance. -/
lemma advanceCursor_answered {advanced : Except Raised WechatSyncCheckpoint}
    (hsha : service.codecs.Sha256) (hcheckpoint : Storable checkpoint)
    (hlt : checkpoint.lastLocalId < numbered.1) (hle : numbered.1 ≤ maxCheckpointLocalId)
    (h : (service.advanceCursor chat checkpoint numbered).Returns events advanced)
    (hanswered : ∀ event ∈ events, event.Answered)
    (hrow : rows chat.key = some checkpoint) (hpath : Path StoreStep rows events rows') :
    (∃ error, service.fingerprint numbered.2 = .error error ∧ events = [] ∧
        ∃ raised, advanced = .error raised) ∨
      ∃ taken, service.fingerprint numbered.2 = .ok taken ∧
        events.filterMap PollEvent.handed = [] ∧
        Storable ⟨numbered.1, checkpoint.regressionGeneration, taken⟩ ∧
        rows' chat.key = some ⟨numbered.1, checkpoint.regressionGeneration, taken⟩ ∧
        advanced = .ok ⟨numbered.1, checkpoint.regressionGeneration, taken⟩ := by
  unfold advanceCursor at h
  split at h
  case h_1 error herror =>
    obtain ⟨rfl, rfl⟩ := returns_done.mp h
    exact Or.inl ⟨error, herror, rfl, error, rfl⟩
  case h_2 taken htaken =>
    have hvalid := fingerprint_valid hsha htaken
    have hstatement := advanceStatement_ok hcheckpoint hlt hle hvalid
    rw [hstatement] at h
    obtain ⟨first, swapped, second, rfl, hswap, hrest⟩ := returns_bind.mp h
    obtain ⟨mid, hfirst, hsecond⟩ := path_append.mp hpath
    obtain ⟨hnone, hmid, rfl⟩ := compareAndSwap_answered hswap
      (fun event hmem => hanswered event (List.mem_append_left _ hmem)) hrow hfirst
    have hvalues : CasStatement.values ⟨checkpoint, some numbered.1, false, taken⟩ checkpoint =
        ⟨numbered.1, checkpoint.regressionGeneration, taken⟩ := by
      simp [CasStatement.values]
    rw [hvalues] at hmid hrest
    obtain ⟨rfl, rfl⟩ := returns_pure.mp hrest
    obtain rfl := path_nil.mp hsecond
    have hpositive := (hcheckpoint.localId.1.trans_lt hlt).le
    refine Or.inr ⟨taken, htaken, ?_, ⟨⟨hpositive, hle⟩, hcheckpoint.generation, hvalid⟩, hmid, rfl⟩
    rw [List.append_nil]
    exact hnone

/-! ## The loop -/

variable (service chat) in
/-- What the sink gets from a list of messages ahead of the cursor. -/
def handovers (generation : Int) : List Numbered → List NormalizedWechatMessage
  | [] => []
  | numbered :: rest =>
    let later := if (service.fingerprint numbered.2).isOk then handovers generation rest else []
    if isSelfMessage numbered.2 then later
    else
      match normalizeForChat service.codecs chat generation numbered.2 with
      | .error _ => []
      | .ok normalized => normalized :: later

lemma HandedOver.handovers_cons {generation : Int} {rest : List Numbered}
    (h : HandedOver service chat generation numbered events) :
    handovers service chat generation (numbered :: rest) = events.filterMap PollEvent.handed ++
      if (service.fingerprint numbered.2).isOk then handovers service chat generation rest
      else [] := by
  cases h with
  | self hself => simp [handovers, hself]
  | handed hself hnormalized disposition =>
    simp [handovers, hself, hnormalized, PollEvent.handed]

/-- The messages that get a turn: each has to be ahead of the one before it. -/
def ahead (cursor : Int) : List Numbered → List Numbered
  | [] => []
  | numbered :: rest =>
    if numbered.1 ≤ cursor then ahead cursor rest else numbered :: ahead numbered.1 rest

variable {cursor : Int} {window : List Numbered} {bootstrapped : Bool}
  {lifecycle : WechatPollingLifecycleState} {handed : List NormalizedWechatMessage}
  {out : ChatOutcome}

/-- In a window without equal local ids, everything above the cursor gets its turn. -/
lemma ahead_eq_filter (hincreasing : window.Pairwise fun a b => a.1 < b.1) :
    ahead cursor window = window.filter (cursor < ·.1) := by
  induction window generalizing cursor with
  | nil => rfl
  | cons numbered rest ih =>
    obtain ⟨hlater, hrest⟩ := List.pairwise_cons.mp hincreasing
    by_cases hbehind : numbered.1 ≤ cursor
    · rw [ahead, if_pos hbehind, List.filter_cons_of_neg (by simpa using hbehind)]
      exact ih hrest
    · have hkept : ∀ c ≤ numbered.1, rest.filter (c < ·.1) = rest := fun c hc =>
        List.filter_eq_self.mpr fun x hx => decide_eq_true (hc.trans_lt (hlater x hx))
      rw [ahead, if_neg hbehind, List.filter_cons_of_pos (by simpa using hbehind), ih hrest,
        hkept _ le_rfl, hkept _ (not_le.mp hbehind).le]

/-- **What a delivery hands over** is decided by its window alone. -/
lemma deliver_handed {tally : Tally} (hsha : service.codecs.Sha256)
    (hcheckpoint : Storable checkpoint) (hle : ∀ x ∈ window, x.1 ≤ maxCheckpointLocalId)
    (h : (service.deliver chat bootstrapped lifecycle checkpoint tally window).Returns events out)
    (hanswered : ∀ event ∈ events, event.Answered) (hrow : rows chat.key = some checkpoint)
    (hpath : Path StoreStep rows events rows') :
    events.filterMap PollEvent.handed =
      handovers service chat checkpoint.regressionGeneration
        (ahead checkpoint.lastLocalId window) := by
  induction window generalizing checkpoint tally events rows with
  | nil =>
    obtain ⟨rfl, -⟩ := returns_done.mp h
    rfl
  | cons numbered rest ih =>
    have hrest := fun x hx => hle x (List.mem_cons_of_mem _ hx)
    rw [deliver] at h
    by_cases hbehind : numbered.1 ≤ checkpoint.lastLocalId
    · rw [if_pos hbehind] at h
      rw [ahead, if_pos hbehind]
      exact ih hcheckpoint hrest h hanswered hrow hpath
    · rw [if_neg hbehind] at h
      rw [ahead, if_neg hbehind]
      rw [not_le] at hbehind
      obtain ⟨first, handed, second, rfl, hfirst, hsecond⟩ := returns_bind.mp h
      rw [List.forall_mem_append] at hanswered
      rcases handOver_returns hfirst with
        ⟨failure, rfl, -, ⟨rfl, hself, error, herror⟩ | ⟨normalized, error, rfl⟩⟩ |
          ⟨counted, rfl, hhanded⟩
      · obtain ⟨rfl, -⟩ := returns_pure.mp hsecond
        simp [handovers, hself, herror]
      · exact absurd (hanswered.1 _ List.mem_cons_self) id
      · obtain ⟨swap, advanced, third, rfl, hswap, hthird⟩ := returns_bind.mp hsecond
        rw [List.forall_mem_append] at hanswered
        rw [hhanded.path] at hpath
        obtain ⟨mid, hswapPath, hthirdPath⟩ := path_append.mp hpath
        rw [hhanded.handovers_cons, List.filterMap_append]
        congr 1
        rcases advanceCursor_answered hsha hcheckpoint hbehind (hle _ List.mem_cons_self) hswap
            hanswered.2.1 hrow hswapPath with
          ⟨error, herror, rfl, raised, rfl⟩ | ⟨taken, htaken, hnone, hstorable, hmid, rfl⟩
        · obtain ⟨rfl, -⟩ := returns_pure.mp hthird
          simp [herror, Except.isOk, Except.toBool]
        · rw [List.filterMap_append, hnone, List.nil_append, htaken]
          exact ih hstorable hrest hthird hanswered.2.2 hmid hthirdPath

/-! ## Which messages these are -/

variable (service chat) in
/-- The sink has got exactly these messages, each once and in this order. -/
def HandedExactly (generation : Int) (messages : List Numbered)
    (handed : List NormalizedWechatMessage) : Prop :=
  List.Forall₂ (fun numbered normalized =>
    normalizeForChat service.codecs chat generation numbered.2 = .ok normalized) messages handed

/-- The messages that are not the account's own. -/
def nonSelf (messages : List Numbered) : List Numbered :=
  messages.filter fun numbered => !isSelfMessage numbered.2

variable {generation : Int} {messages : List Numbered}

/-- Where all fingerprints can be taken, the sink gets the messages of others up to the first one
that cannot be normalized. -/
lemma handovers_of_fingerprints
    (h : ∀ x ∈ messages, ∃ taken, service.fingerprint x.2 = .ok taken) :
    ∃ shown rest, nonSelf messages = shown ++ rest ∧
      HandedExactly service chat generation shown (handovers service chat generation messages) ∧
      ∀ x ∈ rest.head?, ∃ error,
        normalizeForChat service.codecs chat generation x.2 = .error error := by
  induction messages with
  | nil => exact ⟨[], [], rfl, .nil, by simp⟩
  | cons numbered messages ih =>
    obtain ⟨taken, htaken⟩ := h numbered List.mem_cons_self
    obtain ⟨shown, rest, hsplit, hexact, hrest⟩ := ih fun x hx => h x (List.mem_cons_of_mem _ hx)
    cases hself : isSelfMessage numbered.2 with
    | true =>
      refine ⟨shown, rest, ?_, ?_, hrest⟩
      · simpa [nonSelf, hself] using hsplit
      · simpa [handovers, hself, htaken, Except.isOk, Except.toBool] using hexact
    | false =>
      have hcons : nonSelf (numbered :: messages) = numbered :: nonSelf messages := by
        simp [nonSelf, hself]
      cases hnormalized : normalizeForChat service.codecs chat generation numbered.2 with
      | error error =>
        refine ⟨[], _, hcons, ?_, ?_⟩
        · simp [HandedExactly, handovers, hself, hnormalized]
        · rintro x ⟨⟩
          exact ⟨error, hnormalized⟩
      | ok normalized =>
        refine ⟨numbered :: shown, rest, ?_, ?_, hrest⟩
        · rw [hcons, hsplit, List.cons_append]
        · have hhanded : handovers service chat generation (numbered :: messages) =
              normalized :: handovers service chat generation messages := by
            simp [handovers, hself, hnormalized, htaken, Except.isOk, Except.toBool]
          rw [hhanded]
          exact .cons hnormalized hexact

/-! ## One call -/

/-- The marker that a call consumes is the one of the lifecycle state. -/
lemma taken_marker :
    (taken chat lifecycle).1 = (lifecycle.evidence chat.key).marker := by
  simp [taken, recorded, WechatPollingLifecycleState.takeEmptyWindow,
    WechatPollingLifecycleState.recordVisibleWindow]

/-- A call that has found its checkpoint, with a window and without a marker of another one, goes
on with the anchor check. -/
lemma pollMessages_loaded (hwindow : chat.orderedMessages ≠ [])
    (hmarker : ∀ marker ∈ (lifecycle.evidence chat.key).marker,
      marker.MatchesCheckpoint (some checkpoint))
    (h : (service.pollMessages chat lifecycle).Returns
      (⟨.select chat.key, .ok (some checkpoint)⟩ :: events) out) :
    ∃ before after state prologue, events = before ++ after ∧
      (service.checkAnchor chat (taken chat lifecycle).2 checkpoint false
        (lifecycle.evidence chat.key).marker).Returns before (state, prologue) ∧
      ((∃ outcome, prologue = .ended outcome ∧ after = [] ∧ out = (state, outcome)) ∨
        ∃ current isNew, prologue = .start current isNew ∧
          (service.deliver chat isNew state current {} chat.orderedMessages).Returns after out) := by
  obtain ⟨before, ⟨state, prologue⟩, after, heq, hbegin, hrest⟩ := returns_bind.mp h
  obtain ⟨_, rest, rfl, hloaded⟩ := returns_call.mp hbegin
  cases heq
  have hempty : ¬ EmptyWindow service chat checkpoint := fun hempty => hwindow hempty.2.2
  have hmatches : ¬ ∃ marker ∈ (taken chat lifecycle).1,
      ¬ marker.MatchesCheckpoint (some checkpoint) := by
    rw [taken_marker]
    rintro ⟨marker, hmem, hmismatch⟩
    exact hmismatch (hmarker marker hmem)
  dsimp only [pollLoaded] at hloaded
  rw [if_neg hempty, pollTaken] at hloaded
  rw [← recorded, ← taken, if_neg hmatches, taken_marker] at hloaded
  refine ⟨rest, after, state, prologue, rfl, hloaded, ?_⟩
  cases prologue with
  | ended outcome =>
    obtain ⟨rfl, rfl⟩ := returns_pure.mp hrest
    exact Or.inl ⟨outcome, rfl, rfl, rfl⟩
  | start current isNew => exact Or.inr ⟨current, isNew, rfl, hrest⟩

variable (service chat checkpoint) in
/-- The window contradicts the checkpoint: it ends before it, or shows another message there. -/
def Regressed : Prop :=
  Overlaps chat checkpoint ∧
    (chat.remoteLatestLocalId < checkpoint.lastLocalId ∨
      checkpoint.lastLocalId ≤ chat.remoteLatestLocalId ∧
      ∃ anchor saved remote, anchorCandidates chat checkpoint = [anchor] ∧
        service.fingerprint anchor.2 = .ok (some remote) ∧
        checkpoint.lastMessageFingerprint = some saved ∧ saved ≠ remote)

lemma checkAnchor_of_regressed {marker : Option EmptyWindowMarker}
    (h : Regressed service chat checkpoint) :
    service.checkAnchor chat lifecycle checkpoint bootstrapped marker =
      service.recover chat lifecycle checkpoint bootstrapped marker := by
  obtain ⟨hoverlaps, hbefore | ⟨hreaches, anchor, saved, remote, hanchor, hremote, hsaved, hne⟩⟩ := h
  · rw [checkAnchor, if_pos hoverlaps, if_pos hbefore]
  · rw [checkAnchor, if_pos hoverlaps, if_neg (not_lt.mpr hreaches), hanchor]
    simp [compareAnchor, hremote, hsaved, hne]

/-- The requests before the loop hand nothing over. -/
lemma prepares_handed (h : ∀ event ∈ events, Prepares key event.1) :
    events.filterMap PollEvent.handed = [] := by
  rw [List.filterMap_eq_nil_iff]
  intro event hmem
  obtain ⟨op, reply⟩ := event
  cases op with
  | handle message => exact absurd (h _ hmem) id
  | _ => rfl

/-- A rebase ends the call. -/
lemma rebase_ended {state : WechatPollingLifecycleState} {prologue : Prologue}
    (h : (service.rebase chat lifecycle checkpoint bootstrapped).Returns events (state, prologue)) :
    ∃ outcome, prologue = .ended outcome := by
  unfold rebase at h
  split at h
  · exact ⟨_, congrArg Prod.snd (returns_done.mp h).2.symm⟩
  · split at h
    · exact ⟨_, congrArg Prod.snd (returns_done.mp h).2.symm⟩
    · exact ⟨_, congrArg Prod.snd (returns_done.mp h).2.symm⟩
    · obtain ⟨_, swapped, _, -, -, hrest⟩ := returns_bind.mp h
      rcases swapped with error | ⟨current, _ | _⟩
      · exact ⟨_, congrArg Prod.snd (returns_pure.mp hrest).2.symm⟩
      · exact ⟨_, congrArg Prod.snd (returns_pure.mp hrest).2.symm⟩
      · exact ⟨_, congrArg Prod.snd (returns_pure.mp hrest).2.symm⟩

end WechatPollingService
end AgentGateway.Polling
