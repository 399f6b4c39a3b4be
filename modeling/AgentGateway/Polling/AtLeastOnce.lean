import AgentGateway.Polling.Database

/-!
# At-least-once delivery

What a single poller hands over on its way through a window. As long as nobody else writes to the
table, the row behind the loop is the checkpoint of the loop (`Loop.row_eq`), and the messages that
are handed over are those ahead of the cursor that are the first visible ones of their local id
(`Loop.hands`, `Loop.only_hands`). A second message with the same local id is passed with the
first one: it is skipped, unless the sink cannot tell the two apart.
-/

namespace AgentGateway.Polling

open Lib Lib.Program Polling.Checkpoint

/-- The first visible message with a local id. -/
def firstWith (window : List Numbered) (localId : Int) : Option Numbered :=
  window.find? fun numbered => numbered.1 = localId

namespace WechatPollingService

variable {service : WechatPollingService} {chat : ChatWindow} {rows rows' : Rows}
  {checkpoint current last : WechatSyncCheckpoint} {numbered : Numbered}
  {passed : List Numbered} {events : List PollEvent}

/-! ## The row behind the loop -/

variable {statement : CasStatement} {generation : Int}
  {lifecycle state : WechatPollingLifecycleState} {result : ChatPollResult}
  {before handed : List PollEvent} {normalized : NormalizedWechatMessage} {isNew : Bool}
  {marker : Option EmptyWindowMarker}

lemma advanceStatement_eq {localId : Int} {fingerprint : Option String}
    (h : advanceStatement checkpoint localId fingerprint = .ok (some statement)) :
    statement = ⟨checkpoint, some localId, false, fingerprint⟩ := by
  simp only [advanceStatement, advanceCas, bind_eq_ok, validatedCheckpointLocalId_eq_ok,
    validatedCheckpointGeneration_eq_ok] at h
  obtain ⟨_, ⟨hid, -⟩, _, ⟨hgeneration, -⟩, _, ⟨hlocal, -⟩, _, hfp, _, hfp', h⟩ := h
  cases hid
  cases hgeneration
  cases hlocal
  cases eq_of_validated_fingerprint hfp
  cases eq_of_validated_fingerprint hfp'
  split_ifs at h
  · cases h
  · cases h
    rfl

/-- The events of handing over do not touch the table. -/
lemma HandedOver.path {rest : List PollEvent}
    (h : HandedOver service chat generation numbered handed) :
    Path StoreStep rows (handed ++ rest) rows' ↔ Path StoreStep rows rest rows' := by
  cases h with
  | self => exact Iff.rfl
  | handed => exact path_handle

/-- A turn of a single poller wins its update and reads back what it has written. -/
lemma Turn.row_eq (h : Turn service chat checkpoint numbered events current)
    (hrow : rows chat.key = some checkpoint) (hpath : Path StoreStep rows events rows') :
    rows' chat.key = some current ∧
      current.regressionGeneration = checkpoint.regressionGeneration ∧
      current.lastLocalId = max checkpoint.lastLocalId numbered.1 := by
  cases h with
  | skipped hle =>
    obtain rfl := path_nil.mp hpath
    exact ⟨hrow, rfl, (max_eq_left hle).symm⟩
  | passed hlt hhanded hfingerprint hstatement hchanged =>
    obtain rfl := advanceStatement_eq hstatement
    rw [hhanded.path, path_update, path_select, path_nil] at hpath
    obtain ⟨-, hread, rfl⟩ := hpath
    rw [Rows.updated_of_eq hrow] at hread ⊢
    rw [Function.update_self] at hread ⊢
    refine ⟨hread, ?_⟩
    obtain rfl := Option.some.inj hread
    exact ⟨by simp [CasStatement.values], (max_eq_right hlt.le).symm⟩

lemma Loop.row_eq (h : Loop service chat checkpoint passed events last)
    (hrow : rows chat.key = some checkpoint) (hpath : Path StoreStep rows events rows') :
    rows' chat.key = some last ∧
      last.regressionGeneration = checkpoint.regressionGeneration ∧
      checkpoint.lastLocalId ≤ last.lastLocalId ∧
      ∀ numbered ∈ passed, numbered.1 ≤ last.lastLocalId := by
  induction h generalizing rows with
  | nil checkpoint =>
    obtain rfl := path_nil.mp hpath
    exact ⟨hrow, rfl, le_rfl, fun _ h => by cases h⟩
  | cons hturn hrest ih =>
    obtain ⟨mid, hfirst, hsecond⟩ := path_append.mp hpath
    obtain ⟨hmid, hgeneration, hlocal⟩ := hturn.row_eq hrow hfirst
    obtain ⟨hend, hgeneration', hle, hpassed⟩ := ih hmid hsecond
    rw [hlocal] at hle
    refine ⟨hend, hgeneration'.trans hgeneration, (le_max_left _ _).trans hle, ?_⟩
    intro x hx
    rcases List.mem_cons.mp hx with rfl | hx
    · exact (le_max_right _ _).trans hle
    · exact hpassed x hx

/-! ## The row before the loop -/

lemma WindowStart.row_eq (h : WindowStart chat lifecycle events checkpoint isNew marker)
    (hpath : Path StoreStep rows events rows') : rows' chat.key = some checkpoint := by
  cases h with
  | loaded =>
    simp only [path_select, path_nil] at hpath
    exact hpath.2 ▸ hpath.1
  | initialized hnew hinit =>
    cases hinit with
    | exists_ =>
      simp only [path_select, path_nil] at hpath
      exact hpath.2.2 ▸ hpath.2.1
    | raced =>
      simp only [path_select, path_refused, path_nil] at hpath
      exact hpath.2.2.2.2 ▸ hpath.2.2.2.1
    | inserted =>
      simp only [path_select, path_insert, path_nil] at hpath
      rw [← hpath.2.2.2]
      exact Function.update_self ..

/-- A rewind goes back. -/
lemma rewindStatement_lt (h : rewindStatement chat checkpoint = .ok (some statement)) :
    chat.remoteFirstLocalId - 1 < checkpoint.lastLocalId := by
  simp only [rewindStatement, rewind, bind_eq_ok, validatedCheckpointLocalId_eq_ok,
    raiseIf_eq_ok, not_le] at h
  obtain ⟨_, ⟨hid, -⟩, _, -, _, -, _, ⟨hfirst, -⟩, _, -, _, hlt, -⟩ := h
  cases hid
  cases hfirst
  exact hlt

/-- The loop of a single poller starts from the stored row, and only a live suffix starts ahead of
the checkpoint that was found. -/
lemma Started.row_eq {isNew' : Bool}
    (h : Started service chat checkpoint isNew marker events current isNew')
    (hrow : rows chat.key = some checkpoint) (hpath : Path StoreStep rows events rows') :
    rows' chat.key = some current ∧
      (isNew' = false → current.lastLocalId ≤ checkpoint.lastLocalId) := by
  cases h with
  | disjoint | verified =>
    obtain rfl := path_nil.mp hpath
    exact ⟨hrow, fun _ => le_rfl⟩
  | rewound _ _ hstatement =>
    have hlt := rewindStatement_lt hstatement
    obtain rfl := rewindStatement_eq _ _ hstatement
    rw [path_update, path_select, path_nil, Rows.updated_of_eq hrow] at hpath
    obtain ⟨-, hread, rfl⟩ := hpath
    refine ⟨hread, fun _ => ?_⟩
    rw [Function.update_self] at hread
    obtain rfl := Option.some.inj hread
    exact hlt.le
  | resumed =>
    rw [path_update, path_select, path_nil] at hpath
    obtain ⟨-, hread, rfl⟩ := hpath
    exact ⟨hread, nofun⟩

/-! ## What is handed over -/

/-- The sink has accepted what the message is normalized to. -/
def Accepted (service : WechatPollingService) (chat : ChatWindow) (generation : Int)
    (events : List PollEvent) (numbered : Numbered) : Prop :=
  ∃ normalized disposition,
    normalizeForChat service.codecs chat generation numbered.2 = .ok normalized ∧
      ⟨.handle normalized, .ok disposition⟩ ∈ events

/-- Whatever is handed over is the first visible message of its local id, and ahead of the
cursor. -/
lemma Loop.only_hands (h : Loop service chat checkpoint passed events last)
    (hrow : rows chat.key = some checkpoint) (hpath : Path StoreStep rows events rows')
    {reply : Reply (.handle normalized)} (hmem : ⟨.handle normalized, reply⟩ ∈ events) :
    ∃ first, firstWith passed first.1 = some first ∧ checkpoint.lastLocalId < first.1 ∧
      isSelfMessage first.2 = false ∧
      normalizeForChat service.codecs chat checkpoint.regressionGeneration first.2
        = .ok normalized := by
  induction h generalizing rows with
  | nil checkpoint => cases hmem
  | @cons checkpoint numbered turn current rest later last hturn hrest ih =>
    obtain ⟨mid, hfirst, hsecond⟩ := path_append.mp hpath
    obtain ⟨hmid, hgeneration, hlocal⟩ := hturn.row_eq hrow hfirst
    rcases List.mem_append.mp hmem with hmem | hmem
    · cases hturn with
      | skipped => cases hmem
      | passed hlt hhanded =>
        cases hhanded with
        | self => simp at hmem
        | handed hself hnormalized disposition =>
          simp only [List.cons_append, List.nil_append, List.mem_cons, Sigma.mk.injEq,
            Request.handle.injEq, List.not_mem_nil, or_false, reduceCtorEq, false_and,
            or_self] at hmem
          obtain ⟨rfl, -⟩ := hmem
          exact ⟨numbered, by simp [firstWith], hlt, hself, hnormalized⟩
    · obtain ⟨first, hfind, hlt, hself, hnormalized⟩ := ih hmid hsecond hmem
      rw [hlocal] at hlt
      rw [hgeneration] at hnormalized
      have hne : numbered.1 ≠ first.1 := ((le_max_right _ _).trans_lt hlt).ne
      refine ⟨first, ?_, (le_max_left _ _).trans_lt hlt, hself, hnormalized⟩
      rw [firstWith, List.find?_cons_of_neg (by simpa using hne)]
      exact hfind

/-- In an ordered window, the first message of a local id ahead of the cursor is handed over. -/
lemma Loop.hands (h : Loop service chat checkpoint passed events last)
    (hrow : rows chat.key = some checkpoint) (hpath : Path StoreStep rows events rows')
    (hsorted : passed.Pairwise LocalIdLe) {first : Numbered}
    (hfirst : firstWith passed first.1 = some first)
    (hlt : checkpoint.lastLocalId < first.1) (hself : isSelfMessage first.2 = false) :
    Accepted service chat checkpoint.regressionGeneration events first := by
  induction h generalizing rows with
  | nil checkpoint => cases hfirst
  | @cons checkpoint numbered turn current rest later last hturn hrest ih =>
    obtain ⟨mid, hpath₁, hpath₂⟩ := path_append.mp hpath
    obtain ⟨hmid, hgeneration, hlocal⟩ := hturn.row_eq hrow hpath₁
    by_cases heq : numbered.1 = first.1
    · -- this is the message itself
      rw [firstWith, List.find?_cons_of_pos (by simpa using heq)] at hfirst
      obtain rfl := Option.some.inj hfirst
      cases hturn with
      | skipped hle => exact absurd hle (not_le.mpr hlt)
      | passed _ hhanded =>
        cases hhanded with
        | self hself' => exact absurd (hself'.symm.trans hself) nofun
        | handed _ hnormalized disposition => exact ⟨_, disposition, hnormalized, by simp⟩
    · rw [firstWith, List.find?_cons_of_neg (by simpa using heq)] at hfirst
      have hle : numbered.1 ≤ first.1 :=
        List.rel_of_pairwise_cons hsorted (List.mem_of_find?_eq_some hfirst)
      have hlt' : current.lastLocalId < first.1 := by
        rw [hlocal]
        exact max_lt hlt (lt_of_le_of_ne hle heq)
      obtain ⟨normalized, disposition, hnormalized, hmem⟩ :=
        ih hmid hpath₂ hsorted.of_cons hfirst hlt'
      rw [hgeneration] at hnormalized
      exact ⟨normalized, disposition, hnormalized, List.mem_append_right _ hmem⟩

/-! ## At least once -/

/-- The message is the first visible one of its local id, or the sink cannot tell it from the
first one. -/
def ShownFirst (service : WechatPollingService) (chat : ChatWindow) (generation : Int)
    (numbered : Numbered) : Prop :=
  ∃ first, firstWith chat.orderedMessages numbered.1 = some first ∧
    isSelfMessage first.2 = false ∧
    normalizeForChat service.codecs chat generation first.2 =
      normalizeForChat service.codecs chat generation numbered.2

/-- The sink sees the local id of a message. -/
lemma localId_eq_of_normalize {generation' : Int} {a b : Numbered}
    (ha : normalizeForChat service.codecs chat generation a.2 = .ok normalized)
    (hb : normalizeForChat service.codecs chat generation' b.2 = .ok normalized)
    (hida : numericLocalId a.2 = .ok a.1) (hidb : numericLocalId b.2 = .ok b.1) : a.1 = b.1 := by
  have hsource : ∀ {g : Int} {x : Numbered},
      normalizeForChat service.codecs chat g x.2 = .ok normalized →
      numericLocalId x.2 = .ok x.1 →
      ∃ text, normalized.sourceLocalId = some text ∧ digitsValue text.toList = x.1 := by
    intro g x hx hid
    simp only [normalizeForChat, bind_eq_ok] at hx
    obtain ⟨n, hn, -, -, h⟩ := hx
    cases h
    exact sourceLocalId_of_normalize hn hid
  obtain ⟨text, htext, ha⟩ := hsource ha hida
  obtain ⟨text', htext', hb⟩ := hsource hb hidb
  obtain rfl := Option.some.inj (htext.symm.trans htext')
  exact ha.symm.trans hb

/-- The messages of a loop over a whole window that the sink has accepted. -/
lemma Loop.accepted_iff (h : Loop service chat checkpoint chat.orderedMessages events last)
    (hrow : rows chat.key = some checkpoint) (hpath : Path StoreStep rows events rows')
    (hsorted : chat.orderedMessages.Pairwise LocalIdLe)
    (hnumeric : ∀ x ∈ chat.orderedMessages, numericLocalId x.2 = .ok x.1)
    (hmem : numbered ∈ chat.orderedMessages) (hlt : checkpoint.lastLocalId < numbered.1) :
    Accepted service chat checkpoint.regressionGeneration events numbered ↔
      ShownFirst service chat checkpoint.regressionGeneration numbered := by
  constructor
  · rintro ⟨normalized, disposition, hnormalized, hhandled⟩
    obtain ⟨first, hfirst, -, hself, hsame⟩ := h.only_hands hrow hpath hhandled
    have hid : first.1 = numbered.1 := localId_eq_of_normalize hsame hnormalized
      (hnumeric first (List.mem_of_find?_eq_some hfirst)) (hnumeric numbered hmem)
    rw [hid] at hfirst
    exact ⟨first, hfirst, hself, hsame.trans hnormalized.symm⟩
  · rintro ⟨first, hfirst, hself, hsame⟩
    have hid : first.1 = numbered.1 := by simpa using List.find?_some hfirst
    rw [← hid] at hfirst hlt
    obtain ⟨normalized, disposition, hnormalized, hhandled⟩ :=
      h.hands hrow hpath hsorted hfirst hlt hself
    exact ⟨normalized, disposition, hsame.symm.trans hnormalized, hhandled⟩

/-- The turn of a message that is about to be passed. -/
lemma Loop.accepted_iff_of_update {rest : List Numbered}
    (hwindow : chat.orderedMessages = passed ++ numbered :: rest)
    (h : Loop service chat checkpoint passed before current)
    (hrow : rows chat.key = some checkpoint) (hpath : Path StoreStep rows before rows')
    (hlt : current.lastLocalId < numbered.1)
    (hhanded : HandedOver service chat current.regressionGeneration numbered handed)
    (hnumeric : ∀ x ∈ chat.orderedMessages, numericLocalId x.2 = .ok x.1) {other : Numbered}
    (hother : other ∈ chat.orderedMessages) (hid : other.1 = numbered.1) :
    Accepted service chat current.regressionGeneration (before ++ handed) other ↔
      ShownFirst service chat current.regressionGeneration other := by
  obtain ⟨-, hgeneration, -, hpassed⟩ := h.row_eq hrow hpath
  -- nothing that was passed has this local id
  have hfirst : firstWith chat.orderedMessages other.1 = some numbered := by
    rw [firstWith, hwindow, List.find?_append, hid]
    have hnone : passed.find? (fun x => x.1 = numbered.1) = none := by
      refine List.find?_eq_none.mpr fun x hx => ?_
      simpa using ((hpassed x hx).trans_lt hlt).ne
    rw [hnone, Option.none_or, List.find?_cons_of_pos (by simp)]
  constructor
  · rintro ⟨normalized, disposition, hnormalized, hhandled⟩
    rcases List.mem_append.mp hhandled with hbefore | hnow
    · obtain ⟨first, hfirst', -, hself, hsame⟩ := h.only_hands hrow hpath hbefore
      have hmem := List.mem_of_find?_eq_some hfirst'
      have hid' : first.1 = other.1 := by
        refine localId_eq_of_normalize hsame hnormalized (hnumeric first ?_)
          (hnumeric other hother)
        rw [hwindow]
        exact List.mem_append_left _ hmem
      have := hpassed first hmem
      omega
    · cases hhanded with
      | self => cases hnow
      | handed hself hsame =>
        simp only [List.mem_singleton, Sigma.mk.injEq, Request.handle.injEq] at hnow
        obtain ⟨rfl, -⟩ := hnow
        exact ⟨numbered, hfirst, hself, hsame.trans hnormalized.symm⟩
  · rintro ⟨first, hfirst', hself, hsame⟩
    obtain rfl := Option.some.inj (hfirst.symm.trans hfirst')
    cases hhanded with
    | self hself' => exact absurd (hself'.symm.trans hself) nofun
    | handed _ hnormalized disposition =>
      exact ⟨_, disposition, hsame.symm.trans hnormalized, by simp⟩

/-- The messages of a validated window have the local ids they are ordered by. -/
lemma numeric_of_validated {conversationId : String} {rawMessages : List WechatMessage}
    {window : List Numbered}
    (h : validatedOrderedMessages conversationId rawMessages = .ok window) :
    ∀ x ∈ window, numericLocalId x.2 = .ok x.1 := fun _ hx =>
  (validatedMessage_eq_ok (validatedOrderedMessages_mem h hx).2).2.2

/-- The row from which a single poller starts its loop. -/
lemma WindowExit.row_eq (h : WindowExit service chat lifecycle events state (.start current isNew))
    (hpath : Path StoreStep rows events rows') :
    rows' chat.key = some current ∧
      ∀ found, foundCheckpoint events = some found → isNew = false →
        current.lastLocalId ≤ found.lastLocalId := by
  obtain ⟨-, before, after, checkpoint, _, _, rfl, hstart, hstarted⟩ := h.of_start rfl
  obtain ⟨mid, hbefore, hafter⟩ := path_append.mp hpath
  obtain ⟨hrow, hle⟩ := hstarted.row_eq (hstart.row_eq hbefore) hafter
  refine ⟨hrow, fun found hfound hnew => ?_⟩
  obtain rfl := Option.some.inj ((hstart.found after).symm.trans hfound)
  exact hle hnew

/-- Nothing is handed over before the loop. -/
lemma accepted_append_iff {out : WechatPollingLifecycleState × Prologue}
    (h : (service.pollWindow chat lifecycle).Returns before out) :
    Accepted service chat generation (before ++ events) numbered ↔
      Accepted service chat generation events numbered := by
  have hnone : ∀ normalized (reply : Reply (.handle normalized)),
      ⟨.handle normalized, reply⟩ ∉ before := fun normalized reply hmem =>
    Runs.forall_mem h (fun _ _ h => (pollWindow_reaches h).1) _ hmem
  constructor
  · rintro ⟨normalized, disposition, hnormalized, hmem⟩
    exact ⟨normalized, disposition, hnormalized,
      (List.mem_append.mp hmem).resolve_left (hnone _ _)⟩
  · rintro ⟨normalized, disposition, hnormalized, hmem⟩
    exact ⟨normalized, disposition, hnormalized, List.mem_append_right _ hmem⟩

/-- Before a single poller advances the cursor from `a` to `b`, the sink has accepted the non-self
messages of the window in between, exactly if those at `b` are all shown first. -/
lemma pollMessages_advance_iff {b : Int} (hsorted : chat.orderedMessages.Pairwise LocalIdLe)
    (hnumeric : ∀ x ∈ chat.orderedMessages, numericLocalId x.2 = .ok x.1)
    (h : (service.pollMessages chat lifecycle).Reaches events (.update chat.key statement))
    (hbump : statement.bumpGeneration = false) (hb : statement.setLocalId = some b)
    (hpath : Path StoreStep rows events rows') :
    (∀ x ∈ chat.orderedMessages, isSelfMessage x.2 = false →
      statement.expected.lastLocalId < x.1 → x.1 ≤ b →
        Accepted service chat statement.expected.regressionGeneration events x) ↔
    ∀ x ∈ chat.orderedMessages, isSelfMessage x.2 = false → x.1 = b →
      ShownFirst service chat statement.expected.regressionGeneration x := by
  rcases pollMessages_reaches h with hprepares | ⟨_, _, _, checkpoint, _, rfl, hbegin, hdeliver⟩
  · rcases hprepares.2 with hbumps | hkeeps
    · exact absurd (hbumps.symm.trans hbump) nofun
    · exact absurd (hkeeps.symm.trans hb) nofun
  · obtain ⟨mid, hbefore, hafter⟩ := path_append.mp hpath
    have hrow := ((pollWindow_returns hbegin).row_eq hbefore).1
    obtain ⟨passed, numbered, rest, before, handed, current, hwindow, rfl, hloop, hlt, hin⟩ :=
      deliver_reaches hdeliver
    cases hin with
    | update hhanded _ hstatement =>
      obtain rfl := advanceStatement_eq hstatement
      obtain rfl : numbered.1 = b := Option.some.inj hb
      obtain ⟨mid', hloopPath, -⟩ := path_append.mp hafter
      have hiff : ∀ x ∈ chat.orderedMessages, x.1 = numbered.1 →
          (Accepted service chat current.regressionGeneration _ x ↔
            ShownFirst service chat current.regressionGeneration x) := fun x hx hid =>
        (accepted_append_iff hbegin).trans
          (hloop.accepted_iff_of_update hwindow hrow hloopPath hlt hhanded hnumeric hx hid)
      -- between the cursor and this message there is nothing else
      have hbetween : ∀ x ∈ chat.orderedMessages,
          current.lastLocalId < x.1 → x.1 ≤ numbered.1 → x.1 = numbered.1 := by
        intro x hx hahead hle
        rw [hwindow] at hx hsorted
        rcases List.mem_append.mp hx with hx | hx
        · exact absurd ((hloop.row_eq hrow hloopPath).2.2.2 x hx) (not_le.mpr hahead)
        · rcases List.mem_cons.mp hx with rfl | hx
          · rfl
          · exact le_antisymm hle
              (List.rel_of_pairwise_cons (List.pairwise_append.mp hsorted).2.1 hx)
      constructor
      · intro haccepted x hx hself hid
        exact (hiff x hx hid).mp (haccepted x hx hself (hid ▸ hlt) hid.le)
      · intro hshown x hx hself hahead hle
        have hid := hbetween x hx hahead hle
        exact (hiff x hx hid).mpr (hshown x hx hself hid)

/-- A call that succeeds before the loop has skipped the window by design. -/
lemma WindowExit.bootstrapped_of_succeeded {prologue : Prologue}
    (h : WindowExit service chat lifecycle events state prologue)
    (hprologue : prologue = .ended (.ok result)) (hsucceeded : result.succeeded = true) :
    result.bootstrapped = true := by
  cases h with
  | unread | empty | mismatched =>
    cases hprologue
    cases hsucceeded
  | unstarted hresult =>
    cases hprologue
    obtain ⟨_, _, _, -, rfl⟩ := hresult
    cases hsucceeded
  | bootstrapped =>
    cases hprologue
    rfl
  | anchored hstart hexit =>
    cases hexit with
    | started => cases hprologue
    | ended _ hend =>
      cases hend with
      | stopped | unanchored | enrolled =>
        cases hprologue
        cases hsucceeded
      | unreadable => cases hprologue
      | failed hresult =>
        cases hprologue
        obtain ⟨_, _, _, -, rfl⟩ := hresult
        cases hsucceeded
      | rebased =>
        cases hprologue
        rfl

/-- A call that succeeds without skipping the window by design has handed over the non-self messages
ahead of the checkpoint it found, exactly if they are all shown first. -/
lemma pollMessages_succeeded_iff {found : WechatSyncCheckpoint}
    (hsorted : chat.orderedMessages.Pairwise LocalIdLe)
    (hnumeric : ∀ x ∈ chat.orderedMessages, numericLocalId x.2 = .ok x.1)
    (h : (service.pollMessages chat lifecycle).Returns events (state, .ok result))
    (hsucceeded : result.succeeded = true) (hbootstrapped : result.bootstrapped = false)
    (hfound : foundCheckpoint events = some found) (hpath : Path StoreStep rows events rows')
    (hlast : rows' chat.key = some last) :
    (∀ x ∈ chat.orderedMessages, isSelfMessage x.2 = false → found.lastLocalId < x.1 →
      Accepted service chat last.regressionGeneration events x) ↔
    ∀ x ∈ chat.orderedMessages, isSelfMessage x.2 = false → found.lastLocalId < x.1 →
      ShownFirst service chat last.regressionGeneration x := by
  rcases pollMessages_returns h with hbegin | ⟨_, after, checkpoint, isNew, rfl, hbegin, hexit⟩
  · have := (pollWindow_returns hbegin).bootstrapped_of_succeeded rfl hsucceeded
    exact absurd (this.symm.trans hbootstrapped) nofun
  · obtain ⟨mid, hbefore, hafter⟩ := path_append.mp hpath
    obtain ⟨hrow, hle⟩ := (pollWindow_returns hbegin).row_eq hbefore
    obtain ⟨-, b₁, b₂, start, _, _, rfl, hstart, -⟩ := (pollWindow_returns hbegin).of_start rfl
    have hfound' : foundCheckpoint (b₁ ++ b₂) = some found := by
      rw [List.append_assoc, hstart.found] at hfound
      exact (hstart.found b₂).trans hfound
    cases hexit with
    | finished hloop =>
      obtain ⟨hend, hgeneration, -, -⟩ := hloop.row_eq hrow hafter
      obtain rfl := Option.some.inj (hlast.symm.trans hend)
      have hcursor := hle found hfound' hbootstrapped
      have hiff : ∀ x ∈ chat.orderedMessages, found.lastLocalId < x.1 →
          (Accepted service chat last.regressionGeneration (b₁ ++ b₂ ++ after) x ↔
            ShownFirst service chat last.regressionGeneration x) := by
        intro x hx hahead
        rw [hgeneration]
        exact (accepted_append_iff hbegin).trans (hloop.accepted_iff hrow hafter hsorted hnumeric hx
          (hcursor.trans_lt hahead))
      constructor
      · intro haccepted x hx hself hahead
        exact (hiff x hx hahead).mp (haccepted x hx hself hahead)
      · intro hshown x hx hself hahead
        exact (hiff x hx hahead).mpr (hshown x hx hself hahead)
    | interrupted => cases hsucceeded

/-- **At-least-once delivery, exactly.** Whenever a single poller asks to advance the checkpoint
from `a` to `b` within a generation, the sink has accepted every non-self message of the window in
between if and only if those with local id `b` are shown first: not hidden behind another message
of that local id. A call that succeeds without skipping the window by design has handed over every
non-self message ahead of the checkpoint it started from under the same condition. -/
theorem at_least_once_iff_shown_first (service : WechatPollingService) (sourceAccountId : String)
    (entry : ChatEntry) (failed : List String) (lifecycle : WechatPollingLifecycleState) :
    (∀ conversationId conversationName rawMessages window events statement b rows rows',
      parseChat entry = .ok (conversationId, conversationName) →
      validatedOrderedMessages conversationId rawMessages = .ok window →
      (service.pollChat sourceAccountId entry failed lifecycle).Reaches
        (⟨.listMessages conversationId, .ok rawMessages⟩ :: events)
        (.update (sourceAccountId, conversationId) statement) →
      statement.bumpGeneration = false → statement.setLocalId = some b →
      Path StoreStep rows (⟨.listMessages conversationId, .ok rawMessages⟩ :: events) rows' →
      let chat : ChatWindow := ⟨sourceAccountId, conversationId, conversationName, window⟩
      let generation := statement.expected.regressionGeneration
      ((∀ x ∈ window, isSelfMessage x.2 = false →
        statement.expected.lastLocalId < x.1 → x.1 ≤ b →
          Accepted service chat generation events x) ↔
      ∀ x ∈ window, isSelfMessage x.2 = false → x.1 = b →
        ShownFirst service chat generation x)) ∧
    (∀ conversationId conversationName rawMessages window events state result found last
        rows rows',
      parseChat entry = .ok (conversationId, conversationName) →
      validatedOrderedMessages conversationId rawMessages = .ok window →
      (service.pollChat sourceAccountId entry failed lifecycle).Returns
        (⟨.listMessages conversationId, .ok rawMessages⟩ :: events) (state, .ok result) →
      result.succeeded = true → result.bootstrapped = false →
      foundCheckpoint events = some found →
      Path StoreStep rows (⟨.listMessages conversationId, .ok rawMessages⟩ :: events) rows' →
      rows' (sourceAccountId, conversationId) = some last →
      let chat : ChatWindow := ⟨sourceAccountId, conversationId, conversationName, window⟩
      let generation := last.regressionGeneration
      ((∀ x ∈ window, isSelfMessage x.2 = false → found.lastLocalId < x.1 →
        Accepted service chat generation events x) ↔
      ∀ x ∈ window, isSelfMessage x.2 = false → found.lastLocalId < x.1 →
        ShownFirst service chat generation x)) := by
  constructor
  · intro conversationId conversationName rawMessages window events statement b rows rows' hparse
      hwindow h hbump hb hpath
    obtain ⟨_, _, hparse', -, ⟨hnil, -⟩ | ⟨_, _, _, heq, hwindow', hpoll⟩⟩ := pollChat_reaches h
    · cases hnil
    · cases heq
      cases hparse.symm.trans hparse'
      cases hwindow.symm.trans hwindow'
      exact pollMessages_advance_iff (validatedOrderedMessages_sorted hwindow)
        (numeric_of_validated hwindow) hpoll hbump hb (path_listMessages.mp hpath)
  · intro conversationId conversationName rawMessages window events state result found last rows
      rows' hparse hwindow h hsucceeded hbootstrapped hfound hpath hlast
    cases pollChat_returns h with
    | rejected _ _ _ hfailed => exact absurd (hfailed.symm.trans hsucceeded) nofun
    | polled hparse' _ hwindow' hpoll =>
      cases hparse.symm.trans hparse'
      cases hwindow.symm.trans hwindow'
      exact pollMessages_succeeded_iff (validatedOrderedMessages_sorted hwindow)
        (numeric_of_validated hwindow) hpoll hsucceeded hbootstrapped hfound
        (path_listMessages.mp hpath) hlast

/-- Both messages of the friend are shown first, so the poll has handed over both. -/
theorem at_least_once_two_messages :
    ∃ events out,
      (friendPoll .initial).Returns (⟨.listMessages "friend", .ok friendMessages⟩ :: events) out ∧
      ∀ x ∈ friendWindow, Accepted ⟨.latest, coarseCodecs⟩ ⟨"me", "friend", none, friendWindow⟩ 0
        events x := by
  have hresult : (friendRun .initial friendMessages ⟨0, 0, none⟩).2.2.2 = .ok
      { conversationId := some "friend", succeeded := true, messagesSeen := 2,
        messagesProcessed := 2, messagesNew := 2 } := by
    decide +kernel
  have hreturns := friendRun_returns hresult
  have hiff := (at_least_once_iff_shown_first ⟨.latest, coarseCodecs⟩ "me" friendEntry []
    .initial).2 "friend" none friendMessages friendWindow _ _ _ ⟨0, 0, none⟩
    ⟨6, 0, some (coarseCodecs.digest (.serverAnchor "8"))⟩ _ _ rfl friendMessages_ordered hreturns
    rfl rfl (by decide +kernel) friendRun_path (by decide +kernel)
  have hfirst : ∀ x ∈ friendWindow, isSelfMessage x.2 = false ∧ 0 < x.1 ∧
      firstWith friendWindow x.1 = some x := by
    decide +kernel
  refine ⟨_, _, hreturns, fun x hx => ?_⟩
  refine hiff.mpr (fun y hy hself _ => ?_) x hx (hfirst x hx).1 (hfirst x hx).2.1
  exact ⟨y, (hfirst y hy).2.2, hself, rfl⟩

lemma Accepted.mem_handed (h : Accepted service chat generation events numbered) :
    ∃ normalized, normalizeForChat service.codecs chat generation numbered.2 = .ok normalized ∧
      normalized ∈ events.filterMap PollEvent.handed := by
  obtain ⟨normalized, _, hnormalize, hmem⟩ := h
  exact ⟨normalized, hnormalize, List.mem_filterMap.mpr ⟨_, hmem, rfl⟩⟩

/-- Two messages of a friend with the local id `5`. -/
def twins : List WechatMessage :=
  [.raw (friendMessage 5 (.int 7)), .raw (friendMessage 5 (.int 8))]

/-- The call succeeds and leaves the cursor on the local id of both messages; the sink has seen the
first one only. -/
theorem second_of_a_localId_skipped :
    ∃ events rows' state result last second,
      let window := twins.map fun message => ((5 : Int), message)
      parseChat friendEntry = .ok ("friend", none) ∧
      validatedOrderedMessages "friend" twins = .ok window ∧
      (friendPoll .initial).Returns (⟨.listMessages "friend", .ok twins⟩ :: events) (state, .ok result) ∧
      Path StoreStep (friendRow ⟨0, 0, none⟩) (⟨.listMessages "friend", .ok twins⟩ :: events) rows' ∧
      result.succeeded = true ∧ result.bootstrapped = false ∧
      foundCheckpoint events = some ⟨0, 0, none⟩ ∧
      rows' ("me", "friend") = some last ∧ last.lastLocalId = 5 ∧ last.regressionGeneration = 0 ∧
      (5, second) ∈ window ∧ isSelfMessage second = false ∧
      ¬ Accepted ⟨.latest, coarseCodecs⟩ ⟨"me", "friend", none, window⟩ 0 events (5, second) := by
  let run := friendRun .initial twins ⟨0, 0, none⟩
  have hresult : run.2.2.2 = .ok
      { conversationId := some "friend", succeeded := true, messagesSeen := 2,
        messagesProcessed := 1, messagesNew := 1, messagesSkippedByCheckpoint := 1 } := by
    decide +kernel
  have hskipped : ∀ normalized ∈ (normalizeForChat coarseCodecs
      ⟨"me", "friend", none, twins.map fun message => (5, message)⟩ 0
        (.raw (friendMessage 5 (.int 8)))).toOption,
      normalized ∉ run.1.tail.filterMap PollEvent.handed := by
    decide +kernel
  refine ⟨run.1.tail, run.2.1, run.2.2.1, _,
    ⟨5, 0, some (coarseCodecs.digest (.serverAnchor "7"))⟩, .raw (friendMessage 5 (.int 8)),
    by decide +kernel, by decide +kernel, friendRun_returns hresult, friendRun_path, rfl, rfl,
    by decide +kernel,
    by decide +kernel, rfl, rfl, by decide +kernel, by decide +kernel, fun haccepted => ?_⟩
  obtain ⟨normalized, hnormalize, hmem⟩ := haccepted.mem_handed
  exact hskipped normalized (congrArg Except.toOption hnormalize) hmem

end WechatPollingService
end AgentGateway.Polling
