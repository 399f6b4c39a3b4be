import AgentGateway.Polling.Service

/-!
# What a poll does before it delivers

The part of `_poll_chat` before the delivery loop, inverted once: with which events and which
lifecycle state it can end, and why. Everything that is proved about it is a case analysis of the
three predicates of this file.

* `CasExit`: a compare-and-swap of the checkpoint store,
* `AnchorExit`: the anchor check, with the recovery from a regression,
* `WindowExit`: everything from the validated window on.

The last section says which requests this part makes at all; none of them is a sink call.
-/

namespace AgentGateway.Polling

open Lib Lib.Program Polling.Checkpoint

/-! ## Store calls -/

/-- The code of a `WechatCheckpointContinuityError`. -/
def continuityCode : String := "wechat_checkpoint_continuity_unverified"

/-- A failure that says that the checkpoint and the window do not fit together. -/
def PollFailure.IsContinuity (failure : PollFailure) : Prop :=
  failure.stage = .checkpoint ∧ failure.code = continuityCode

variable {error : Raised}

lemma code_ne_of_failure {conversationId : Option String} {localId : Option Int}
    (h : error.code ≠ some continuityCode) :
    (failure .checkpoint error conversationId localId).code ≠ continuityCode := by
  have hdefault : "wechat_" ++ PollFailureStage.checkpoint.value ++ "_error" ≠ continuityCode := by
    decide
  intro heq
  rw [failure] at heq
  cases hcode : error.code with
  | none =>
    rw [hcode] at heq
    exact hdefault heq
  | some code =>
    rw [hcode] at heq
    exact h (hcode.trans (congrArg some heq))

/-- A store call raises an error of the store or of the database. -/
def Raised.OfStore (error : Raised) : Prop := error = .other ∨ ∃ e, error = .ofCheckpoint e

lemma Raised.OfStore.code_ne (h : error.OfStore) : error.code ≠ some continuityCode := by
  rcases h with rfl | ⟨e, rfl⟩
  · exact nofun
  · cases e <;> decide

/-- How a compare-and-swap call ends. -/
inductive CasExit (key : ChatKey) (prepared : Except WechatCheckpointError (Option CasStatement)) :
    List PollEvent → Except Raised (WechatSyncCheckpoint × Bool) → Prop
  | raised {events error} (herror : error.OfStore) : CasExit key prepared events (.error error)
  | reread (hprepared : prepared = .ok none) (current) :
      CasExit key prepared [⟨.select key, .ok (some current)⟩] (.ok (current, false))
  | applied {statement} (hprepared : prepared = .ok (some statement)) (changed current) :
      CasExit key prepared
        [⟨.update key statement, .ok changed⟩, ⟨.select key, .ok (some current)⟩]
        (.ok (current, changed))

variable {result : Except Raised (WechatSyncCheckpoint × Bool)} {created : WechatSyncCheckpoint}
  {prepared : Except WechatCheckpointError (Option CasStatement)} {key : ChatKey}
  {events : List PollEvent} {changed : Bool}

lemma requireRow_returns (h : (requireRow key changed).Returns events result) :
    (∃ error, error.OfStore ∧ result = .error error) ∨
      ∃ current, events = [⟨.select key, .ok (some current)⟩] ∧ result = .ok (current, changed) := by
  obtain ⟨reply, rest, rfl, hrest⟩ := returns_call.mp h
  rcases reply with error | row
  · exact Or.inl ⟨_, Or.inl rfl, (returns_done.mp hrest).2.symm⟩
  · cases row with
    | none => exact Or.inl ⟨_, Or.inr ⟨_, rfl⟩, (returns_done.mp hrest).2.symm⟩
    | some current =>
      obtain ⟨rfl, rfl⟩ := returns_done.mp hrest
      exact Or.inr ⟨current, rfl, rfl⟩

lemma compareAndSwap_returns (h : (compareAndSwap key prepared).Returns events result) :
    CasExit key prepared events result := by
  rcases prepared with error | statement
  · obtain ⟨-, rfl⟩ := returns_done.mp h
    exact .raised (Or.inr ⟨error, rfl⟩)
  · cases statement with
    | none =>
      rcases requireRow_returns h with ⟨error, herror, rfl⟩ | ⟨current, rfl, rfl⟩
      · exact .raised herror
      · exact .reread rfl current
    | some statement =>
      obtain ⟨reply, rest, rfl, hrest⟩ := returns_call.mp h
      rcases reply with error | changed
      · obtain ⟨-, rfl⟩ := returns_done.mp hrest
        exact .raised (Or.inl rfl)
      · rcases requireRow_returns hrest with ⟨error, herror, rfl⟩ | ⟨current, rfl, rfl⟩
        · exact .raised herror
        · exact .applied rfl changed current

/-- The row that an event shows or creates. -/
def foundRow : PollEvent → Row
  | ⟨.select _, .ok row⟩ => row
  | ⟨.insert _ created, .ok ()⟩ => some created
  | _ => none

/-- The checkpoint a call starts from: the first row it has read or created. -/
def foundCheckpoint (events : List PollEvent) : Row := events.findSome? foundRow

/-- How `initialize` ends; `created` is the row it tries to create. -/
inductive InitExit (key : ChatKey) (created : WechatSyncCheckpoint) :
    List PollEvent → Except Raised (WechatSyncCheckpoint × Bool) → Prop
  | raised {error : Raised} {events : List PollEvent} (herror : error.OfStore)
      (hfound : foundCheckpoint events = none) : InitExit key created events (.error error)
  | exists_ (existing) :
      InitExit key created [⟨.select key, .ok (some existing)⟩] (.ok (existing, false))
  | raced (existing) :
      InitExit key created
        [⟨.select key, .ok none⟩, ⟨.insert key created, .error .integrity⟩,
          ⟨.select key, .ok (some existing)⟩] (.ok (existing, false))
  | inserted :
      InitExit key created [⟨.select key, .ok none⟩, ⟨.insert key created, .ok ()⟩]
        (.ok (created, true))

lemma insertRow_returns (h : (insertRow key created).Returns events result) :
    InitExit key created events result := by
  have raises : ∀ past {rest}, foundCheckpoint past = none →
      (Program.done (.error Raised.other) :
        Poll (Except Raised (WechatSyncCheckpoint × Bool))).Returns rest result →
      InitExit key created (past ++ rest) result := by
    intro past rest hfound hdone
    obtain ⟨rfl, rfl⟩ := returns_done.mp hdone
    exact .raised (Or.inl rfl) ((congrArg foundCheckpoint (List.append_nil past)).trans hfound)
  obtain ⟨row, rest, rfl, hrest⟩ := returns_call.mp h
  rcases row with error | (_ | existing)
  · exact raises [_] rfl hrest
  · obtain ⟨reply, rest, rfl, hlast⟩ := returns_call.mp hrest
    rcases reply with (_ | _) | _
    · obtain ⟨row, rest, rfl, hreread⟩ := returns_call.mp hlast
      rcases row with error | (_ | existing)
      · exact raises [_, _, _] rfl hreread
      · exact raises [_, _, _] rfl hreread
      · obtain ⟨rfl, rfl⟩ := returns_done.mp hreread
        exact .raced existing
    · exact raises [_, _] rfl hlast
    · obtain ⟨rfl, rfl⟩ := returns_done.mp hlast
      exact .inserted
  · obtain ⟨rfl, rfl⟩ := returns_done.mp hrest
    exact .exists_ existing

/-! ## The anchor check -/

/-- A result that reports an error of the checkpoint store, or a lost compare-and-swap. -/
def ChatWindow.StoreFailure (chat : ChatWindow) (result : ChatPollResult) : Prop :=
  ∃ error skipped bootstrapped, error.code ≠ some continuityCode ∧
    result = WechatPollingService.recoveryFailed chat bootstrapped skipped error

namespace WechatPollingService

section Anchor

variable (service : WechatPollingService) (chat : ChatWindow)
  (lifecycle : WechatPollingLifecycleState) (checkpoint : WechatSyncCheckpoint)
  (bootstrapped : Bool) (marker : Option EmptyWindowMarker)

/-- What is validated is what is compared. -/
lemma eq_of_validated_fingerprint {value result : Option String}
    (h : validatedCheckpointFingerprint (.ofOptionStr value) = .ok result) : result = value := by
  cases value with
  | none =>
    cases h
    rfl
  | some text =>
    simp only [PyValue.ofOptionStr, validatedCheckpointFingerprint] at h
    split_ifs at h
    cases h
    rfl

variable {statement : CasStatement} {remote : String} {index : ℕ}

lemma rewindStatement_eq (h : rewindStatement chat checkpoint = .ok (some statement)) :
    statement = ⟨checkpoint, some (chat.remoteFirstLocalId - 1), true, none⟩ := by
  simp only [rewindStatement, rewind, bind_eq_ok, validatedCheckpointLocalId_eq_ok,
    validatedCheckpointGeneration_eq_ok] at h
  obtain ⟨_, ⟨hid, -⟩, _, ⟨hgeneration, -⟩, _, hfp, _, ⟨hfirst, -⟩, _, -, _, -, h⟩ := h
  cases hid
  cases hgeneration
  cases hfirst
  cases eq_of_validated_fingerprint hfp
  cases h
  rfl

lemma liveSuffixStatement_eq {baseline : Option String}
    (h : liveSuffixStatement chat checkpoint index baseline = .ok (some statement)) :
    statement = ⟨checkpoint, some ((chat.orderedMessages[index]?.map Prod.fst).getD 0 - 1), true,
      baseline⟩ := by
  simp only [liveSuffixStatement, beginLiveSuffixAfterEmptyWindow, bind_eq_ok,
    validatedCheckpointLocalId_eq_ok, validatedCheckpointGeneration_eq_ok] at h
  obtain ⟨_, ⟨hid, -⟩, _, ⟨hgeneration, -⟩, _, ⟨hfirst, -⟩, _, hfp, _, hbaseline, _, -, _, -, _, -,
    h⟩ := h
  cases hid
  cases hgeneration
  cases hfirst
  cases eq_of_validated_fingerprint hfp
  cases eq_of_validated_fingerprint hbaseline
  cases h
  rfl

lemma rebaseStatement_eq {latestLocalId : Int} {latestFingerprint : String}
    (h : rebaseStatement checkpoint latestLocalId latestFingerprint = .ok (some statement)) :
    statement = ⟨checkpoint, some latestLocalId, true, some latestFingerprint⟩ := by
  simp only [rebaseStatement, rebaseLatestAfterRegression, bind_eq_ok,
    validatedCheckpointLocalId_eq_ok, validatedCheckpointGeneration_eq_ok] at h
  obtain ⟨_, ⟨hid, -⟩, _, ⟨hgeneration, -⟩, _, ⟨hlatest, -⟩, _, hfp, _, hfp', _, -, _, -, h⟩ := h
  cases hid
  cases hgeneration
  cases hlatest
  cases eq_of_validated_fingerprint hfp
  obtain rfl := @eq_of_validated_fingerprint (some latestFingerprint) _ hfp'
  cases h
  rfl

lemma enrollStatement_eq (h : enrollStatement checkpoint remote = .ok (some statement)) :
    statement = ⟨{ checkpoint with lastMessageFingerprint := none }, none, false, some remote⟩ := by
  simp only [enrollStatement, enrollAnchor, bind_eq_ok, validatedCheckpointLocalId_eq_ok,
    validatedCheckpointGeneration_eq_ok] at h
  obtain ⟨_, ⟨hid, -⟩, _, ⟨hgeneration, -⟩, _, hfp, _, -, h⟩ := h
  cases hid
  cases hgeneration
  obtain rfl := @eq_of_validated_fingerprint (some remote) _ hfp
  cases h
  rfl

/-- Why the loop starts, and from which checkpoint. -/
inductive Started : List PollEvent → WechatSyncCheckpoint → Bool → Prop
  | disjoint (h : ¬ Overlaps chat checkpoint) : Started [] checkpoint bootstrapped
  | verified {anchor fingerprint} (h : Overlaps chat checkpoint)
      (hcandidates : anchorCandidates chat checkpoint = [anchor])
      (hremote : service.fingerprint anchor.2 = .ok (some fingerprint))
      (hsaved : checkpoint.lastMessageFingerprint = some fingerprint) :
      Started [] checkpoint bootstrapped
  | rewound {statement current} (h : Overlaps chat checkpoint)
      (hmode : service.bootstrapMode = .backfill)
      (hstatement : rewindStatement chat checkpoint = .ok (some statement)) :
      Started
        [⟨.update chat.key statement, .ok true⟩, ⟨.select chat.key, .ok (some current)⟩]
        current bootstrapped
  | resumed {taken index baseline statement current} (h : Overlaps chat checkpoint)
      (hmode : service.bootstrapMode = .latest) (hmarker : marker = some taken)
      (hindex : liveSuffixStartIndex taken chat.orderedMessages = .ok (some index))
      (hbaseline : service.baselineFingerprint chat index = .ok baseline)
      (hstatement : liveSuffixStatement chat checkpoint index baseline = .ok (some statement)) :
      Started
        [⟨.update chat.key statement, .ok true⟩, ⟨.select chat.key, .ok (some current)⟩]
        current true

/-- How the check of an overlapping window ends the call. -/
inductive AnchorEnd :
    List PollEvent → WechatPollingLifecycleState → Except Raised ChatPollResult → Prop
  | stopped (reason skipped) :
      AnchorEnd [] (chat.stop lifecycle reason checkpoint skipped bootstrapped).1
        (chat.stop lifecycle reason checkpoint skipped bootstrapped).2
  | unanchored :
      AnchorEnd [] lifecycle (.ok (chat.continuityFailure chat.messagesSeen bootstrapped))
  | unreadable {error : Raised} : AnchorEnd [] lifecycle (.error error)
  | enrolled {remote : String} {statement : CasStatement}
      (hstatement : enrollStatement checkpoint remote = .ok (some statement)) (changed current) :
      AnchorEnd
        [⟨.update chat.key statement, .ok changed⟩, ⟨.select chat.key, .ok (some current)⟩]
        lifecycle (.ok (chat.continuityFailure (chat.skippedVisible checkpoint) bootstrapped))
  | failed {events : List PollEvent} {result : ChatPollResult}
      (hresult : chat.StoreFailure result) : AnchorEnd events lifecycle (.ok result)
  | rebased {statement current} :
      AnchorEnd [⟨.update chat.key statement, .ok true⟩, ⟨.select chat.key, .ok (some current)⟩]
        lifecycle (.ok chat.skipped)

/-- How the anchor check ends. -/
inductive AnchorExit : List PollEvent → WechatPollingLifecycleState → Prologue → Prop
  | started {events current isNew}
      (h : Started service chat checkpoint bootstrapped marker events current isNew) :
      AnchorExit events lifecycle (.start current isNew)
  | ended {events state outcome} (h : Overlaps chat checkpoint)
      (hend : AnchorEnd chat lifecycle checkpoint bootstrapped events state outcome) :
      AnchorExit events state (.ended outcome)

variable {service chat lifecycle checkpoint bootstrapped marker} {events : List PollEvent}
  {out : WechatPollingLifecycleState × Prologue}

lemma AnchorExit.of_storeError (h : Overlaps chat checkpoint)
    (herror : error.code ≠ some continuityCode) (skipped : ℕ) :
    AnchorExit service chat lifecycle checkpoint bootstrapped marker events lifecycle
      (.returned (recoveryFailed chat bootstrapped skipped error)) :=
  .ended h (.failed ⟨error, skipped, bootstrapped, herror, rfl⟩)

lemma Overlaps.ne_nil (h : Overlaps chat checkpoint) : chat.orderedMessages ≠ [] := by
  intro hnil
  obtain ⟨-, first, hfirst, -⟩ := h
  rw [hnil] at hfirst
  cases hfirst

lemma stateConflict_code_ne : Raised.stateConflict.code ≠ some continuityCode := by decide

/-- A recovery ends with a failure of the store, or with what follows a won compare-and-swap. -/
lemma recoverWith_returns {skipped : ℕ} {won : WechatSyncCheckpoint → Prologue}
    (h : Overlaps chat checkpoint)
    (hwon : ∀ statement current, prepared = .ok (some statement) →
      AnchorExit service chat lifecycle checkpoint bootstrapped marker
        [⟨.update chat.key statement, .ok true⟩, ⟨.select chat.key, .ok (some current)⟩] lifecycle
        (won current))
    (hret : (recoverWith chat lifecycle bootstrapped prepared skipped won).Returns events out) :
    AnchorExit service chat lifecycle checkpoint bootstrapped marker events out.1 out.2 := by
  obtain ⟨first, swapped, second, rfl, hswap, hret⟩ := returns_bind.mp hret
  cases compareAndSwap_returns hswap with
  | raised herror =>
    obtain ⟨rfl, rfl⟩ := returns_pure.mp hret
    exact .of_storeError h herror.code_ne skipped
  | reread _ current =>
    obtain ⟨rfl, rfl⟩ := returns_pure.mp hret
    exact .of_storeError h stateConflict_code_ne skipped
  | applied hprepared changed current =>
    cases changed with
    | false =>
      obtain ⟨rfl, rfl⟩ := returns_pure.mp hret
      exact .of_storeError h stateConflict_code_ne skipped
    | true =>
      obtain ⟨rfl, rfl⟩ := returns_pure.mp hret
      exact hwon _ current hprepared

lemma rebase_returns (h : Overlaps chat checkpoint)
    (hret : (service.rebase chat lifecycle checkpoint bootstrapped).Returns events out) :
    AnchorExit service chat lifecycle checkpoint bootstrapped marker events out.1 out.2 := by
  unfold rebase at hret
  split at hret
  case h_1 hnone => exact absurd (List.getLast?_eq_none_iff.mp hnone) h.ne_nil
  case h_2 latestLocalId latest hlatest =>
    split at hret
    case h_1 =>
      obtain ⟨rfl, rfl⟩ := returns_done.mp hret
      exact .ended h .unreadable
    case h_2 =>
      obtain ⟨rfl, rfl⟩ := returns_done.mp hret
      exact .ended h .unanchored
    case h_3 => exact recoverWith_returns h (fun _ _ _ => .ended h .rebased) hret

lemma liveSuffix_returns {taken : EmptyWindowMarker} (h : Overlaps chat checkpoint)
    (hmode : service.bootstrapMode = .latest) (hmarker : marker = some taken)
    (hindex : liveSuffixStartIndex taken chat.orderedMessages = .ok (some index))
    (hret : (service.liveSuffix chat lifecycle checkpoint bootstrapped index).Returns events out) :
    AnchorExit service chat lifecycle checkpoint bootstrapped marker events out.1 out.2 := by
  unfold liveSuffix at hret
  split at hret
  case h_1 =>
    obtain ⟨rfl, rfl⟩ := returns_done.mp hret
    exact .ended h .unreadable
  case h_2 baseline hbaseline =>
    split_ifs at hret
    · obtain ⟨rfl, rfl⟩ := returns_done.mp hret
      exact .ended h (.stopped _ _)
    · exact recoverWith_returns h (fun statement current hprepared =>
        .started (.resumed h hmode hmarker hindex hbaseline hprepared)) hret

lemma recover_returns (h : Overlaps chat checkpoint)
    (hret : (service.recover chat lifecycle checkpoint bootstrapped marker).Returns events out) :
    AnchorExit service chat lifecycle checkpoint bootstrapped marker events out.1 out.2 := by
  unfold recover at hret
  split at hret
  case h_1 hmode =>
    exact recoverWith_returns h (fun statement current hprepared =>
      .started (.rewound h hmode hprepared)) hret
  case h_2 => exact rebase_returns h hret
  case h_3 taken hmode =>
    split at hret
    case h_1 =>
      obtain ⟨rfl, rfl⟩ := returns_done.mp hret
      exact .ended h (.stopped _ _)
    case h_2 => exact rebase_returns h hret
    case h_3 index hindex =>
      exact liveSuffix_returns h hmode rfl hindex hret

lemma enroll_returns (h : Overlaps chat checkpoint)
    (hret : (enroll chat lifecycle checkpoint bootstrapped remote).Returns events out) :
    AnchorExit service chat lifecycle checkpoint bootstrapped marker events out.1 out.2 := by
  obtain ⟨first, swapped, second, rfl, hswap, hrest⟩ := returns_bind.mp hret
  cases compareAndSwap_returns hswap with
  | raised herror =>
    obtain ⟨rfl, rfl⟩ := returns_pure.mp hrest
    exact .of_storeError h herror.code_ne (chat.skippedVisible checkpoint)
  | reread hprepared current =>
    -- an enrolment always has a statement
    simp only [enrollStatement, enrollAnchor, bind_eq_ok] at hprepared
    obtain ⟨_, -, _, -, _, -, _, -, hprepared⟩ := hprepared
    cases hprepared
  | applied hprepared changed current =>
    obtain ⟨rfl, rfl⟩ := returns_pure.mp hrest
    exact .ended h (.enrolled hprepared changed current)

lemma compareAnchor_returns {anchor : Numbered} (h : Overlaps chat checkpoint)
    (hcandidates : anchorCandidates chat checkpoint = [anchor])
    (hret : (service.compareAnchor chat lifecycle checkpoint bootstrapped marker anchor.2).Returns
      events out) :
    AnchorExit service chat lifecycle checkpoint bootstrapped marker events out.1 out.2 := by
  unfold compareAnchor at hret
  split at hret
  case h_1 =>
    obtain ⟨rfl, rfl⟩ := returns_done.mp hret
    exact .ended h .unreadable
  case h_2 remote hremote =>
    split at hret
    case h_1 =>
      obtain ⟨rfl, rfl⟩ := returns_done.mp hret
      exact .ended h (.stopped _ _)
    case h_2 => exact enroll_returns h hret
    case h_3 =>
      obtain ⟨rfl, rfl⟩ := returns_done.mp hret
      exact .ended h (.stopped _ _)
    case h_4 saved fingerprint hsaved =>
      split_ifs at hret with hsame
      · obtain ⟨rfl, rfl⟩ := returns_done.mp hret
        exact .started (.verified h hcandidates hremote (hsaved.trans (congrArg some hsame)))
      · exact recover_returns h hret

/-- **The anchor check inverted.** -/
theorem checkAnchor_returns
    (hret : (service.checkAnchor chat lifecycle checkpoint bootstrapped marker).Returns
      events out) :
    AnchorExit service chat lifecycle checkpoint bootstrapped marker events out.1 out.2 := by
  unfold checkAnchor at hret
  split_ifs at hret with h hregression
  · exact recover_returns h hret
  · split at hret
    case h_1 anchor hcandidates => exact compareAnchor_returns h hcandidates hret
    case h_2 =>
      obtain ⟨rfl, rfl⟩ := returns_done.mp hret
      exact .ended h (.stopped _ _)
  · obtain ⟨rfl, rfl⟩ := returns_done.mp hret
    exact .started (.disjoint h)

end Anchor

/-! ## The window -/

section Window

variable (service : WechatPollingService) (chat : ChatWindow)
  (lifecycle : WechatPollingLifecycleState)

/-- The lifecycle state when the checkpoint is read. -/
def recorded : WechatPollingLifecycleState :=
  lifecycle.recordVisibleWindow chat.key (chat.orderedMessages.map Prod.fst)

/-- The marker that the call consumes, and the state without it. -/
def taken : Option EmptyWindowMarker × WechatPollingLifecycleState :=
  (recorded chat lifecycle).takeEmptyWindow chat.key

/-- From which checkpoint, and with which marker, the anchor check starts. -/
inductive WindowStart :
    List PollEvent → WechatSyncCheckpoint → Bool → Option EmptyWindowMarker → Prop
  | loaded {checkpoint}
      (hmarker : ∀ marker ∈ (taken chat lifecycle).1, marker.MatchesCheckpoint (some checkpoint)) :
      WindowStart [⟨.select chat.key, .ok (some checkpoint)⟩] checkpoint false
        (taken chat lifecycle).1
  | initialized {created events checkpoint isNew}
      (hnew : isNew = true → checkpoint.lastLocalId = 0)
      (hinit : InitExit chat.key created events (.ok (checkpoint, isNew))) :
      WindowStart (⟨.select chat.key, .ok none⟩ :: events) checkpoint isNew none

/-- How the part of a call before the delivery loop ends. -/
inductive WindowExit : List PollEvent → WechatPollingLifecycleState → Prologue → Prop
  | unread (error : DatabaseError) :
      WindowExit [⟨.select chat.key, .error error⟩]
        ((recorded chat lifecycle).dropChatState chat.key)
        (.returned (chat.checkpointFailed .other))
  | empty {checkpoint events seen}
      (hseen : (recordEmptyWindow (recorded chat lifecycle) chat.key checkpoint).Returns
        events seen) (reason) :
      WindowExit (⟨.select chat.key, .ok (some checkpoint)⟩ :: events)
        (stopped chat seen.1 checkpoint false reason 0).1
        (stopped chat seen.1 checkpoint false reason 0).2
  | mismatched {row} (checkpoint) :
      WindowExit [⟨.select chat.key, .ok row⟩]
        (stopped chat (taken chat lifecycle).2 checkpoint false .emptyWindowMarkerMismatch
          chat.messagesSeen).1
        (stopped chat (taken chat lifecycle).2 checkpoint false .emptyWindowMarkerMismatch
          chat.messagesSeen).2
  | unstarted {events : List PollEvent} {result : ChatPollResult}
      (hresult : chat.StoreFailure result) (hfound : foundCheckpoint events = none) :
      WindowExit (⟨.select chat.key, .ok none⟩ :: events) (taken chat lifecycle).2
        (.returned result)
  | bootstrapped {created : WechatSyncCheckpoint}
      (hcreated : created.lastLocalId = chat.remoteLatestLocalId) :
      WindowExit
        [⟨.select chat.key, .ok none⟩, ⟨.select chat.key, .ok none⟩,
          ⟨.insert chat.key created, .ok ()⟩]
        (taken chat lifecycle).2 (.returned chat.skipped)
  | anchored {before checkpoint isNew marker events after prologue}
      (hstart : WindowStart chat lifecycle before checkpoint isNew marker)
      (hexit : AnchorExit service chat (taken chat lifecycle).2 checkpoint isNew marker events
        after prologue) :
      WindowExit (before ++ events) after prologue

variable {service chat lifecycle} {events : List PollEvent}
  {out : WechatPollingLifecycleState × Prologue} {isNew : Bool} {localId : Int}
  {fingerprint : Option String}

/-- The fingerprint of the newest message may raise, with a code of its own. -/
lemma fingerprint_code_ne {message : WechatMessage} (h : service.fingerprint message = .error error) :
    error.code ≠ some continuityCode := by
  have hraw : ∀ {e}, rawMessage message = .error e → e.code ≠ some continuityCode := by
    intro e he
    unfold rawMessage at he
    split at he
    · cases he
    · cases he
      decide
  rw [fingerprint, buildWechatCheckpointFingerprint] at h
  rcases bind_eq_error.mp h with hmessage | ⟨raw, -, h⟩
  · exact hraw hmessage
  · split at h
    · cases h
    · rcases bind_eq_error.mp h with htime | ⟨_, -, h⟩
      · unfold PyDatetime.toUtc at htime
        split at htime
        · cases htime
        · split_ifs at htime
          cases htime
          decide
      · cases h
    · cases h

lemma initialAnchor_code_ne (h : service.initialAnchor chat = .error error) :
    error.code ≠ some continuityCode := by
  unfold initialAnchor at h
  split at h
  case h_1 localId latest _ _ =>
    cases hfingerprint : service.fingerprint latest with
    | error e =>
      rw [hfingerprint] at h
      cases h
      exact fingerprint_code_ne hfingerprint
    | ok fingerprint =>
      rw [hfingerprint] at h
      cases h
  case h_2 => cases h

/-- `initialize` creates the row it is asked for. -/
lemma initializeCheckpoint_eq
    (h : initializeCheckpoint (.int localId) (.ofOptionStr fingerprint) = .ok created) :
    created = ⟨localId, 0, fingerprint⟩ := by
  simp only [initializeCheckpoint, bind_eq_ok, validatedCheckpointLocalId_eq_ok] at h
  obtain ⟨n, ⟨hn, -⟩, _, hfp, _, -, h⟩ := h
  cases hn
  cases eq_of_validated_fingerprint hfp
  cases h
  rfl

/-- The local id a new chat starts from. -/
lemma initialAnchor_localId (h : service.initialAnchor chat = .ok (localId, fingerprint)) :
    localId = if service.bootstrapMode = .latest then chat.remoteLatestLocalId else 0 := by
  unfold initialAnchor at h
  split at h
  case h_1 newest latest hmode hlast =>
    rw [hmode, if_pos rfl, ChatWindow.remoteLatestLocalId, hlast]
    cases hfingerprint : service.fingerprint latest with
    | error e =>
      rw [hfingerprint] at h
      cases h
    | ok fingerprint =>
      rw [hfingerprint] at h
      cases h
      rfl
  case h_2 hno =>
    cases h
    split_ifs with hmode
    · cases hlast : chat.orderedMessages.getLast? with
      | none => rw [ChatWindow.remoteLatestLocalId, hlast]; rfl
      | some newest => exact absurd hlast (hno newest.1 newest.2 hmode)
    · rfl

lemma bootstrap_returns
    (hret : (service.bootstrap chat (taken chat lifecycle).2).Returns events out) :
    WindowExit service chat lifecycle (⟨.select chat.key, .ok none⟩ :: events) out.1 out.2 := by
  unfold bootstrap at hret
  split at hret
  case h_1 error herror =>
    obtain ⟨rfl, rfl⟩ := returns_done.mp hret
    exact .unstarted ⟨error, 0, false, initialAnchor_code_ne herror, rfl⟩ rfl
  case h_2 localId fingerprint hanchor =>
    obtain ⟨first, initialized, second, rfl, hinit, hrest⟩ := returns_bind.mp hret
    unfold initializeRow at hinit
    split at hinit
    case h_1 error _ =>
      obtain ⟨rfl, rfl⟩ := returns_done.mp hinit
      obtain ⟨rfl, rfl⟩ := returns_pure.mp hrest
      exact .unstarted ⟨_, 0, false, Raised.OfStore.code_ne (Or.inr ⟨error, rfl⟩), rfl⟩ rfl
    case h_2 created hcreated =>
      obtain rfl := initializeCheckpoint_eq hcreated
      have hlocal := initialAnchor_localId hanchor
      have hexit := insertRow_returns hinit
      rcases initialized with error | ⟨checkpoint, isNew⟩
      · obtain ⟨rfl, rfl⟩ := returns_pure.mp hrest
        cases hexit with
        | raised herror hfound =>
          rw [List.append_nil]
          exact .unstarted ⟨error, 0, false, herror.code_ne, rfl⟩ hfound
      · dsimp only at hrest
        split_ifs at hrest with hlatest
        · obtain ⟨rfl, rfl⟩ := returns_pure.mp hrest
          obtain ⟨rfl, hmode⟩ := hlatest
          rw [if_pos hmode] at hlocal
          cases hexit with
          | inserted => exact .bootstrapped hlocal
        · refine .anchored (.initialized ?_ hexit) (checkAnchor_returns hrest)
          rintro rfl
          cases hexit with
          | inserted => exact hlocal.trans (if_neg fun hmode => hlatest ⟨rfl, hmode⟩)

lemma pollTaken_returns {row : Row}
    (hret : (service.pollTaken chat (recorded chat lifecycle) row).Returns events out) :
    WindowExit service chat lifecycle (⟨.select chat.key, .ok row⟩ :: events) out.1 out.2 := by
  unfold pollTaken at hret
  dsimp only at hret
  split_ifs at hret with hmismatch
  · obtain ⟨rfl, rfl⟩ := returns_done.mp hret
    exact .mismatched _
  · split at hret
    case h_1 => exact bootstrap_returns hret
    case h_2 checkpoint =>
      refine .anchored (.loaded ?_) (checkAnchor_returns hret)
      intro marker hmarker
      by_contra hbad
      exact hmismatch ⟨marker, hmarker, hbad⟩

/-- **The part before the delivery loop inverted.** -/
theorem pollWindow_returns (hret : (service.pollWindow chat lifecycle).Returns events out) :
    WindowExit service chat lifecycle events out.1 out.2 := by
  obtain ⟨row, rest, rfl, hrest⟩ := returns_call.mp hret
  rcases row with error | row
  · obtain ⟨rfl, rfl⟩ := returns_done.mp hrest
    exact .unread error
  · cases row with
    | none => exact pollTaken_returns hrest
    | some checkpoint =>
      dsimp only [pollLoaded] at hrest
      split_ifs at hrest
      · obtain ⟨first, seen, second, rfl, hseen, hlast⟩ := returns_bind.mp hrest
        obtain ⟨rfl, rfl⟩ := returns_pure.mp hlast
        rw [List.append_nil]
        exact .empty hseen _
      · exact pollTaken_returns hrest

/-- The anchor check starts from the checkpoint that was found. -/
lemma WindowStart.found {checkpoint : WechatSyncCheckpoint} {marker : Option EmptyWindowMarker}
    (h : WindowStart chat lifecycle events checkpoint isNew marker) (rest : List PollEvent) :
    foundCheckpoint (events ++ rest) = some checkpoint := by
  cases h with
  | loaded => rfl
  | initialized hnew hinit => cases hinit <;> rfl

/-- A loop is started from a checkpoint that was found, for a reason. -/
lemma WindowExit.of_start {current : WechatSyncCheckpoint} {state : WechatPollingLifecycleState}
    {prologue : Prologue} (h : WindowExit service chat lifecycle events state prologue)
    (hprologue : prologue = .start current isNew) :
    state = (taken chat lifecycle).2 ∧
      ∃ before after checkpoint bootstrapped marker, events = before ++ after ∧
        WindowStart chat lifecycle before checkpoint bootstrapped marker ∧
        Started service chat checkpoint bootstrapped marker after current isNew := by
  cases h with
  | unread | empty | mismatched | unstarted | bootstrapped => cases hprologue
  | anchored hstart hexit =>
    cases hexit with
    | started hstarted =>
      cases hprologue
      exact ⟨rfl, _, _, _, _, _, rfl, hstart, hstarted⟩
    | ended => cases hprologue

end Window

/-! ## Requests -/

/-- A request of the part before the loop: the store of this chat or the clock, and no statement
that moves the cursor within a generation. -/
def Prepares (key : ChatKey) : Request → Prop
  | .select k => k = key
  | .insert k _ => k = key
  | .update k statement =>
    k = key ∧ (statement.bumpGeneration = true ∨ statement.setLocalId = none)
  | .clock => True
  | _ => False

section Requests

variable {service : WechatPollingService} {chat : ChatWindow}
  {lifecycle : WechatPollingLifecycleState} {checkpoint : WechatSyncCheckpoint}
  {bootstrapped : Bool} {marker : Option EmptyWindowMarker} {events : List PollEvent}
  {op : Request}
  {key : ChatKey} {expId : PyValue} {statement : CasStatement}

lemma requireRow_reaches (h : (requireRow key changed).Reaches events op) :
    op = .select key ∧ events = [] := by
  rcases reaches_call.mp h with ⟨hevents, rfl⟩ | ⟨reply, rest, rfl, hrest⟩
  · exact ⟨rfl, hevents⟩
  · rcases reply with error | (_ | row) <;> exact absurd hrest reaches_done

/-- A store call sends its statement, if it has one, and reads the row. -/
lemma compareAndSwap_reaches (h : (compareAndSwap key prepared).Reaches events op) :
    op = .select key ∨
      ∃ statement, prepared = .ok (some statement) ∧ op = .update key statement ∧ events = [] := by
  rcases prepared with error | (_ | statement)
  · exact absurd h reaches_done
  · exact Or.inl (requireRow_reaches h).1
  · rcases reaches_call.mp h with ⟨hevents, rfl⟩ | ⟨reply, rest, rfl, hrest⟩
    · exact Or.inr ⟨statement, rfl, rfl, hevents⟩
    · rcases reply with error | changed
      · exact absurd hrest reaches_done
      · exact Or.inl (requireRow_reaches hrest).1

/-- A statement that leaves the cursor of the generation. -/
lemma prepares_of_swap
    (hprepared : ∀ statement, prepared = .ok (some statement) →
      statement.bumpGeneration = true ∨ statement.setLocalId = none)
    (h : (compareAndSwap key prepared).Reaches events op) : Prepares key op := by
  rcases compareAndSwap_reaches h with rfl | ⟨statement, hstatement, rfl, -⟩
  · rfl
  · exact ⟨rfl, hprepared statement hstatement⟩

lemma recoverWith_prepares {skipped : ℕ} {won : WechatSyncCheckpoint → Prologue}
    (hprepared : ∀ statement, prepared = .ok (some statement) → statement.bumpGeneration = true)
    (h : (recoverWith chat lifecycle bootstrapped prepared skipped won).Reaches events op) :
    Prepares chat.key op := by
  rcases reaches_bind.mp h with hswap | ⟨_, swapped, _, -, -, hrest⟩
  · exact prepares_of_swap (fun statement h => Or.inl (hprepared statement h)) hswap
  · rcases swapped with error | ⟨current, _ | _⟩ <;> exact absurd hrest reaches_pure

lemma rebase_prepares
    (h : (service.rebase chat lifecycle checkpoint bootstrapped).Reaches events op) :
    Prepares chat.key op := by
  unfold rebase at h
  split at h
  · exact absurd h reaches_done
  · split at h
    · exact absurd h reaches_done
    · exact absurd h reaches_done
    · exact recoverWith_prepares (fun _ hstatement => by rw [rebaseStatement_eq _ hstatement]) h

lemma liveSuffix_prepares {index : ℕ}
    (h : (service.liveSuffix chat lifecycle checkpoint bootstrapped index).Reaches events op) :
    Prepares chat.key op := by
  unfold liveSuffix at h
  split at h
  · exact absurd h reaches_done
  · split_ifs at h
    · exact absurd h reaches_done
    · exact recoverWith_prepares (fun _ hstatement => by rw [liveSuffixStatement_eq _ _ hstatement])
        h

lemma recover_prepares
    (h : (service.recover chat lifecycle checkpoint bootstrapped marker).Reaches events op) :
    Prepares chat.key op := by
  unfold recover at h
  split at h
  · exact recoverWith_prepares (fun _ hstatement => by rw [rewindStatement_eq _ _ hstatement]) h
  · exact rebase_prepares h
  · split at h
    · exact absurd h reaches_done
    · exact rebase_prepares h
    · exact liveSuffix_prepares h

lemma checkAnchor_prepares
    (h : (service.checkAnchor chat lifecycle checkpoint bootstrapped marker).Reaches events op) :
    Prepares chat.key op := by
  unfold checkAnchor at h
  split_ifs at h
  · exact recover_prepares h
  · split at h
    · unfold compareAnchor at h
      split at h
      · exact absurd h reaches_done
      · split at h
        · exact absurd h reaches_done
        · rcases reaches_bind.mp h with hswap | ⟨_, swapped, _, -, -, hrest⟩
          · refine prepares_of_swap (fun _ hstatement => Or.inr ?_) hswap
            rw [enrollStatement_eq _ hstatement]
          · rcases swapped with error | _ <;> exact absurd hrest reaches_pure
        · exact absurd h reaches_done
        · split_ifs at h
          · exact absurd h reaches_done
          · exact recover_prepares h
    · exact absurd h reaches_done
  · exact absurd h reaches_done

/-- `initialize` makes no request once it has found a row. -/
lemma insertRow_reaches (h : (insertRow key created).Reaches events op) :
    Prepares key op ∧ foundCheckpoint events = none := by
  rcases reaches_call.mp h with ⟨rfl, rfl⟩ | ⟨row, rest, rfl, hrest⟩
  · exact ⟨rfl, rfl⟩
  · rcases row with error | (_ | existing)
    · exact absurd hrest reaches_done
    · rcases reaches_call.mp hrest with ⟨rfl, rfl⟩ | ⟨reply, rest, rfl, hlast⟩
      · exact ⟨rfl, rfl⟩
      · rcases reply with (_ | _) | _
        · rcases reaches_call.mp hlast with ⟨rfl, rfl⟩ | ⟨row, rest, rfl, hreread⟩
          · exact ⟨rfl, rfl⟩
          · rcases row with error | (_ | existing) <;> exact absurd hreread reaches_done
        · exact absurd hlast reaches_done
        · exact absurd hlast reaches_done
    · exact absurd hrest reaches_done

/-- The first poll of a chat makes no request once it has found a row, if the window is empty. -/
lemma bootstrap_reaches (h : (service.bootstrap chat lifecycle).Reaches events op) :
    Prepares chat.key op ∧ (chat.orderedMessages = [] → foundCheckpoint events = none) := by
  unfold bootstrap at h
  split at h
  · exact absurd h reaches_done
  · rcases reaches_bind.mp h with hinit | ⟨_, initialized, _, -, -, hrest⟩
    · unfold initializeRow at hinit
      split at hinit
      · exact absurd hinit reaches_done
      · exact (insertRow_reaches hinit).imp_right fun hfound _ => hfound
    · rcases initialized with error | ⟨created, isNew⟩
      · exact absurd hrest reaches_pure
      · dsimp only at hrest
        split_ifs at hrest
        · exact absurd hrest reaches_pure
        · refine ⟨checkAnchor_prepares hrest, fun hempty => ?_⟩
          rw [checkAnchor, if_neg fun hoverlap => hoverlap.ne_nil hempty] at hrest
          exact absurd hrest reaches_done

lemma pollTaken_reaches {row : Row} (h : (service.pollTaken chat lifecycle row).Reaches events op) :
    Prepares chat.key op ∧
      (row = none → chat.orderedMessages = [] → foundCheckpoint events = none) := by
  unfold pollTaken at h
  dsimp only at h
  split_ifs at h
  · exact absurd h reaches_done
  · split at h
    · exact (bootstrap_reaches h).imp_right fun hfound _ => hfound
    · exact ⟨checkAnchor_prepares h, nofun⟩

/-- **The requests before the loop.** None is a sink call, and with an empty window over a positive
checkpoint the only one that is left is to the clock. -/
theorem pollWindow_reaches (h : (service.pollWindow chat lifecycle).Reaches events op) :
    Prepares chat.key op ∧
      ∀ checkpoint, service.bootstrapMode = .latest → chat.orderedMessages = [] →
        foundCheckpoint events = some checkpoint → 0 < checkpoint.lastLocalId → op = .clock := by
  rcases reaches_call.mp h with ⟨rfl, rfl⟩ | ⟨row, rest, rfl, hrest⟩
  · exact ⟨rfl, fun _ _ _ hfound => by cases hfound⟩
  · rcases row with error | (_ | row)
    · exact absurd hrest reaches_done
    · -- nothing was found yet, so this is the first poll of the chat
      obtain ⟨hprepares, hnone⟩ := pollTaken_reaches hrest
      refine ⟨hprepares, fun checkpoint _ hempty hfound => ?_⟩
      have hlater : foundCheckpoint rest = some checkpoint := hfound
      rw [hnone rfl hempty] at hlater
      cases hlater
    · dsimp only [pollLoaded] at hrest
      split_ifs at hrest with hwindow
      · rcases reaches_bind.mp hrest with hseen | ⟨_, seen, _, -, -, hlast⟩
        · unfold recordEmptyWindow at hseen
          split_ifs at hseen
          · rcases reaches_call.mp hseen with ⟨-, rfl⟩ | ⟨reading, rest, rfl, hread⟩
            · exact ⟨trivial, fun _ _ _ _ _ => rfl⟩
            · exact absurd hread reaches_done
          · exact absurd hseen reaches_done
        · exact absurd hlast reaches_pure
      · refine ⟨(pollTaken_reaches hrest).1, fun checkpoint hmode hempty hfound hpositive => ?_⟩
        obtain rfl : row = checkpoint := Option.some.inj hfound
        exact absurd ⟨hmode, hpositive, hempty⟩ hwindow

end Requests

end WechatPollingService
end AgentGateway.Polling
