import AgentGateway.Lib.Recency
import AgentGateway.Lib.Run
import AgentGateway.Polling.Lifecycle

/-!
# The lifecycle state is a bounded cache

Whatever the methods of `WechatPollingLifecycleState` are called with, and in which order, the order
of the chats covers every dictionary, has at most 1024 keys, and has them in the order of their last
touch, so that the key which is evicted is the one that was touched least recently.

The five dictionaries are one function to `Evidence` here; a key that is in none of them has the
evidence `{}`.
-/

namespace AgentGateway.Polling

open Lib Lib.Run Lib.Recency Polling.Checkpoint

namespace WechatPollingLifecycleState

/-! ## Calls -/

/-- The methods, those that only other methods call included. -/
inductive Call
  | invalidateAll
  | observeAccount (sourceAccountId : String)
  | invalidateChat (key : ChatKey)
  | pruneChats (sourceAccountId : String) (conversationIds : List String)
  | touchChatState (key : ChatKey)
  | releaseChatStateIfUnused (key : ChatKey)
  | invalidateMarkerEvidence (key : ChatKey)
  | recordVisibleWindow (key : ChatKey) (localIds : List Int)
  | observeContinuityFailure (key : ChatKey) (observation : ContinuityObservation)
  | chatResultLogLevel (sourceAccountId : String) (result : ChatPollResult)
  | recordEmptyWindow (key : ChatKey) (checkpoint : Row) (observedAt : Option Timestamp)
  | takeEmptyWindow (key : ChatKey)

/-- The state after a call. -/
def apply (state : WechatPollingLifecycleState) : Call → WechatPollingLifecycleState
  | .invalidateAll => state.invalidateAll
  | .observeAccount sourceAccountId => state.observeAccount sourceAccountId
  | .invalidateChat key => state.dropChatState key
  | .pruneChats sourceAccountId conversationIds => state.pruneChats sourceAccountId conversationIds
  | .touchChatState key => state.touchChatState key
  | .releaseChatStateIfUnused key => state.releaseChatStateIfUnused key
  | .invalidateMarkerEvidence key => state.invalidateMarkerEvidence key
  | .recordVisibleWindow key localIds => state.recordVisibleWindow key localIds
  | .observeContinuityFailure key observation => (state.observeContinuityFailure key observation).1
  | .chatResultLogLevel sourceAccountId result => (state.chatResultLogLevel sourceAccountId result).1
  | .recordEmptyWindow key checkpoint observedAt =>
    (state.recordEmptyWindow key checkpoint observedAt).1
  | .takeEmptyWindow key => (state.takeEmptyWindow key).2

/-- The key a result is logged under, if the chat is touched for it. -/
def loggedKey (sourceAccountId : String) (result : ChatPollResult) : Option ChatKey :=
  if result.continuityOnly ∨ result.hasImmediateActivity ∨ result.messagesSeen = 0 then none
  else result.conversationId.map fun conversationId => (sourceAccountId, conversationId)

/-- The key a call touches. -/
def Call.touchedKey : Call → Option ChatKey
  | .touchChatState key => some key
  | .recordVisibleWindow key _ => some key
  | .observeContinuityFailure key _ => some key
  | .recordEmptyWindow key _ _ => some key
  | .chatResultLogLevel sourceAccountId result => loggedKey sourceAccountId result
  | _ => none

/-! ## The invariant -/

/-- What holds after these touches. -/
structure Coherent (touches : List ChatKey) (state : WechatPollingLifecycleState) : Prop where
  covered : ∀ key, state.evidence key ≠ {} → key ∈ state.chatStateOrder
  bounded : state.chatStateOrder.length ≤ maxLifecycleChatStates
  byAge : ByAge touches state.chatStateOrder

variable {touches : List ChatKey} {state : WechatPollingLifecycleState} {key other : ChatKey}
  {call : Call} {sourceAccountId : String}

lemma coherent_initial : Coherent touches initial := by
  refine ⟨fun key hne => absurd rfl hne, ?_, byAge_nil⟩
  exact Nat.zero_le _

/-- Another active account makes no difference. -/
lemma Coherent.setActive (h : Coherent touches state) (account : Option String) :
    Coherent touches { state with activeSourceAccountId := account } :=
  ⟨h.covered, h.bounded, h.byAge⟩

/-- A key in the order may have any evidence. -/
lemma Coherent.modify_of_mem (h : Coherent touches state) (hmem : key ∈ state.chatStateOrder)
    (change : Evidence → Evidence) : Coherent touches (state.modify key change) := by
  refine ⟨fun other hne => ?_, h.bounded, h.byAge⟩
  by_cases hother : other = key
  · rw [hother]
    exact hmem
  · rw [modify_evidence_of_ne hother] at hne
    exact h.covered other hne

/-- Evidence may be removed anywhere. -/
lemma Coherent.modify_of_empty (h : Coherent touches state) (key : ChatKey)
    (change : Evidence → Evidence) (hchange : change {} = {}) :
    Coherent touches (state.modify key change) := by
  refine ⟨fun other hne => ?_, h.bounded, h.byAge⟩
  by_cases hother : other = key
  · subst hother
    refine h.covered other fun hempty => hne ?_
    rw [modify_evidence_self, hempty, hchange]
  · rw [modify_evidence_of_ne hother] at hne
    exact h.covered other hne

lemma popOrder_sublist : (state.popOrder key).chatStateOrder.Sublist state.chatStateOrder :=
  List.filter_sublist

lemma mem_popOrder : other ∈ (state.popOrder key).chatStateOrder ↔
    other ∈ state.chatStateOrder ∧ other ≠ key := by
  simp [popOrder]

/-- A key without evidence may leave the order. -/
lemma Coherent.popOrder (h : Coherent touches state) (hempty : state.evidence key = {}) :
    Coherent touches (state.popOrder key) := by
  refine ⟨fun other hne => mem_popOrder.mpr ⟨h.covered other hne, ?_⟩,
    popOrder_sublist.length_le.trans h.bounded, h.byAge.sublist popOrder_sublist⟩
  rintro rfl
  exact hne hempty

lemma Coherent.release (h : Coherent touches state) :
    Coherent touches (state.releaseChatStateIfUnused key) := by
  unfold releaseChatStateIfUnused
  split_ifs with hempty
  · exact h.popOrder hempty
  · exact h

lemma dropChatState_order : (state.dropChatState key).chatStateOrder =
    (state.popOrder key).chatStateOrder := rfl

lemma Coherent.drop (h : Coherent touches state) : Coherent touches (state.dropChatState key) := by
  refine ⟨fun other hne => ?_, popOrder_sublist.length_le.trans h.bounded,
    h.byAge.sublist popOrder_sublist⟩
  by_cases hother : other = key
  · rw [hother, dropChatState_evidence_self] at hne
    exact absurd rfl hne
  · rw [dropChatState_evidence_of_ne hother] at hne
    exact mem_popOrder.mpr ⟨h.covered other hne, hother⟩

lemma Coherent.prune (h : Coherent touches state) (sourceAccountId : String)
    (conversationIds : List String) :
    Coherent touches (state.pruneChats sourceAccountId conversationIds) :=
  run_invariant (fun _ _ hstate => hstate.drop) h _

lemma Coherent.invalidateMarker (h : Coherent touches state) :
    Coherent touches (state.invalidateMarkerEvidence key) :=
  (h.modify_of_empty key _ rfl).release

/-! ## Touching -/

/-- A key that is not in the order stays out of it when another one leaves. -/
lemma popOrder_of_not_mem (h : key ∉ state.chatStateOrder) : state.popOrder key = state := by
  have hfilter : state.chatStateOrder.filter (· ≠ key) = state.chatStateOrder := by
    refine List.filter_eq_self.mpr fun other hother => ?_
    have hne : other ≠ key := fun heq => h (heq ▸ hother)
    simpa using hne
  rw [popOrder, hfilter]

lemma dropChatState_order_cons {oldest : ChatKey} {rest : List ChatKey}
    (horder : state.chatStateOrder = oldest :: rest) (h : state.chatStateOrder.Nodup) :
    (state.dropChatState oldest).chatStateOrder = rest := by
  rw [horder, List.nodup_cons] at h
  rw [dropChatState_order, popOrder, horder]
  have hrest : rest.filter (· ≠ oldest) = rest := by
    refine List.filter_eq_self.mpr fun other hother => ?_
    have hne : other ≠ oldest := fun heq => h.1 (heq ▸ hother)
    simpa using hne
  simpa using hrest

/-- What a touch does: it moves the key to the end, and if there is no room for it, it takes
everything from the first key. -/
lemma touchChatState_cases (h : state.chatStateOrder.Nodup) :
    ((key ∈ state.chatStateOrder ∨ state.chatStateOrder.length < maxLifecycleChatStates) ∧
      (state.touchChatState key).evidence = state.evidence ∧
      (state.touchChatState key).chatStateOrder = (state.popOrder key).chatStateOrder ++ [key]) ∨
    (key ∉ state.chatStateOrder ∧ maxLifecycleChatStates ≤ state.chatStateOrder.length ∧
      ∃ oldest rest, state.chatStateOrder = oldest :: rest ∧
        (state.touchChatState key).evidence = (state.dropChatState oldest).evidence ∧
        (state.touchChatState key).chatStateOrder = rest ++ [key]) := by
  by_cases hmem : key ∈ state.chatStateOrder
  · refine Or.inl ⟨Or.inl hmem, ?_, ?_⟩ <;> simp only [touchChatState, if_pos hmem]
    rfl
  by_cases hfull : maxLifecycleChatStates ≤ state.chatStateOrder.length
  · refine Or.inr ⟨hmem, hfull, ?_⟩
    cases horder : state.chatStateOrder with
    | nil =>
      rw [horder] at hfull
      exact absurd hfull (by decide)
    | cons oldest rest =>
      have hevicted : state.evictOldest = state.dropChatState oldest := by
        unfold evictOldest
        split
        · rename_i hnil
          rw [hnil] at horder
          cases horder
        · rename_i hcons
          rw [hcons] at horder
          cases horder
          exact if_pos hfull
      refine ⟨oldest, rest, rfl, ?_, ?_⟩
      · simp only [touchChatState, if_neg hmem, hevicted]
      · simp only [touchChatState, if_neg hmem, hevicted, dropChatState_order_cons horder h]
  · have hkept : state.evictOldest = state := by
      unfold evictOldest
      split
      · rfl
      · exact if_neg hfull
    refine Or.inl ⟨Or.inr (not_le.mp hfull), ?_, ?_⟩
    · simp only [touchChatState, if_neg hmem, hkept]
    · simp only [touchChatState, if_neg hmem, hkept, popOrder_of_not_mem hmem]

/-- A touched key is in the order. -/
lemma mem_touchChatState : key ∈ (state.touchChatState key).chatStateOrder :=
  List.mem_append_right _ (List.mem_singleton_self key)

lemma Coherent.touch (h : Coherent touches state) :
    Coherent (touches ++ [key]) (state.touchChatState key) := by
  have hbounded := h.bounded
  rcases touchChatState_cases h.byAge.nodup with
    ⟨hroom, hevidence, horder⟩ | ⟨hnot, hfull, oldest, rest, hcons, hevidence, horder⟩
  · have hkey : key ∉ (state.popOrder key).chatStateOrder := fun hin => (mem_popOrder.mp hin).2 rfl
    refine ⟨fun other hne => ?_, ?_, ?_⟩
    · rw [hevidence] at hne
      rw [horder, List.mem_append, List.mem_singleton]
      by_cases hother : other = key
      · exact Or.inr hother
      · exact Or.inl (mem_popOrder.mpr ⟨h.covered other hne, hother⟩)
    · rw [horder, List.length_append, List.length_singleton]
      rcases hroom with hmem | hlt
      · have hlt : (state.popOrder key).chatStateOrder.length < state.chatStateOrder.length := by
          refine popOrder_sublist.length_le.lt_of_ne fun heq => hkey ?_
          rwa [popOrder_sublist.eq_of_length heq]
        omega
      · have hle : (state.popOrder key).chatStateOrder.length ≤ state.chatStateOrder.length :=
          popOrder_sublist.length_le
        omega
    · rw [horder]
      exact (h.byAge.sublist popOrder_sublist).use hkey
  · have hrest : rest.Sublist state.chatStateOrder := by
      rw [hcons]
      exact List.sublist_cons_self oldest rest
    refine ⟨fun other hne => ?_, ?_, ?_⟩
    · rw [hevidence] at hne
      have hother : other ≠ oldest := by
        rintro rfl
        exact hne dropChatState_evidence_self
      rw [dropChatState_evidence_of_ne hother] at hne
      have hmem := h.covered other hne
      rw [hcons, List.mem_cons] at hmem
      rw [horder]
      exact List.mem_append_left _ (hmem.resolve_left hother)
    · rw [hcons, List.length_cons] at hbounded
      rw [horder, List.length_append, List.length_singleton]
      exact hbounded
    · rw [horder]
      exact (h.byAge.sublist hrest).use fun hin => hnot (hrest.subset hin)

lemma Coherent.touch_modify (h : Coherent touches state) (key : ChatKey)
    (change : Evidence → Evidence) :
    Coherent (touches ++ [key]) ((state.touchChatState key).modify key change) :=
  h.touch.modify_of_mem mem_touchChatState change

/-! ## One call -/

lemma Coherent.observeEmpty (h : Coherent touches state) (hmem : key ∈ state.chatStateOrder)
    (checkpoint : WechatSyncCheckpoint) (observedAt : Option Timestamp) :
    Coherent touches (state.observeEmptyWindow key checkpoint observedAt).1 := by
  unfold observeEmptyWindow
  split
  · exact h.invalidateMarker
  split_ifs
  · exact h.invalidateMarker
  have hwatched : ∀ reading, Coherent touches (state.modify key fun evidence =>
    { evidence with clockWatermark := some reading }) := fun _ => h.modify_of_mem hmem _
  dsimp only
  split
  · split_ifs
    · exact (hwatched _).invalidateMarker
    · dsimp only
      exact (hwatched _).modify_of_mem hmem _
    · exact (hwatched _).invalidateMarker
  · dsimp only
    exact (hwatched _).modify_of_mem hmem _

lemma Coherent.recordEmpty (h : Coherent touches state) (checkpoint : Row)
    (observedAt : Option Timestamp) :
    Coherent (touches ++ [key]) (state.recordEmptyWindow key checkpoint observedAt).1 := by
  unfold recordEmptyWindow
  cases checkpoint with
  | none => exact h.touch.invalidateMarker
  | some checkpoint =>
    dsimp only
    split_ifs
    · exact h.touch.observeEmpty mem_touchChatState checkpoint observedAt
    · exact h.touch.invalidateMarker

lemma loggedKey_eq_none {result : ChatPollResult}
    (h : result.continuityOnly ∨ result.hasImmediateActivity ∨ result.messagesSeen = 0) :
    loggedKey sourceAccountId result = none :=
  if_pos h

lemma Coherent.logLevel (h : Coherent touches state) (sourceAccountId : String)
    (result : ChatPollResult) :
    Coherent (touches ++ (loggedKey sourceAccountId result).toList)
      (state.chatResultLogLevel sourceAccountId result).1 := by
  unfold chatResultLogLevel
  cases hid : result.conversationId with
  | none =>
    rw [loggedKey, hid, Option.map_none, ite_self, Option.toList_none, List.append_nil]
    exact h
  | some conversationId =>
    set key : ChatKey := (sourceAccountId, conversationId) with hkey
    have hpopped := h.modify_of_empty key (fun evidence => { evidence with pendingWindow := none }) rfl
    have hresumed := hpopped.modify_of_empty key (fun evidence => { evidence with continuity := none })
      rfl
    dsimp only
    by_cases honly : result.continuityOnly = true
    · rw [if_pos honly, loggedKey_eq_none (Or.inl honly), Option.toList_none, List.append_nil]
      dsimp only
      exact hpopped.modify_of_empty key _ rfl
    rw [if_neg honly]
    by_cases hactivity : result.hasImmediateActivity = true
    · rw [if_pos hactivity, loggedKey_eq_none (Or.inr (Or.inl hactivity)), Option.toList_none,
        List.append_nil]
      exact (hresumed.modify_of_empty key _ rfl).release
    rw [if_neg hactivity]
    by_cases hseen : result.messagesSeen = 0
    · rw [if_pos hseen, loggedKey_eq_none (Or.inr (Or.inr hseen)), Option.toList_none,
        List.append_nil]
      exact (hresumed.modify_of_empty key _ rfl).release
    · rw [if_neg hseen, loggedKey, if_neg (by simp [honly, hactivity, hseen]), hid]
      dsimp only
      exact hresumed.touch_modify key _

/-- A call that touches nothing adds nothing to the touches. -/
lemma Coherent.untouched (h : Coherent touches state) (hcall : call.touchedKey = none) :
    Coherent (touches ++ call.touchedKey.toList) state := by
  rw [hcall, Option.toList_none, List.append_nil]
  exact h

/-- Every call keeps the state coherent. -/
theorem Coherent.of_apply (h : Coherent touches state) (call : Call) :
    Coherent (touches ++ call.touchedKey.toList) (state.apply call) := by
  cases call with
  | invalidateAll => exact coherent_initial
  | observeAccount account =>
    refine Coherent.untouched ?_ rfl
    rw [apply, observeAccount]
    split_ifs
    · exact coherent_initial.setActive _
    · exact h
  | invalidateChat key => exact Coherent.untouched h.drop rfl
  | pruneChats account conversationIds =>
    exact Coherent.untouched (h.prune account conversationIds) rfl
  | touchChatState key => exact h.touch
  | releaseChatStateIfUnused key => exact Coherent.untouched h.release rfl
  | invalidateMarkerEvidence key => exact Coherent.untouched h.invalidateMarker rfl
  | recordVisibleWindow key localIds =>
    rw [apply, recordVisibleWindow]
    exact h.touch_modify key _
  | observeContinuityFailure key observation =>
    rw [apply, observeContinuityFailure]
    dsimp only
    exact h.touch_modify key _
  | chatResultLogLevel account result => exact h.logLevel account result
  | recordEmptyWindow key checkpoint observedAt => exact h.recordEmpty checkpoint observedAt
  | takeEmptyWindow key =>
    refine Coherent.untouched ?_ rfl
    rw [apply, takeEmptyWindow]
    dsimp only
    exact h.modify_of_empty key _ rfl

/-! ## What a touch does to the other keys -/

/-- Nothing is known about a key. -/
structure NoTrace (key : ChatKey) (state : WechatPollingLifecycleState) : Prop where
  evidence : state.evidence key = {}
  order : key ∉ state.chatStateOrder

/-- Nothing has changed for a key. -/
structure Same (key : ChatKey) (state state' : WechatPollingLifecycleState) : Prop where
  evidence : state'.evidence key = state.evidence key
  order : key ∈ state'.chatStateOrder ↔ key ∈ state.chatStateOrder

section Same

variable {state' state'' : WechatPollingLifecycleState}

lemma Same.refl : Same key state state := ⟨rfl, Iff.rfl⟩

lemma Same.trans (h : Same key state state') (h' : Same key state' state'') :
    Same key state state'' :=
  ⟨h'.evidence.trans h.evidence, h'.order.trans h.order⟩

lemma NoTrace.of_same (h : NoTrace key state) (hsame : Same key state state') :
    NoTrace key state' :=
  ⟨hsame.evidence.trans h.evidence, fun hmem => h.order (hsame.order.mp hmem)⟩

lemma same_modify (h : other ≠ key) (change : Evidence → Evidence) :
    Same other state (state.modify key change) :=
  ⟨modify_evidence_of_ne h, Iff.rfl⟩

lemma same_release (h : other ≠ key) : Same other state (state.releaseChatStateIfUnused key) := by
  refine ⟨by rw [releaseChatStateIfUnused_evidence], ?_⟩
  unfold releaseChatStateIfUnused
  split_ifs
  · exact mem_popOrder.trans (and_iff_left h)
  · exact Iff.rfl

lemma same_invalidateMarker (h : other ≠ key) :
    Same other state (state.invalidateMarkerEvidence key) :=
  (same_modify h _).trans (same_release h)

lemma same_observeEmpty (h : other ≠ key) (checkpoint : WechatSyncCheckpoint)
    (observedAt : Option Timestamp) :
    Same other state (state.observeEmptyWindow key checkpoint observedAt).1 := by
  unfold observeEmptyWindow
  split
  · exact same_invalidateMarker h
  split_ifs
  · exact same_invalidateMarker h
  dsimp only
  split
  · split_ifs
    · exact (same_modify h _).trans (same_invalidateMarker h)
    · dsimp only
      exact (same_modify h _).trans (same_modify h _)
    · exact (same_modify h _).trans (same_invalidateMarker h)
  · dsimp only
    exact (same_modify h _).trans (same_modify h _)

/-- What a call that touches a key does to all others: nothing, if there is room for the key;
otherwise everything is taken from the one whose last touch is the oldest, and nothing from the
rest. -/
structure TouchEffect (touches : List ChatKey) (key : ChatKey)
    (state state' : WechatPollingLifecycleState) : Prop where
  room : key ∈ state.chatStateOrder ∨ state.chatStateOrder.length < maxLifecycleChatStates →
    ∀ other, other ≠ key → Same other state state'
  evict : key ∉ state.chatStateOrder → maxLifecycleChatStates ≤ state.chatStateOrder.length →
    ∃ oldest ∈ state.chatStateOrder,
      (∀ other ∈ state.chatStateOrder, other ≠ oldest → age touches other < age touches oldest) ∧
      NoTrace oldest state' ∧
      ∀ other, other ≠ oldest → other ≠ key → Same other state state'

lemma touchEffect_touch (h : Coherent touches state) :
    TouchEffect touches key state (state.touchChatState key) := by
  have hbyAge := h.byAge
  rcases touchChatState_cases h.byAge.nodup with
    ⟨hroom, hevidence, horder⟩ | ⟨hnot, hfull, oldest, rest, hcons, hevidence, horder⟩
  · refine ⟨fun _ other hother => ⟨congrFun hevidence other, ?_⟩, fun hnot hfull => ?_⟩
    · rw [horder, List.mem_append, List.mem_singleton, mem_popOrder]
      tauto
    · rcases hroom with hmem | hlt
      · exact absurd hmem hnot
      · omega
  · refine ⟨fun hroom => ?_, fun _ _ => ⟨oldest, ?_, fun other hother hne => ?_, ⟨?_, ?_⟩, ?_⟩⟩
    · rcases hroom with hmem | hlt
      · exact absurd hmem hnot
      · omega
    · rw [hcons]
      exact List.mem_cons_self
    · rw [hcons] at hbyAge hother
      exact hbyAge.head other ((List.mem_cons.mp hother).resolve_left hne)
    · rw [hevidence, dropChatState_evidence_self]
    · have hnodup := h.byAge.nodup
      rw [hcons, List.nodup_cons] at hnodup
      rw [hcons, List.mem_cons, not_or] at hnot
      rw [horder, List.mem_append, List.mem_singleton, not_or]
      exact ⟨hnodup.1, fun heq => hnot.1 heq.symm⟩
    · intro other hne hother
      refine ⟨by rw [hevidence, dropChatState_evidence_of_ne hne], ?_⟩
      rw [horder, hcons, List.mem_append, List.mem_singleton, List.mem_cons]
      tauto

/-- Before and after the touch, the call may do anything to the key itself. -/
lemma TouchEffect.around {before after : WechatPollingLifecycleState}
    (h : TouchEffect touches key before after)
    (horder : before.chatStateOrder = state.chatStateOrder)
    (hbefore : ∀ other, other ≠ key → Same other state before)
    (hafter : ∀ other, other ≠ key → Same other after state') :
    TouchEffect touches key state state' := by
  have hroom := h.room
  have hevict := h.evict
  rw [horder] at hroom hevict
  refine ⟨fun hcase other hother => ?_, fun hnot hfull => ?_⟩
  · exact ((hbefore other hother).trans (hroom hcase other hother)).trans (hafter other hother)
  · obtain ⟨oldest, hmem, hoverall, htrace, hrest⟩ := hevict hnot hfull
    have hne : oldest ≠ key := fun heq => hnot (heq ▸ hmem)
    refine ⟨oldest, hmem, hoverall, htrace.of_same (hafter oldest hne), fun other hother hkey => ?_⟩
    exact ((hbefore other hkey).trans (hrest other hother hkey)).trans (hafter other hkey)

/-- The only thing a call does to other keys is the eviction. -/
lemma touchEffect_apply (h : Coherent touches state) (htouched : call.touchedKey = some key) :
    TouchEffect touches key state (state.apply call) := by
  have hplain : ∀ {state' : WechatPollingLifecycleState},
      (∀ other, other ≠ key → Same other (state.touchChatState key) state') →
        TouchEffect touches key state state' := by
    intro state' hafter
    exact (touchEffect_touch h).around rfl (fun _ _ => Same.refl) hafter
  cases call with
  | touchChatState key' =>
    cases htouched
    exact touchEffect_touch h
  | recordVisibleWindow key' localIds =>
    cases htouched
    refine hplain fun other hother => ?_
    dsimp only [apply, recordVisibleWindow]
    exact same_modify hother _
  | observeContinuityFailure key' observation =>
    cases htouched
    refine hplain fun other hother => ?_
    dsimp only [apply, observeContinuityFailure]
    exact same_modify hother _
  | recordEmptyWindow key' checkpoint observedAt =>
    cases htouched
    refine hplain fun other hother => ?_
    unfold apply recordEmptyWindow
    dsimp only
    split
    · exact same_invalidateMarker hother
    · split_ifs
      · exact same_observeEmpty hother _ _
      · exact same_invalidateMarker hother
  -- it forgets two kinds of evidence before it touches the chat
  | chatResultLogLevel account result =>
    rw [Call.touchedKey, loggedKey] at htouched
    split_ifs at htouched with hquiet
    push Not at hquiet
    obtain ⟨honly, hactivity, hseen⟩ := hquiet
    obtain ⟨conversationId, hid, rfl⟩ := Option.map_eq_some_iff.mp htouched
    rw [apply, chatResultLogLevel, hid]
    dsimp only
    rw [if_neg honly, if_neg hactivity, if_neg hseen]
    have hbefore : Coherent touches ((state.modify (account, conversationId) fun evidence =>
        { evidence with pendingWindow := none }).modify (account, conversationId) fun evidence =>
          { evidence with continuity := none }) :=
      (h.modify_of_empty _ _ rfl).modify_of_empty _ _ rfl
    refine (touchEffect_touch hbefore).around rfl (fun other hother => ?_) fun other hother => ?_
    · exact (same_modify hother _).trans (same_modify hother _)
    · dsimp only
      exact same_modify hother _
  | invalidateAll | observeAccount | invalidateChat | pruneChats | releaseChatStateIfUnused
    | invalidateMarkerEvidence | takeEmptyWindow => cases htouched

end Same

/-! ## Invalidating -/

lemma noTrace_drop : NoTrace key (state.dropChatState key) :=
  ⟨dropChatState_evidence_self, fun hmem => (mem_popOrder.mp hmem).2 rfl⟩

lemma noTrace_initial : NoTrace key initial := ⟨rfl, List.not_mem_nil⟩

/-- A key that is gone stays gone when others are dropped. -/
lemma NoTrace.drop (h : NoTrace key state) : NoTrace key (state.dropChatState other) := by
  by_cases hother : key = other
  · rw [hother]
    exact noTrace_drop
  · exact ⟨(dropChatState_evidence_of_ne hother).trans h.evidence,
      fun hmem => h.order (mem_popOrder.mp hmem).1⟩

/-- Dropping some keys leaves no trace of any of them. -/
lemma noTrace_foldl_drop {keys : List ChatKey} (hmem : key ∈ keys) :
    NoTrace key (keys.foldl dropChatState state) := by
  induction keys generalizing state with
  | nil => cases hmem
  | cons first keys ih =>
    rw [List.foldl_cons]
    by_cases hlater : key ∈ keys
    · exact ih hlater
    · obtain rfl := (List.mem_cons.mp hmem).resolve_right hlater
      have hrun : NoTrace key (run dropChatState (state.dropChatState key) keys) :=
        run_invariant (fun _ _ hstate => hstate.drop) noTrace_drop keys
      exact hrun

lemma noTrace_prune (h : Coherent touches state) {conversationIds : List String}
    (haccount : key.1 = sourceAccountId) (hdropped : key.2 ∉ conversationIds) :
    NoTrace key (state.pruneChats sourceAccountId conversationIds) := by
  by_cases hmem : key ∈ state.chatStateOrder
  · exact noTrace_foldl_drop (List.mem_filter.mpr ⟨hmem, by simp [haccount, hdropped]⟩)
  · have hbefore : NoTrace key state := by
      refine ⟨?_, hmem⟩
      by_contra hne
      exact hmem (h.covered key hne)
    exact run_invariant (fun _ _ hstate => hstate.drop) hbefore _

/-! ## All calls -/

/-- The state after a sequence of calls, and the touches in it. -/
lemma coherent_run (calls : List Call) :
    Coherent (calls.filterMap Call.touchedKey) (run apply initial calls) := by
  refine run_history_invariant (P := fun calls state =>
    Coherent (calls.filterMap Call.touchedKey) state) coherent_initial (fun pre call h => ?_) calls
  rw [List.filterMap_append]
  have happly := h.of_apply call
  cases hkey : call.touchedKey with
  | none =>
    rw [hkey] at happly
    simpa [hkey] using happly
  | some key =>
    rw [hkey] at happly
    simpa [hkey] using happly

/-- After any calls with any keys: the order has every key that any dictionary has; it has at most
1024, so that no dictionary has more; a chat that is invalidated, one by one, with its account or
with everything, leaves no trace; and a call touches its own key and evicts, if there is no room,
the key whose last touch is the oldest, leaving no trace of it and everything of the others. -/
theorem lifecycle_coherent (calls : List Call) :
    let state := run apply initial calls
    (∀ key, state.evidence key ≠ {} → key ∈ state.chatStateOrder) ∧
    state.chatStateOrder.Nodup ∧ state.chatStateOrder.length ≤ 1024 ∧
    (∀ keys : Finset ChatKey, (∀ key ∈ keys, state.evidence key ≠ {}) → keys.card ≤ 1024) ∧
    (∀ key, NoTrace key (state.apply (.invalidateChat key))) ∧
    (∀ key, NoTrace key (state.apply .invalidateAll)) ∧
    (∀ key account, state.activeSourceAccountId ≠ some account →
      NoTrace key (state.apply (.observeAccount account))) ∧
    (∀ key account conversationIds, key.1 = account → key.2 ∉ conversationIds →
      NoTrace key (state.apply (.pruneChats account conversationIds))) ∧
    ∀ call key, call.touchedKey = some key →
      TouchEffect (calls.filterMap Call.touchedKey) key state (state.apply call) := by
  have h := coherent_run calls
  refine ⟨h.covered, h.byAge.nodup, h.bounded, fun keys hkeys => ?_, fun key => noTrace_drop,
    fun key => noTrace_initial, fun key account hactive => ?_, fun key account ids => noTrace_prune h,
    fun call key => touchEffect_apply h⟩
  · have hsubset : keys ⊆ (run apply initial calls).chatStateOrder.toFinset :=
      fun key hkey => List.mem_toFinset.mpr (h.covered key (hkeys key hkey))
    calc keys.card ≤ (run apply initial calls).chatStateOrder.toFinset.card :=
          Finset.card_le_card hsubset
      _ = (run apply initial calls).chatStateOrder.length := List.toFinset_card_of_nodup h.byAge.nodup
      _ ≤ 1024 := h.bounded
  · rw [apply, observeAccount, if_pos hactive]
    exact ⟨rfl, List.not_mem_nil⟩

end WechatPollingLifecycleState

end AgentGateway.Polling
