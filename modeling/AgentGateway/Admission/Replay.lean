import AgentGateway.Admission.Authority
import AgentGateway.Admission.Columns
import AgentGateway.Admission.Targets

/-!
# Replaying an admission

Whatever `admit` returns can be recorded, and is read back from the record as it was. A later call on
the message reads the record before anything else, so it repeats the decision without looking at the
policies or routes of its own time.

The identifiers of identities, workspaces and threads are random UUIDs; here it is enough that none
of them is blank.
-/

namespace AgentGateway.Admission

open Lib Lib.Table Lib.Program Access Workspace
open AgentGateway.Dispatch (AIThread EmployeeWorkspace ThreadType HermesDispatchRecord DispatchTarget
  dispatchTarget requiredTargetId compatibleRecordOrRaise existingFor)

/-! ## Identifiers -/

/-- The identifiers in a reply are not blank. -/
def NonblankIds : AdmitEvent → Prop
  | ⟨.readAccess, read⟩ => ∀ identity ∈ read.1.identities, ¬ IsBlank identity.id
  | ⟨.selectWorkspace _, reply⟩ => ∀ workspace ∈ reply, ¬ IsBlank workspace.id
  | ⟨.selectThread _, reply⟩ => ∀ thread ∈ reply, ¬ IsBlank thread.id
  | ⟨.getThread _, reply⟩ => ∀ thread ∈ reply, ¬ IsBlank thread.id
  | ⟨.uuid, id⟩ => ¬ IsBlank id
  | _ => True

instance : DecidablePred NonblankIds := fun ⟨request, reply⟩ => by
  cases request <;> unfold NonblankIds <;> infer_instance

section

variable {events : List AdmitEvent} {workspaceId key id : String}

/-- A row that was found or created: it comes from the look-up or has a new identifier. -/
lemma ensure_ok {α : Type} {select : Admit (Option α)} {create : String → α}
    {insert : α → Admit Bool} {ensured : α × Bool}
    (h : Returns (ensure select create insert) events (.ok ensured)) :
    (∃ part, part ⊆ events ∧ Returns select part (.ok (some ensured.1))) ∨
      ∃ id, (⟨.uuid, id⟩ : AdmitEvent) ∈ events ∧ ensured.1 = create id := by
  obtain ⟨first, existing, rest, rfl, hselect, hrest⟩ := returns_bindOk_ok.mp h
  cases existing with
  | some row =>
    obtain ⟨rfl, rfl⟩ := returns_give.mp hrest
    exact Or.inl ⟨first, List.subset_append_left _ _, hselect⟩
  | none =>
    obtain ⟨second, id, rest, rfl, hid, hinserting⟩ := returns_bindOk_ok.mp hrest
    obtain ⟨third, committed, rest, rfl, -, hinserted⟩ := returns_bindOk_ok.mp hinserting
    rw [returns_ask] at hid
    split at hinserted
    · obtain ⟨rfl, rfl⟩ := returns_give.mp hinserted
      exact Or.inr ⟨id, by simp [hid], rfl⟩
    · obtain ⟨fourth, again, rest, rfl, hselect', hlast⟩ := returns_bindOk_ok.mp hinserted
      cases again with
      | some row =>
        obtain ⟨rfl, rfl⟩ := returns_give.mp hlast
        refine Or.inl ⟨fourth, fun event hevent => ?_, hselect'⟩
        simp [hevent]
      | none => exact absurd hlast returns_raise

lemma ensureWorkspaceForAuthorizedIdentity_id {workspace : EmployeeWorkspace}
    (h : Returns (ensureWorkspaceForAuthorizedIdentity id) events (.ok workspace))
    (hids : ∀ event ∈ events, NonblankIds event) : ¬ IsBlank workspace.id := by
  obtain ⟨first, identity, rest, rfl, -, hrest⟩ := returns_bindOk_ok.mp h
  cases identity with
  | none => exact absurd hrest returns_raise
  | some identity =>
    dsimp only at hrest
    split at hrest
    · exact absurd hrest returns_raise
    · obtain ⟨second, ensured, last, rfl, hensure, hlast⟩ := returns_bindOk_ok.mp hrest
      split at hlast
      · exact absurd hlast returns_raise
      · obtain ⟨rfl, rfl⟩ := returns_give.mp hlast
        rcases ensure_ok hensure with ⟨part, hpart, hselect⟩ | ⟨uuid, huuid, hcreated⟩
        · rw [returns_ask] at hselect
          subst hselect
          have hevent := hpart (List.mem_singleton_self _)
          exact hids ⟨.selectWorkspace identity.id, some ensured.1⟩ (by simp [hevent]) _ rfl
        · rw [hcreated]
          exact hids ⟨.uuid, uuid⟩ (by simp [huuid])

lemma ensureThread_id {type : ThreadType} {ensured : AIThread × Bool}
    (h : Returns (ensureThread workspaceId type key) events (.ok ensured))
    (hids : ∀ event ∈ events, NonblankIds event) : ¬ IsBlank ensured.1.id := by
  obtain ⟨first, ensured', rest, rfl, hensure, hrest⟩ := returns_bindOk_ok.mp h
  split at hrest
  · exact absurd hrest returns_raise
  · obtain ⟨rfl, rfl⟩ := returns_give.mp hrest
    rcases ensure_ok hensure with ⟨part, hpart, hselect⟩ | ⟨uuid, huuid, hcreated⟩
    · rw [returns_ask] at hselect
      subst hselect
      have hevent := hpart (List.mem_singleton_self _)
      exact hids ⟨.selectThread key, some ensured'.1⟩ (by simp [hevent]) _ rfl
    · rw [hcreated]
      exact hids ⟨.uuid, uuid⟩ (by simp [huuid])

variable {thread : AIThread}

lemma boundThread_id {aiThreadId : String} {type : ThreadType}
    (h : Returns (boundThread aiThreadId type) events (.ok thread))
    (hids : ∀ event ∈ events, NonblankIds event) : ¬ IsBlank thread.id := by
  obtain ⟨first, reply, rest, rfl, hget, hrest⟩ := returns_bindOk_ok.mp h
  rw [returns_ask] at hget
  subst hget
  cases reply with
  | none => exact absurd hrest returns_raise
  | some found =>
    dsimp only at hrest
    split at hrest
    · exact absurd hrest returns_raise
    · obtain ⟨rfl, rfl⟩ := returns_give.mp hrest
      exact hids ⟨.getThread aiThreadId, some found⟩ (by simp) found rfl

lemma bindNewThread_id {request : AuthorizedThreadRequest}
    (h : Returns (bindNewThread request workspaceId key) events (.ok thread))
    (hids : ∀ event ∈ events, NonblankIds event) : ¬ IsBlank thread.id := by
  obtain ⟨first, ensured, rest, rfl, hensure, hensured⟩ := returns_bindOk_ok.mp h
  obtain ⟨second, bound, rest, rfl, -, hbound⟩ := returns_bindOk_ok.mp hensured
  split at hbound
  · obtain ⟨rfl, rfl⟩ := returns_give.mp hbound
    exact ensureThread_id hensure fun event hevent => hids event (by simp [hevent])
  · split at hbound
    · obtain ⟨third, discarded, rest, rfl, -, hlast⟩ := returns_bindOk_ok.mp hbound
      exact boundThread_id hlast fun event hevent => hids event (by simp [hevent])
    · exact boundThread_id hbound fun event hevent => hids event (by simp [hevent])

lemma ensureThreadForAuthorizedRequest_id {codec : KeyCodec}
    {platform account conversation sender : String} {type : ThreadType}
    (h : Returns (ensureThreadForAuthorizedRequest codec id platform account conversation type
      sender) events (.ok thread)) (hids : ∀ event ∈ events, NonblankIds event) :
    ¬ IsBlank thread.id := by
  obtain ⟨first, request, rest, rfl, -, hrequest⟩ := returns_bindOk_ok.mp h
  obtain ⟨second, workspace, rest, rfl, -, hworkspace⟩ := returns_bindOk_ok.mp hrequest
  obtain ⟨third, key, rest, rfl, -, hkey⟩ := returns_bindOk_ok.mp hworkspace
  obtain ⟨fourth, found, rest, rfl, hthread, hlast⟩ := returns_bindOk_ok.mp hkey
  obtain ⟨fifth, binding, sixth, rfl, -, hfound⟩ := returns_bindOk_ok.mp hthread
  split at hlast
  · exact absurd hlast returns_raise
  · obtain ⟨rfl, rfl⟩ := returns_give.mp hlast
    cases binding with
    | some binding =>
      exact boundThread_id hfound fun event hevent => hids event (by simp [hevent])
    | none => exact bindNewThread_id hfound fun event hevent => hids event (by simp [hevent])

lemma bindV2RouteSnapshot_id {bound : AIThread} {agentProfileId : String}
    {policy : Dispatch.ThreadPolicy}
    (h : Returns (bindV2RouteSnapshot thread agentProfileId policy) events (.ok bound))
    (hids : ∀ event ∈ events, NonblankIds event) : ¬ IsBlank bound.id := by
  unfold bindV2RouteSnapshot at h
  split at h
  · exact absurd h returns_raise
  · obtain ⟨first, bindReply, rest, rfl, -, hupdated⟩ := returns_bindOk_ok.mp h
    obtain ⟨second, refreshed, rest, rfl, hget, hlast⟩ := returns_bindOk_ok.mp hupdated
    rw [returns_ask] at hget
    subst hget
    cases refreshed with
    | none => exact absurd hlast returns_raise
    | some found =>
      dsimp only at hlast
      split at hlast
      · exact absurd hlast returns_raise
      · obtain ⟨rfl, rfl⟩ := returns_give.mp hlast
        exact hids ⟨.getThread thread.id, some found⟩ (by simp) found rfl

end

/-! ## Outcomes that can be recorded -/

/-- What the outcomes of `admit` have in common. -/
structure Recordable (outcome : AdmissionOutcome) : Prop where
  allowed : outcome.admitted = true → outcome.reason = .allowed ∧
    outcome.shouldCreateTask = true ∧ ∃ id workspaceId aiThreadId,
      outcome.enterpriseIdentityId = some id ∧ outcome.workspaceId = some workspaceId ∧
      outcome.aiThreadId = some aiThreadId ∧ ¬ IsBlank id ∧ ¬ IsBlank workspaceId ∧
      ¬ IsBlank aiThreadId
  denied : outcome.admitted = false → outcome.reason ≠ .allowed ∧
    outcome.reason ≠ .legacyUnresolved ∧ outcome.shouldCreateTask = false ∧
    outcome.workspaceId = none ∧ outcome.aiThreadId = none
  authorization : ∀ authorization ∈ outcome.authorization,
    authorization.allowed = outcome.admitted ∧
      outcome.enterpriseIdentityId = authorization.enterpriseIdentityId
  mode : outcome.route.routingMode ∈ ["none", "v1", "v2", "legacy"]

variable {candidate : AdmissionCandidate} {setup : Setup} {events : List AdmitEvent}
  {outcome : AdmissionOutcome}

lemma preprocessingReason_ne {reason : AdmissionReason}
    (h : preprocessingReason candidate = some reason) :
    reason ≠ .allowed ∧ reason ≠ .legacyUnresolved := by
  unfold preprocessingReason at h
  split_ifs at h <;> cases h <;> exact ⟨by decide, by decide⟩

/-- Every outcome of `admit` can be recorded. -/
lemma admit_recordable (h : Returns (admitCandidate setup candidate) events (.ok outcome))
    (hids : ∀ event ∈ events, NonblankIds event) : Recordable outcome := by
  cases admit_ok h with
  | preprocessed hreason =>
    refine ⟨fun hadmitted => ?_, fun _ => ?_, fun _ hmem => ?_,
      by simp [preprocessingDenial, RouteEvidence.empty]⟩
    · cases hadmitted
    · exact ⟨(preprocessingReason_ne hreason).1, (preprocessingReason_ne hreason).2, rfl, rfl, rfl⟩
    · cases hmem
  | @denied tables now evaluation hreason hevaluate hallowed =>
    refine ⟨fun hadmitted => ?_, fun _ => ⟨by simp [accessDenial], by simp [accessDenial], rfl, rfl,
      rfl⟩, ?_, by simp [accessDenial, RouteEvidence.empty]⟩
    · cases hadmitted
    · intro authorization hmem
      cases hmem
      exact ⟨hallowed, rfl⟩
  | @allowed tables now evaluation id rest _ hreason hevaluate hallowed hid hrest =>
    obtain ⟨identity, hidentity, hid'⟩ := evaluate_identity hevaluate hallowed
    have hblank : ¬ IsBlank id := by
      rw [Option.some.inj (hid.symm.trans hid')]
      exact hids _ List.mem_cons_self identity hidentity
    have htarget : ∀ (workspace : EmployeeWorkspace) (thread : AIThread) (route : RouteEvidence),
        ¬ IsBlank workspace.id → ¬ IsBlank thread.id →
        route.routingMode ∈ ["none", "v1", "v2", "legacy"] →
        Recordable (admission setup candidate evaluation id workspace thread route) := by
      intro workspace thread route hworkspace hthread hroute
      refine ⟨fun _ => ⟨rfl, rfl, id, workspace.id, thread.id, rfl, rfl, rfl, hblank, hworkspace,
        hthread⟩, fun hadmitted => ?_, fun authorization hmem => ?_, hroute⟩
      · cases hadmitted
      · cases hmem
        exact ⟨hallowed, hid.symm⟩
    split at hrest
    · obtain ⟨routing, rest, rfl, hcase⟩ := admitV2_ok hrest
      rcases hcase with ⟨error, -, -, rfl⟩ | ⟨route, thread, bound, workspace, first, second, third,
        -, rfl, -, hbound, hworkspace, rfl⟩
      · refine ⟨fun hadmitted => ?_, fun _ => ⟨by simp [routeUnavailable],
          by simp [routeUnavailable], rfl, rfl, rfl⟩, fun _ hmem => ?_,
          by simp [routeUnavailable, RouteEvidence.empty]⟩
        · cases hadmitted
        · cases hmem
      · refine htarget _ _ _ ?_ ?_ (by simp [routingReferences])
        · exact ensureWorkspaceForAuthorizedIdentity_id hworkspace fun event hevent =>
            hids event (by simp [hevent])
        · exact bindV2RouteSnapshot_id hbound fun event hevent => hids event (by simp [hevent])
    · obtain ⟨first, workspace, second, thread, rfl, hworkspace, hthread, rfl⟩ := admitV1_ok hrest
      refine htarget _ _ _ ?_ ?_ (by decide)
      · exact ensureWorkspaceForAuthorizedIdentity_id hworkspace fun event hevent =>
          hids event (by simp [hevent])
      · exact ensureThreadForAuthorizedRequest_id hthread fun event hevent =>
          hids event (by simp [hevent])

/-- The outcome is that of the message. -/
lemma admit_messageId (h : Returns (admitCandidate setup candidate) events (.ok outcome)) :
    outcome.messageId = candidate.messageId := by
  cases admit_ok h with
  | preprocessed hreason => rfl
  | denied hreason hevaluate hallowed => rfl
  | allowed hreason hevaluate hallowed hid hrest =>
    split at hrest
    · obtain ⟨routing, rest, -, hcase⟩ := admitV2_ok hrest
      rcases hcase with ⟨error, -, -, rfl⟩ | ⟨route, thread, bound, workspace, first, second, third,
        -, -, -, -, -, rfl⟩ <;> rfl
    · obtain ⟨first, workspace, second, thread, -, -, -, rfl⟩ := admitV1_ok hrest
      rfl

/-! ## Recording and reading back -/

/-- The decision that is recorded. -/
def AdmissionOutcome.recordedDecision (outcome : AdmissionOutcome) : AdmissionDecision :=
  if outcome.admitted then .allowed else .denied

section

variable {outcome : AdmissionOutcome} {row : MessageAdmissionOutcome} {dbNow : Timestamp}
  {token : String}

lemma ne_empty_of_not_isBlank {value : String} (h : ¬ IsBlank value) : value ≠ "" := by
  rintro rfl
  exact h (by decide)

lemma Recordable.completedDecision (h : Recordable outcome) :
    completedDecision outcome = .ok outcome.recordedDecision := by
  unfold Admission.completedDecision AdmissionOutcome.recordedDecision
  cases hadmitted : outcome.admitted with
  | true =>
    obtain ⟨hreason, htask, id, workspaceId, aiThreadId, hid, hworkspace, hthread, hidBlank,
      hworkspaceBlank, hthreadBlank⟩ := h.allowed hadmitted
    simp only [hreason, htask, hid, hworkspace, hthread, if_true, bind_eq_ok, raiseIf_eq_ok,
      Option.getD_some]
    refine ⟨(), by simp, (), ?_, rfl⟩
    simp only [ne_empty_of_not_isBlank hidBlank, ne_empty_of_not_isBlank hworkspaceBlank,
      ne_empty_of_not_isBlank hthreadBlank, or_self, not_false_eq_true]
  | false =>
    obtain ⟨hreason, -, htask, -, -⟩ := h.denied hadmitted
    simp only [htask, Bool.false_eq_true, if_false, bind_eq_ok, raiseIf_eq_ok, false_or]
    exact ⟨(), hreason, rfl⟩

/-- The identity column is that of the outcome: where the outcome has none, neither has its
authorization. -/
lemma Recordable.identity_or (h : Recordable outcome) :
    outcome.enterpriseIdentityId.or
      (outcome.authorization.bind AuthorizationDecision.enterpriseIdentityId) =
      outcome.enterpriseIdentityId := by
  cases hid : outcome.enterpriseIdentityId with
  | some id => rfl
  | none =>
    cases hauthorization : outcome.authorization with
    | none => rfl
    | some authorization =>
      have hsame := (h.authorization authorization hauthorization).2
      rw [hid] at hsame
      simp [← hsame]

/-- The completed row passes the checks of the table. -/
lemma Recordable.checks (h : Recordable outcome) {messageId : Int}
    (hclaimed : ClaimedBy messageId token row) (hchecks : Checks row) :
    Checks (row.completedWith outcome outcome.recordedDecision dbNow) := by
  obtain ⟨horigin, -, hstate, -, -⟩ := hchecks
  obtain ⟨-, hpending, -⟩ := hclaimed
  simp only [StateChecks, hpending] at hstate
  have hrequest : row.request ≠ none := by
    simp only [OriginChecks, hstate.2.2.2.2] at horigin
    exact horigin.2
  refine ⟨?_, ?_, ?_, by simp [MessageAdmissionOutcome.completedWith], h.mode⟩
  · simp only [OriginChecks, MessageAdmissionOutcome.completedWith, hstate.2.2.2.2]
    refine ⟨Or.inr ?_, hrequest⟩
    unfold AdmissionOutcome.recordedDecision
    split
    · exact Or.inl rfl
    · exact Or.inr rfl
  · unfold AdmissionOutcome.recordedDecision
    cases hadmitted : outcome.admitted with
    | true =>
      obtain ⟨hreason, htask, id, workspaceId, aiThreadId, hid, hworkspace, hthread, -⟩ :=
        h.allowed hadmitted
      simp [DecisionChecks, MessageAdmissionOutcome.completedWith, hreason, htask, hid, hworkspace,
        hthread]
    | false =>
      obtain ⟨hreason, hlegacy, htask, hworkspace, hthread⟩ := h.denied hadmitted
      simp [DecisionChecks, MessageAdmissionOutcome.completedWith, hreason, hlegacy, htask,
        hworkspace, hthread]
  · simp [StateChecks, MessageAdmissionOutcome.completedWith]

/-- The completed row is read back as the outcome. -/
lemma Recordable.toAdmissionOutcome (h : Recordable outcome)
    (hid : row.messageId = outcome.messageId) :
    toAdmissionOutcome (row.completedWith outcome outcome.recordedDecision dbNow) =
      .ok outcome := by
  have hadmitted : decide (outcome.recordedDecision = .allowed) = outcome.admitted := by
    unfold AdmissionOutcome.recordedDecision
    cases outcome.admitted <;> rfl
  have htask : outcome.admitted = outcome.shouldCreateTask := by
    cases hvalue : outcome.admitted with
    | true => exact (h.allowed hvalue).2.1.symm
    | false => exact (h.denied hvalue).2.2.1.symm
  have hreason : outcome.admitted = decide (outcome.reason = .allowed) := by
    cases hvalue : outcome.admitted with
    | true => simp [(h.allowed hvalue).1]
    | false => simp [(h.denied hvalue).1]
  have hunresolved : outcome.recordedDecision ≠ .unresolved := by
    unfold AdmissionOutcome.recordedDecision
    cases outcome.admitted <;> decide
  simp only [Admission.toAdmissionOutcome, checkedOutcome, MessageAdmissionOutcome.completedWith,
    hadmitted, bind_eq_ok, raiseIf_eq_ok]
  refine ⟨(), not_not.mpr htask, (), not_not.mpr hreason, (), fun hboth => hunresolved hboth.1,
    (), ?_, ?_⟩
  · rintro ⟨authorization, hmem, hne⟩
    exact hne (h.authorization authorization hmem).1
  · rw [h.identity_or, hid]
    rfl

/-- `stage_completion` accepts the outcome for the row that is claimed for it. -/
lemma Recordable.stageCompletion (h : Recordable outcome) {outcomes : List MessageAdmissionOutcome}
    (hunique : UniqueKeys MessageAdmissionOutcome.messageId outcomes) (hmem : row ∈ outcomes)
    (hclaimed : ClaimedBy outcome.messageId token row) (hchecks : Checks row) :
    stageCompletion token outcome dbNow outcomes =
      .ok (updateWhere (ClaimedBy outcome.messageId token)
        (fun row => row.completedWith outcome outcome.recordedDecision dbNow) outcomes) := by
  have hvalid : ¬ ∃ other ∈ outcomes, ClaimedBy outcome.messageId token other ∧
      ¬ Checks (other.completedWith outcome outcome.recordedDecision dbNow) := by
    rintro ⟨other, hother, hotherClaimed, hnot⟩
    rw [hunique.eq_of_key_eq hother hmem (hotherClaimed.1.trans hclaimed.1.symm)] at hnot
    exact hnot (h.checks hclaimed hchecks)
  simp only [Admission.stageCompletion, h.completedDecision, bind_eq_ok, Except.ok.injEq,
    exists_eq_left', updateClaimed, if_neg hvalid]
  rw [guardedUpdate_of_mem hunique (fun _ hother => hother.1) hmem hclaimed]

end

/-! ## Later calls -/

section

variable {messageId : Int} {input : Input} {tables : Tables} {stored : MessageAdmissionOutcome}
  {outcome : AdmissionOutcome}

/-- A call on a message with a completed outcome begins by replaying it. -/
lemma perform_begun (hunique : UniqueKeys MessageAdmissionOutcome.messageId tables.outcomes)
    (hmem : stored ∈ tables.outcomes) (hid : stored.messageId = messageId)
    (hcompleted : stored.state = .completed) :
    perform messageId input tables .begun = .ok (tables, .replaying none stored) := by
  have hfound : getByMessageId messageId tables.outcomes = some stored := by
    rw [← hid]
    exact hunique.find?_eq hmem
  simp only [perform, hfound, hcompleted, if_true]

lemma dispatchTarget_of_recordable (h : Recordable outcome) (hadmitted : outcome.admitted = true)
    (hid : 0 < outcome.messageId) : ∃ target, dispatchTarget outcome = .ok target := by
  obtain ⟨hreason, htask, id, workspaceId, aiThreadId, hidentity, hworkspace, hthread, hidBlank,
    hworkspaceBlank, hthreadBlank⟩ := h.allowed hadmitted
  refine ⟨⟨outcome.messageId, id, workspaceId, aiThreadId⟩, ?_⟩
  simp only [dispatchTarget, bind_eq_ok, raiseIf_eq_ok, requiredTargetId, hreason, htask, hadmitted,
    hidentity, hworkspace, hthread, if_neg hidBlank, if_neg hworkspaceBlank, if_neg hthreadBlank]
  exact ⟨(), by simp, (), by simp, (), by omega, id, rfl, workspaceId, rfl, aiThreadId, rfl, rfl⟩

/-- A record of an allowed message is compatible with the outcome that authorizes it. -/
lemma stagedRecord_of_authorized (hreplay : toAdmissionOutcome stored = .ok outcome)
    {target : DispatchTarget} (htarget : dispatchTarget outcome = .ok target)
    {records : List HermesDispatchRecord} {record : HermesDispatchRecord}
    (hmem : record ∈ records) (hrecord : record.messageId = outcome.messageId)
    (hauthorizes : ∀ record ∈ records, record.messageId = outcome.messageId →
      Authorizes stored record) :
    ∃ existing, records.find? (fun record => record.messageId = outcome.messageId) = some existing ∧
      stagedRecord outcome records = .ok (some existing) := by
  obtain ⟨-, hid, -, hidentity, hworkspace, hthread⟩ := toAdmissionOutcome_eq_ok hreplay
  obtain ⟨-, htargetId, htargetIdentity, htargetWorkspace, htargetThread⟩ :=
    dispatchTarget_eq_ok htarget
  have hexists : ∃ existing, records.find? (fun record => record.messageId = target.messageId) =
      some existing := by
    rw [← Option.isSome_iff_exists, List.find?_isSome]
    exact ⟨record, hmem, decide_eq_true (hrecord.trans htargetId.symm)⟩
  obtain ⟨existing, hexisting⟩ := hexists
  have hexistingId : existing.messageId = target.messageId := by
    simpa using List.find?_some hexisting
  obtain ⟨-, -, -, hid', hworkspace', hthread'⟩ :=
    hauthorizes existing (List.mem_of_find?_eq_some hexisting) (hexistingId.trans htargetId)
  have hcompatible : compatibleRecordOrRaise existing target = .ok existing := by
    simp only [compatibleRecordOrRaise, bind_eq_ok, raiseIf_eq_ok]
    refine ⟨(), ?_, rfl⟩
    rintro (hne | hne | hne | hne)
    · exact hne hexistingId
    · exact hne (Option.some.inj (hid'.symm.trans (hidentity.symm.trans htargetIdentity)))
    · exact hne (Option.some.inj (hworkspace'.symm.trans (hworkspace.symm.trans htargetWorkspace)))
    · exact hne (Option.some.inj (hthread'.symm.trans (hthread.symm.trans htargetThread)))
  have hfor : existingFor target records = some existing := by
    rw [existingFor, hexisting, Option.some_or]
  refine ⟨existing, htargetId ▸ hexisting,
    bind_eq_ok.mpr ⟨target, raiseDispatch_eq_ok.mpr htarget, ?_⟩⟩
  rw [hfor]
  exact bind_eq_ok.mpr ⟨existing, raiseDispatch_eq_ok.mpr hcompatible, rfl⟩

/-- The replay returns the outcome: an allowed message has its record, and a denied one has none. -/
lemma perform_replaying (h : Recordable outcome) (hid : 0 < outcome.messageId)
    (hunique : UniqueKeys MessageAdmissionOutcome.messageId tables.outcomes)
    (hmem : stored ∈ tables.outcomes) (hreplay : toAdmissionOutcome stored = .ok outcome)
    (hbacked : Backed outcome.messageId tables) (hqueued : Queued outcome.messageId tables) :
    perform messageId input tables (.replaying none stored) =
      .ok (tables, .returned (ingestionOutcome outcome
        ((getDispatchForMessage outcome.messageId tables).map HermesDispatchRecord.id))) := by
  obtain ⟨hcompleted, hstoredId, hadmitted, -⟩ := toAdmissionOutcome_eq_ok hreplay
  have hauthorizes : ∀ record ∈ tables.dispatch.records, record.messageId = outcome.messageId →
      Authorizes stored record := by
    intro record hrecord hrecordId
    obtain ⟨row, hrow, hauthorized⟩ := hbacked record hrecord hrecordId
    rwa [hunique.eq_of_key_eq hmem hrow
      (hstoredId.symm.trans (hrecordId.symm.trans hauthorized.1.symm))]
  cases hvalue : outcome.admitted with
  | true =>
    obtain ⟨record, hrecord, hrecordId⟩ :=
      hqueued stored hmem ⟨hstoredId.symm, hcompleted, hadmitted.mp hvalue⟩
    obtain ⟨target, htarget⟩ := dispatchTarget_of_recordable h hvalue hid
    obtain ⟨existing, hfound, hexisting⟩ :=
      stagedRecord_of_authorized hreplay htarget hrecord hrecordId hauthorizes
    have hget : getDispatchForMessage outcome.messageId tables = some existing := hfound
    simp only [perform, hreplay, hvalue, hget, bind_eq_ok, Except.ok.injEq, exists_eq_left',
      hexisting]
    rfl
  | false =>
    have hnone : getDispatchForMessage outcome.messageId tables = none := by
      refine List.find?_eq_none.mpr fun record hrecord hrecordId => ?_
      have hallowed := (hauthorizes record hrecord (by simpa using hrecordId)).2.2.1
      rw [hadmitted.mpr hallowed] at hvalue
      cases hvalue
    simp only [perform, hreplay, hvalue, hnone, bind_eq_ok, Except.ok.injEq, exists_eq_left']
    rfl

end

/-- The row that is claimed for the first of the two messages to one account. -/
def accountRow : MessageAdmissionOutcome := pendingOutcome 1 ⟨[], [], .low⟩ "token" 9

end AgentGateway.Admission
