import AgentGateway.Delivery.Ownership

/-!
# No automatic resend

A part whose send may have reached the channel is not sent again by itself. An attempt is recorded
as failed by the worker that made it only, for an error that `classify_delivery_error` does not call
uncertain; every other attempt counts, and the count of a part goes beyond one only by retries of an
operator. A retry does not call back the worker that was taken over: its send may still go out
after the part has its receipt.
-/

namespace AgentGateway.Delivery

open Lib Lib.Table Lib.Run Response

/-! ## What the trace says -/

/-- The attempt of a worker whose send has not come back. -/
def Phase.unanswered? : Phase → Option (DeliveryOutboxRecord × DeliveryAttempt)
  | .attempting delivery attempt | .sending delivery attempt => some (delivery, attempt)
  | _ => none

/-- What the trace says of the attempt a worker is busy with. -/
def Worker.Shown (trace : List Event) (worker : Worker) : Prop :=
  match worker.phase with
  | .attempting _ attempt => ∀ event ∈ trace, event.send.attemptId ≠ attempt.id
  | .sending delivery attempt => ∀ event ∈ trace, event.send.attemptId = attempt.id →
      event = .called (worker.send delivery attempt)
  | .failing _ attempt error => ∀ event ∈ trace, event.send.attemptId = attempt.id →
      Event.raised event.send error ∈ trace
  | _ => True

/-- Every send comes back at most once. -/
def AnsweredOnce (trace : List Event) : Prop :=
  ∀ a ∈ trace, ∀ b ∈ trace, a.IsAnswer → b.IsAnswer → a.send.attemptId = b.send.attemptId → a = b

/-- A send that came back with an error that is not uncertain. -/
def RaisedDefinitely (trace : List Event) (send : Send) : Prop :=
  ∃ error, Event.raised send error ∈ trace ∧ classifyDeliveryError error ≠ .uncertain

/-- **The trace and the attempts.** Every send has its attempt; if that attempt is recorded as
failed then the send has raised a definite error; and while the send has not come back the attempt
is open. -/
structure Traced (world : World) : Prop where
  row : ∀ event ∈ world.trace, ∃ row ∈ world.tables.attempts, row.id = event.send.attemptId ∧
    row.deliveryId = event.send.deliveryId ∧ row.partOrdinal = event.send.partOrdinal ∧
    (row.status = .failed → RaisedDefinitely world.trace event.send)
  answered : AnsweredOnce world.trace
  shown : ∀ worker ∈ world.workers, worker.Shown world.trace
  unanswered : ∀ worker ∈ world.workers, ∀ delivery attempt,
    worker.phase.unanswered? = some (delivery, attempt) →
      ∀ row ∈ world.tables.attempts, row.id = attempt.id → IsOpen row

/-- The attempt a call ends, with or without a receipt. -/
def Call.Ends (attemptId : ℕ) (call : Call) : Prop :=
  (∃ deliveryId token partOrdinal payload messageId now,
    call = .markPartDelivered deliveryId token attemptId partOrdinal payload messageId now) ∨
  ∃ deliveryId token plan, call.finish? = some (deliveryId, token, attemptId, plan)

section Traces

variable {digests : Digests} {world : World} {tables' : DeliveryTables} {call : Call}
  {worker : Worker} {phase : Phase} {events trace : List Event} {attempt : DeliveryAttempt}
  {delivery : DeliveryOutboxRecord} {attemptId : ℕ} {event : Event}

lemma Phase.attempt?_of_unanswered (h : phase.unanswered? = some (delivery, attempt)) :
    phase.attempt? = some (delivery, attempt) := by
  cases phase <;> first | exact h | cases h

lemma AnsweredOnce.concat (h : AnsweredOnce trace)
    (hnew : ∀ old ∈ trace, old.IsAnswer → event.IsAnswer →
      old.send.attemptId ≠ event.send.attemptId) : AnsweredOnce (trace ++ [event]) := by
  intro a ha b hb hanswerA hanswerB heq
  rcases mem_concat.mp ha with hold | rfl <;> rcases mem_concat.mp hb with hold' | rfl
  · exact h a hold b hold' hanswerA hanswerB heq
  · exact absurd heq (hnew a hold hanswerA hanswerB)
  · exact absurd heq.symm (hnew b hold' hanswerB hanswerA)
  · rfl

/-- Events of other attempts do not matter to a worker. -/
lemma Worker.Shown.append (h : worker.Shown trace)
    (hother : ∀ event ∈ events, ∀ delivery attempt,
      worker.phase.attempt? = some (delivery, attempt) → event.send.attemptId ≠ attempt.id) :
    worker.Shown (trace ++ events) := by
  unfold Worker.Shown at h ⊢
  split at h
  · rename_i delivery attempt hphase
    rw [hphase] at hother
    intro event hevent
    rcases List.mem_append.mp hevent with hold | hnew
    · exact h event hold
    · exact hother event hnew delivery attempt rfl
  · rename_i delivery attempt hphase
    rw [hphase] at hother
    intro event hevent hid
    rcases List.mem_append.mp hevent with hold | hnew
    · exact h event hold hid
    · exact absurd hid (hother event hnew delivery attempt rfl)
  · rename_i delivery attempt error hphase
    rw [hphase] at hother
    intro event hevent hid
    rcases List.mem_append.mp hevent with hold | hnew
    · exact List.mem_append_left _ (h event hold hid)
    · exact absurd hid (hother event hnew delivery attempt rfl)
  · exact True.intro

/-- A step keeps what the trace says when it does not end an attempt whose send is still out, and
records an attempt as failed only after a definite error. -/
lemma Traced.stored (h : Traced world) (howned : Owned world)
    (hstep : TablesStep digests world.tables call tables')
    (hbusy : ∀ attemptId, call.Ends attemptId → ∀ worker ∈ world.workers, ∀ delivery attempt,
      worker.phase.unanswered? = some (delivery, attempt) → attempt.id ≠ attemptId)
    (hfailed : ∀ deliveryId token attemptId plan,
      call.finish? = some (deliveryId, token, attemptId, plan) → plan.attemptStatus = .failed →
      ∀ event ∈ world.trace, event.send.attemptId = attemptId →
        RaisedDefinitely world.trace event.send) :
    Traced { world with tables := tables' } := by
  refine ⟨?_, h.answered, h.shown, ?_⟩
  · intro event hevent
    obtain ⟨row, hrow, hid, hof, hpart, hdefinite⟩ := h.row event hevent
    obtain ⟨row', hrow', hmove⟩ := hstep.attempt_kept howned.keyed hrow
    obtain ⟨hid', hof', hpart'⟩ := hmove.identity
    refine ⟨row', hrow', hid'.trans hid, hof'.trans hof, hpart'.trans hpart, fun hstatus => ?_⟩
    cases hmove with
    | kept => exact hdefinite hstatus
    | expired | delivered => cases hstatus
    | finished hcall =>
      exact hfailed _ _ _ _ hcall hstatus event hevent hid.symm
  · intro worker hmem delivery attempt hsome row' hrow' hid'
    have hattempt := Phase.attempt?_of_unanswered hsome
    rcases hstep.attempt_origin howned.keyed hrow' with ⟨row, hrow, hmove⟩ | hstarted
    · have hid := hmove.identity.1.symm.trans hid'
      cases hmove with
      | kept => exact h.unanswered worker hmem delivery attempt hsome row' hrow hid'
      | expired => exact Or.inr rfl
      | delivered hcall =>
        have hends : call.Ends row.id := Or.inl ⟨_, _, _, _, _, _, hcall⟩
        exact absurd hid.symm (hbusy row.id hends worker hmem delivery attempt hsome)
      | finished hcall =>
        have hends : call.Ends row.id := Or.inr ⟨_, _, _, hcall⟩
        exact absurd hid.symm (hbusy row.id hends worker hmem delivery attempt hsome)
    · -- the worker's attempt is older than one that has just been started
      obtain ⟨own, hown, hownId, -⟩ := (howned.owns worker hmem).row delivery attempt hattempt
      exact absurd (hownId.trans hid'.symm) (hstarted.fresh own hown)

/-- An event of a worker's own send, whose attempt is not recorded as failed. -/
structure Emits (world : World) (worker : Worker) (event : Event) : Prop where
  row : ∃ row ∈ world.tables.attempts, row.id = event.send.attemptId ∧
    row.deliveryId = event.send.deliveryId ∧ row.partOrdinal = event.send.partOrdinal ∧
    row.status ≠ .failed
  own : ∀ other ∈ world.workers, ∀ delivery attempt,
    other.phase.attempt? = some (delivery, attempt) → event.send.attemptId = attempt.id →
      other.token = worker.token

/-- What a worker shows of a send that has not come back is its own. -/
lemma Traced.emits (h : Traced world) (howned : Owned world) (hmem : worker ∈ world.workers)
    (hsome : worker.phase.unanswered? = some (delivery, attempt))
    (hsend : event.send = worker.send delivery attempt) : Emits world worker event := by
  have hattempt := Phase.attempt?_of_unanswered hsome
  constructor
  · obtain ⟨row, hrow, hid, hof, hpart⟩ := (howned.owns worker hmem).row delivery attempt hattempt
    rw [hsend]
    refine ⟨row, hrow, hid, hof, hpart, fun hstatus => ?_⟩
    have hopen := h.unanswered worker hmem delivery attempt hsome row hrow hid
    rw [IsOpen, hstatus] at hopen
    rcases hopen with hactive | huncertain
    · cases hactive
    · cases huncertain
  · intro other hother held own hown heq
    rw [hsend] at heq
    exact howned.distinct other hother worker hmem held own delivery attempt hown hattempt heq.symm

section Traced

variable (h : Traced world)
  (htokens : UniqueKeys Worker.token world.workers)
  (hmem : worker ∈ world.workers)

include h htokens hmem

/-- A worker's move keeps what the trace says, when its events are about its own send and its next
phase fits. -/
lemma Traced.moved (hevents : ∀ event ∈ events, Emits world worker event)
    (hanswered : AnsweredOnce (world.trace ++ events))
    (hshown : Worker.Shown (world.trace ++ events) { worker with phase := phase })
    (hopen : ∀ delivery attempt, phase.unanswered? = some (delivery, attempt) →
      ∀ row ∈ world.tables.attempts, row.id = attempt.id → IsOpen row) :
    Traced (world.worked worker phase events) := by
  refine ⟨?_, hanswered, ?_, ?_⟩
  · intro event hevent
    rcases List.mem_append.mp hevent with hold | hnew
    · obtain ⟨row, hrow, hid, hof, hpart, hdefinite⟩ := h.row event hold
      refine ⟨row, hrow, hid, hof, hpart, fun hstatus => ?_⟩
      obtain ⟨error, hraised, hkind⟩ := hdefinite hstatus
      exact ⟨error, List.mem_append_left _ hraised, hkind⟩
    · obtain ⟨row, hrow, hid, hof, hpart, hstatus⟩ := (hevents event hnew).row
      exact ⟨row, hrow, hid, hof, hpart, fun hfailed => absurd hfailed hstatus⟩
  · intro other hother
    rcases (mem_worked htokens hmem).mp hother with rfl | ⟨hold, hne⟩
    · exact hshown
    · refine (h.shown other hold).append fun event hevent held own hown heq => ?_
      exact hne ((hevents event hevent).own other hold held own hown heq)
  · intro other hother delivery attempt hsome
    rcases (mem_worked htokens hmem).mp hother with rfl | ⟨hold, -⟩
    · exact hopen delivery attempt hsome
    · exact h.unanswered other hold delivery attempt hsome

/-- A worker moves without showing anything. -/
lemma Traced.silent (hshown : Worker.Shown world.trace { worker with phase := phase })
    (hopen : ∀ delivery attempt, phase.unanswered? = some (delivery, attempt) →
      ∀ row ∈ world.tables.attempts, row.id = attempt.id → IsOpen row) :
    Traced (world.worked worker phase []) := by
  refine h.moved htokens hmem (fun event hevent => absurd hevent List.not_mem_nil) ?_ ?_ hopen
  · rw [List.append_nil]
    exact h.answered
  · rw [List.append_nil]
    exact hshown

/-- A silent move to a phase in which no send is out. -/
lemma Traced.rephased (hshown : Worker.Shown world.trace { worker with phase := phase })
    (hnone : phase.unanswered? = none) : Traced (world.worked worker phase []) := by
  refine h.silent htokens hmem hshown fun delivery attempt hsome => ?_
  rw [hnone] at hsome
  cases hsome

end Traced

/-- A worker whose send is back does not end the attempt of another send. -/
lemma Owned.not_unanswered (h : Owned world) (hmem : worker ∈ world.workers)
    (hsome : worker.phase.attempt? = some (delivery, attempt))
    (hback : worker.phase.unanswered? = none) :
    ∀ other ∈ world.workers, ∀ held own, other.phase.unanswered? = some (held, own) →
      own.id ≠ attempt.id := by
  intro other hother held own hown heq
  have htoken := h.distinct other hother worker hmem held own delivery attempt
    (Phase.attempt?_of_unanswered hown) hsome heq
  obtain rfl := h.tokens.eq_of_key_eq hother hmem htoken
  rw [hback] at hown
  cases hown

/-- The attempt `_record_failure` ends, and that a failed one had a definite error. -/
lemma failureCall_finish? (worker : Worker) (attempt : DeliveryAttempt)
    (error : DeliveryException) (maxAttempts : ℕ) (availableAt now : Timestamp) :
    ∃ plan, (failureCall worker attempt error maxAttempts availableAt now).finish? =
        some (worker.deliveryId, worker.token, attempt.id, plan) ∧
      (plan.attemptStatus = .failed → classifyDeliveryError error ≠ .uncertain) := by
  unfold failureCall
  cases hkind : classifyDeliveryError error with
  | retryable =>
    dsimp only
    split_ifs
    · exact ⟨_, rfl, fun _ => DeliveryFailureKind.noConfusion⟩
    · exact ⟨_, rfl, fun _ => DeliveryFailureKind.noConfusion⟩
  | permanent => exact ⟨_, rfl, fun _ => DeliveryFailureKind.noConfusion⟩
  | uncertain => exact ⟨_, rfl, fun hfailed => DeliveryAttemptStatus.noConfusion hfailed⟩

lemma Call.Ends.eq_of_finish? {deliveryId ended : ℕ} {token : String} {plan : FinishPlan}
    (h : call.finish? = some (deliveryId, token, attemptId, plan)) (hends : call.Ends ended) :
    ended = attemptId := by
  rcases hends with ⟨_, _, _, _, _, _, rfl⟩ | ⟨_, _, _, hfinish⟩
  · cases h
  · cases hfinish.symm.trans h
    rfl

/-- Starting an attempt keeps what the trace says: no event is about the new attempt. -/
lemma Traced.start (digests : Digests) (h : Traced world) (howned : Owned world)
    (hmem : worker ∈ world.workers) (hphase : worker.phase = .looping delivery)
    (hstart : startAttempt worker.deliveryId worker.token delivery.nextPartOrdinal attemptId
      world.tables = .ok (tables', attempt)) :
    Traced (World.worked { world with tables := tables' } worker (.attempting delivery attempt)
      []) := by
  have hstep : TablesStep digests world.tables _ tables' := startAttempt_step howned.keyed hstart
  obtain ⟨row, hrow, hid, htoken, hof, hpart, hactive, hfresh, htables⟩ :=
    howned.start_fresh hmem hphase hstart
  have hstored : Traced { world with tables := tables' } := by
    refine h.stored howned hstep ?_ fun _ _ _ _ hcall => by cases hcall
    rintro attemptId (⟨_, _, _, _, _, _, hcall⟩ | ⟨_, _, _, hcall⟩) <;> cases hcall
  refine hstored.silent howned.tokens hmem (fun event hevent heq => ?_) ?_
  · obtain ⟨old, hold, holdId, -⟩ := h.row event hevent
    exact hfresh old hold (holdId.trans heq)
  · rintro _ _ ⟨⟩ other hother hotherId
    rw [htables] at hother
    rcases mem_concat.mp hother with hold | rfl
    · exact absurd hotherId (hfresh other hold)
    · exact Or.inl hactive

/-- Every move of a worker keeps what the trace says. -/
lemma Traced.worked (h : Traced world) (howned : Owned world) (hmem : worker ∈ world.workers)
    (hmove : WorkerMove digests world.tables worker tables' phase events) :
    Traced (World.worked { world with tables := tables' } worker phase events) := by
  have hshown := h.shown worker hmem
  have hbefore := h.unanswered worker hmem
  cases hmove with
  | idle => exact h.silent howned.tokens hmem hshown hbefore
  | leave => exact h.rephased howned.tokens hmem True.intro rfl
  | start hphase hstart => exact h.start digests howned hmem hphase hstart
  | abort hphase =>
    refine h.rephased howned.tokens hmem ?_ rfl
    rw [Worker.Shown, hphase] at hshown
    intro event hevent heq
    exact absurd heq (hshown event hevent)
  -- the call enters the trace, and is the only event of its attempt
  | @send delivery attempt hphase =>
    rw [Worker.Shown, hphase] at hshown
    have hsome : worker.phase.unanswered? = some (delivery, attempt) :=
      congrArg Phase.unanswered? hphase
    refine h.moved howned.tokens hmem ?_ (h.answered.concat fun _ _ _ => False.elim) ?_ ?_
    · intro event hevent
      rw [List.mem_singleton.mp hevent]
      exact h.emits howned hmem hsome rfl
    · intro event hevent heq
      rcases List.mem_append.mp hevent with hold | hnew
      · exact absurd heq (hshown event hold)
      · exact List.mem_singleton.mp hnew
    · rintro _ _ ⟨⟩
      exact hbefore delivery attempt hsome
  | returned hphase =>
    rw [Worker.Shown, hphase] at hshown
    refine h.moved howned.tokens hmem ?_ (h.answered.concat ?_) True.intro ?_
    · intro event hevent
      rw [List.mem_singleton.mp hevent]
      exact h.emits howned hmem (congrArg Phase.unanswered? hphase) rfl
    · -- an event of this send so far is its call
      intro old hold hanswer _ heq
      rw [hshown old hold heq] at hanswer
      exact hanswer
    · intro _ _ hsome
      cases hsome
  | raised hphase =>
    rw [Worker.Shown, hphase] at hshown
    refine h.moved howned.tokens hmem ?_ (h.answered.concat ?_) ?_ ?_
    · intro event hevent
      rw [List.mem_singleton.mp hevent]
      exact h.emits howned hmem (congrArg Phase.unanswered? hphase) rfl
    · intro old hold hanswer _ heq
      rw [hshown old hold heq] at hanswer
      exact hanswer
    · intro event hevent heq
      rcases mem_concat.mp hevent with hold | rfl
      · rw [hshown event hold heq]
        exact List.mem_append_right _ (List.mem_singleton_self _)
      · exact List.mem_append_right _ (List.mem_singleton_self _)
    · intro _ _ hsome
      cases hsome
  -- the attempt of a receipt has been answered
  | marked hphase hmark hnext =>
    have hstep : TablesStep digests world.tables _ tables' :=
      markPartDelivered_step howned.keyed hmark
    have hstored : Traced { world with tables := tables' } := by
      refine h.stored howned hstep ?_ fun _ _ _ _ hcall => by cases hcall
      rintro attemptId (⟨_, _, _, _, _, _, hcall⟩ | ⟨_, _, _, hcall⟩)
      · cases hcall
        exact howned.not_unanswered hmem (congrArg Phase.attempt? hphase)
          (congrArg Phase.unanswered? hphase)
      · cases hcall
    rcases hnext with rfl | rfl
    · exact hstored.rephased howned.tokens hmem True.intro rfl
    · exact hstored.rephased howned.tokens hmem True.intro rfl
  | settle hphase =>
    have hbusy := howned.not_unanswered hmem (congrArg Phase.attempt? hphase)
      (congrArg Phase.unanswered? hphase)
    refine (h.stored howned (step_cases howned.keyed) (fun attemptId hends => ?_) ?_).rephased
      howned.tokens hmem True.intro rfl
    · rw [hends.eq_of_finish? rfl]
      exact hbusy
    · intro _ _ _ _ hcall hfailed
      cases hcall
      cases hfailed
  -- what is recorded depends on the error that the trace shows
  | @report _ attempt error maxAttempts availableAt now hphase =>
    obtain ⟨plan, hfinish, hkind⟩ :=
      failureCall_finish? worker attempt error maxAttempts availableAt now
    have hbusy := howned.not_unanswered hmem (congrArg Phase.attempt? hphase)
      (congrArg Phase.unanswered? hphase)
    rw [Worker.Shown, hphase] at hshown
    refine (h.stored howned (step_cases howned.keyed) (fun attemptId hends => ?_) ?_).rephased
      howned.tokens hmem True.intro rfl
    · rw [hends.eq_of_finish? hfinish]
      exact hbusy
    · intro _ _ _ _ hcall hfailed event hevent heq
      cases hcall.symm.trans hfinish
      exact ⟨error, hshown event hevent heq, hkind hfailed⟩
  | lost | found | missing | resume | unsettle => exact h.rephased howned.tokens hmem True.intro rfl

/-- Every step keeps what the trace says. -/
lemma Traced.step {action : Action} (h : Traced world) (howned : Owned world) :
    Traced (world.step digests action) := by
  have hmove := world.step_move digests action
  generalize world.step digests action = world' at hmove ⊢
  cases hmove with
  | unchanged => exact h
  | store hcall =>
    refine h.stored howned (step_cases howned.keyed) ?_ ?_
    · rintro attemptId (⟨_, _, _, _, _, _, rfl⟩ | ⟨_, _, _, hfinish⟩)
      · cases action <;> cases hcall
      · cases action <;> cases hcall <;> cases hfinish
    · intro _ _ _ _ hfinish
      cases action <;> cases hcall <;> cases hfinish
  | @started _ _ _ tables _ _ _ hclaim =>
    have hstep : TablesStep digests world.tables _ tables := claimNext_step howned.keyed hclaim
    have hstored : Traced { world with tables := tables } := by
      refine h.stored howned hstep ?_ fun _ _ _ _ hcall => by cases hcall
      rintro attemptId (⟨_, _, _, _, _, _, hcall⟩ | ⟨_, _, _, hcall⟩) <;> cases hcall
    refine ⟨hstored.row, hstored.answered, ?_, ?_⟩
    · intro worker hworker
      rcases mem_concat.mp hworker with hold | rfl
      · exact hstored.shown worker hold
      · exact True.intro
    · intro worker hworker held attempt hsome
      rcases mem_concat.mp hworker with hold | rfl
      · exact hstored.unanswered worker hold held attempt hsome
      · cases hsome
  | worked hmem hmove => exact h.worked howned hmem hmove

end Traces

/-! ## Whole runs -/

section Runs

variable {digests : Digests} {world : World} {action : Action} {send : Send} {row : DeliveryAttempt}
  {partOrdinal deliveryId retries : ℕ}

/-- The retries along a run that find the delivery uncertain at the part. -/
def uncertainRetries (digests : Digests) (deliveryId partOrdinal : ℕ) : World → List Action → ℕ
  | _, [] => 0
  | world, action :: later =>
    (action.call?.any (retriesUncertain deliveryId partOrdinal world.tables)).toNat +
      uncertainRetries digests deliveryId partOrdinal (world.step digests action) later

/-- Ownership and trace hold after every run. -/
lemma worldAfter_traced (digests : Digests) (actions : List Action) :
    Owned (worldAfter digests actions) ∧ Traced (worldAfter digests actions) := by
  refine run_invariant (P := fun world => Owned world ∧ Traced world) ?_ ?_ actions
  · rintro world action ⟨howned, htraced⟩
    exact ⟨howned.step, htraced.step howned⟩
  · constructor
    · exact ⟨initial_keyed, by rintro _ ⟨⟩, List.nodup_nil, by rintro _ ⟨⟩, by rintro _ ⟨⟩,
        by rintro _ ⟨⟩, by rintro _ ⟨⟩⟩
    · exact ⟨by rintro _ ⟨⟩, by rintro _ ⟨⟩, by rintro _ ⟨⟩, by rintro _ ⟨⟩⟩

/-- An action adds to the count no more than the retry it makes. -/
lemma AllCounted.acted (howned : Owned world)
    (h : AllCounted world.tables deliveryId partOrdinal retries) (action : Action) :
    AllCounted (world.step digests action).tables deliveryId partOrdinal (retries +
      (action.call?.any (retriesUncertain deliveryId partOrdinal world.tables)).toNat) := by
  obtain ⟨call, hcall, hstep⟩ := (world.step_move digests action).tablesStep howned.keyed
  intro delivery hdelivery hid
  refine (h.step howned.keyed howned.consistent hstep delivery hdelivery hid).mono
    (Nat.add_le_add_left ?_ _)
  cases hpaid : retriesUncertain deliveryId partOrdinal world.tables call with
  | false => exact Nat.zero_le _
  | true =>
    -- only `retry` is paid for, and a worker never calls it
    have hretry : call.IsRetry := by
      cases call with
      | retry => exact True.intro
      | _ => cases hpaid
    rw [hcall hretry, Option.any_some, hpaid]

/-- The count along a run. -/
lemma counted_run (howned : Owned world)
    (h : AllCounted world.tables deliveryId partOrdinal retries) (actions : List Action) :
    AllCounted (run (World.step digests) world actions).tables deliveryId partOrdinal
      (retries + uncertainRetries digests deliveryId partOrdinal world actions) := by
  induction actions generalizing world retries with
  | nil => exact h
  | cons action later ih =>
    rw [run_cons, uncertainRetries, ← Nat.add_assoc]
    exact ih howned.step (h.acted howned action)

/-- A send is made by a worker that has started the attempt. -/
lemma called_of_step
    (h : (world.step digests action).trace = world.trace ++ [.called send]) :
    ∃ worker ∈ world.workers, ∃ delivery attempt,
      worker.phase = .attempting delivery attempt ∧ send = worker.send delivery attempt := by
  have hmove := world.step_move digests action
  generalize world.step digests action = world' at hmove h
  have hsilent : world.trace ≠ world.trace ++ [.called send] := by
    intro heq
    have hlength := congrArg List.length heq
    simp at hlength
  cases hmove with
  | unchanged | store | started => exact absurd h hsilent
  | @worked worker _ _ events hmem hmove =>
    have hevents : events = [.called send] := List.append_cancel_left h
    cases hmove with
    | send hphase =>
      cases hevents
      exact ⟨worker, hmem, _, _, hphase, rfl⟩
    | _ => cases hevents

/-- A send known to have failed: it raised an error that is not uncertain, nothing else came back
from it, and its attempt is recorded as failed. -/
structure FailedDefinitely (world : World) (send : Send) : Prop where
  raised : RaisedDefinitely world.trace send
  answers : ∀ event ∈ world.trace, event.IsAnswer → event.send.attemptId = send.attemptId →
    ∃ error, event = .raised send error ∧ classifyDeliveryError error ≠ .uncertain
  recorded : ∃ row ∈ world.tables.attempts, row.id = send.attemptId ∧ row.status = .failed

/-- A part is sent only after the receipts of all parts before it. -/
lemma receipts_before (howned : Owned world) (hrow : row ∈ world.tables.attempts)
    (hlt : partOrdinal < row.partOrdinal) :
    (getReceipt row.deliveryId partOrdinal world.tables).isSome := by
  obtain ⟨delivery, hdelivery, hid⟩ := howned.keyed.attemptOf row hrow
  obtain ⟨response, -, -, hledger, hbounded⟩ := howned.consistent.of_mem howned.keyed hdelivery
  have hle := hbounded.part_le row (mem_attemptsOf.mpr ⟨hrow, hid.symm⟩)
  have hrange : partOrdinal ∈ List.range delivery.nextPartOrdinal :=
    List.mem_range.mpr (hlt.trans_le hle)
  rw [← hledger.receipts_eq, List.mem_map] at hrange
  obtain ⟨receipt, hreceipt, hpart⟩ := hrange
  obtain ⟨hmem, hreceiptOf⟩ := List.mem_filter.mp hreceipt
  refine List.find?_isSome.mpr ⟨receipt, hmem, decide_eq_true ⟨?_, hpart⟩⟩
  exact (of_decide_eq_true hreceiptOf).trans hid

/-- An attempt recorded as failed belongs to a send that is known to have failed. -/
lemma Traced.failedDefinitely (h : Traced world) (hrow : row ∈ world.tables.attempts)
    (hid : row.id = send.attemptId)
    (hdefinite : row.status = .failed → RaisedDefinitely world.trace send)
    (hfailed : row.status = .failed) : FailedDefinitely world send := by
  obtain ⟨error, hraised, hkind⟩ := hdefinite hfailed
  refine ⟨⟨error, hraised, hkind⟩, ?_, row, hrow, hid, hfailed⟩
  intro event hevent hanswer heq
  exact ⟨error, h.answered event hevent _ hraised hanswer True.intro heq, hkind⟩

/-- The send of a call to the sender. -/
def Event.called? : Event → Option Send
  | .called send => some send
  | _ => none

/-- The sends of a part, in the order in which they were made. -/
def World.sendsOf (world : World) (deliveryId partOrdinal : ℕ) : List Send :=
  (world.trace.filterMap Event.called?).filter fun send =>
    send.deliveryId = deliveryId ∧ send.partOrdinal = partOrdinal

/-- No attempt is sent twice. -/
lemma sent_once (digests : Digests) (actions : List Action) :
    UniqueKeys Send.attemptId ((worldAfter digests actions).trace.filterMap Event.called?) := by
  induction actions using List.reverseRecOn with
  | nil => exact List.nodup_nil
  | append_singleton actions action ih =>
    obtain ⟨-, htraced⟩ := worldAfter_traced digests actions
    rw [worldAfter, run_concat]
    change UniqueKeys _ (((worldAfter digests actions).step digests action).trace.filterMap _)
    have hmove := (worldAfter digests actions).step_move digests action
    generalize (worldAfter digests actions).step digests action = world' at hmove ⊢
    cases hmove with
    | unchanged | store | started => exact ih
    | @worked worker _ _ events hmem hmove =>
      change UniqueKeys _ (((worldAfter digests actions).trace ++ events).filterMap _)
      rw [List.filterMap_append]
      have hsilent : events.filterMap Event.called? = [] → UniqueKeys Send.attemptId
          ((worldAfter digests actions).trace.filterMap Event.called? ++
            events.filterMap Event.called?) := by
        intro hnil
        rwa [hnil, List.append_nil]
      cases hmove with
      | send hphase =>
        -- a worker about to send shows no event of its attempt
        have hshown := htraced.shown worker hmem
        rw [Worker.Shown, hphase] at hshown
        refine ih.append fun other hother => ?_
        obtain ⟨event, hevent, hcalled⟩ := List.mem_filterMap.mp hother
        cases event with
        | called => cases hcalled; exact hshown _ hevent
        | _ => cases hcalled
      | _ => exact hsilent rfl

/-- **No automatic resend.** In every run of any number of workers, with crashes and stalls
anywhere and any behaviour of the sender: of the sends of one part that are not known to have
failed there is at most one, and one more for each `retry` with `allow_uncertain` that found the
delivery uncertain at that part; and when a part is sent, the receipts of all parts before it are
committed. -/
theorem no_automatic_resend (digests : Digests) (actions : List Action)
    (deliveryId partOrdinal : ℕ) :
    (∀ sends : List Send,
      sends.Sublist ((worldAfter digests actions).sendsOf deliveryId partOrdinal) →
      (∀ send ∈ sends, ¬ FailedDefinitely (worldAfter digests actions) send) →
      sends.length ≤ 1 + uncertainRetries digests deliveryId partOrdinal (worldAfter digests [])
        actions) ∧
    ∀ action send, ((worldAfter digests actions).step digests action).trace =
        (worldAfter digests actions).trace ++ [.called send] → send.deliveryId = deliveryId →
      partOrdinal < send.partOrdinal →
        (getReceipt deliveryId partOrdinal (worldAfter digests actions).tables).isSome := by
  obtain ⟨howned, htraced⟩ := worldAfter_traced digests actions
  constructor
  · intro sends hsub hunknown
    have hkeys : (sends.map Send.attemptId).Nodup :=
      (sent_once digests actions).sublist ((hsub.trans List.filter_sublist).map _)
    -- each send has its own attempt, and none of these attempts has failed
    have hrows : sends.map Send.attemptId ⊆ (((worldAfter digests actions).tables.attemptsOf
        deliveryId).filter (Unfailed partOrdinal)).map DeliveryAttempt.id := by
      intro attemptId hattemptId
      obtain ⟨send, hsend, rfl⟩ := List.mem_map.mp hattemptId
      obtain ⟨hcalled, hpart⟩ := List.mem_filter.mp (hsub.subset hsend)
      obtain ⟨event, hevent, hevent'⟩ := List.mem_filterMap.mp hcalled
      cases event with
      | called =>
        cases hevent'
        obtain ⟨row, hrow, hid, hof, hrowPart, hdefinite⟩ := htraced.row _ hevent
        obtain ⟨hdelivery, hordinal⟩ := of_decide_eq_true hpart
        refine List.mem_map.mpr ⟨row, List.mem_filter.mpr ⟨?_, decide_eq_true ⟨?_, ?_⟩⟩, hid⟩
        · exact mem_attemptsOf.mpr ⟨hrow, hof.trans hdelivery⟩
        · exact hrowPart.trans hordinal
        · exact fun hfailed =>
            hunknown send hsend (htraced.failedDefinitely hrow hid hdefinite hfailed)
      | _ => cases hevent'
    have hlength := (hkeys.subperm hrows).length_le
    rw [List.length_map, List.length_map, ← List.countP_eq_length_filter] at hlength
    have hinitial : AllCounted (worldAfter digests []).tables deliveryId partOrdinal 0 := by
      rintro _ ⟨⟩
    have hcounted : AllCounted (worldAfter digests actions).tables deliveryId partOrdinal _ :=
      counted_run (worldAfter_traced digests []).1 hinitial actions
    refine (hlength.trans (hcounted.le howned.keyed)).trans_eq ?_
    rw [Nat.zero_add, Nat.add_comm]
  · rintro action send hsend rfl hlt
    obtain ⟨worker, hmem, delivery, attempt, hphase, rfl⟩ := called_of_step hsend
    obtain ⟨own, hown, hownId, hownOf, hownPart⟩ :=
      (howned.owns worker hmem).row delivery attempt (congrArg Phase.attempt? hphase)
    have hreceipt := receipts_before howned hown (hlt.trans_eq hownPart.symm)
    rwa [hownOf] at hreceipt

/-- A part whose send is refused with a retryable error, and the next worker sends it again. -/
def refusedRun : List Action :=
  [.save ⟨7, "workspace", "thread", "answer", none, none, none⟩ ⟨"wechat", "account", "chat"⟩ 1 0,
    .claim "wechat" "a" 0, .start "a" 1, .send "a", .answer "a" (.error (.apiError 429)),
    .report "a" 3 5 1, .claim "wechat" "b" 5, .start "b" 2, .send "b"]

/-- Of the two sends the first is known to have failed: nobody has retried the delivery, so they
cannot both be unknown. -/
theorem no_automatic_resend_refused :
    (worldAfter constantDigests refusedRun).sendsOf 1 0 = [⟨1, 0, "a", 1⟩, ⟨1, 0, "b", 2⟩] ∧
    FailedDefinitely (worldAfter constantDigests refusedRun) ⟨1, 0, "a", 1⟩ := by
  have hsends : (worldAfter constantDigests refusedRun).sendsOf 1 0 =
      [⟨1, 0, "a", 1⟩, ⟨1, 0, "b", 2⟩] := by decide +kernel
  have hretries : uncertainRetries constantDigests 1 0 (worldAfter constantDigests []) refusedRun = 0 := by
    decide +kernel
  have hunanswered : ∀ error, Event.raised ⟨1, 0, "b", 2⟩ error ∉
      (worldAfter constantDigests refusedRun).trace := by
    have htrace : (worldAfter constantDigests refusedRun).trace = [.called ⟨1, 0, "a", 1⟩,
        .raised ⟨1, 0, "a", 1⟩ (.apiError 429), .called ⟨1, 0, "b", 2⟩] := by decide +kernel
    rw [htrace]
    simp
  refine ⟨hsends, by_contra fun hunknown => ?_⟩
  have hbound := (no_automatic_resend constantDigests refusedRun 1 0).1 _ (List.Sublist.refl _) ?_
  · rw [hsends, hretries] at hbound
    exact absurd hbound (by decide)
  · rw [hsends]
    intro send hsend hfailed
    rcases List.mem_cons.mp hsend with rfl | hlast
    · exact hunknown hfailed
    · rw [List.mem_singleton.mp hlast] at hfailed
      obtain ⟨error, hraised, -⟩ := hfailed.raised
      exact hunanswered error hraised

/-- A worker stalls before its send, is taken over, and the operator has the part sent again; the
worker that takes over gets its receipt. -/
def stalledRun : List Action :=
  [.save ⟨7, "workspace", "thread", "answer", none, none, none⟩ ⟨"wechat", "account", "chat"⟩ 1 0,
    .claim "wechat" "a" 0, .start "a" 1, .recover 1 "wechat" 5 9, .retry 1 true none 10,
    .claim "wechat" "b" 10, .start "b" 2, .send "b", .answer "b" (.ok ("receipt", none)),
    .mark "b" none 11]

/-- The stalled worker sends the delivered part again, and no retry has been made since it was
delivered. -/
theorem stalled_worker_sends_again :
    (getReceipt 1 0 (worldAfter constantDigests stalledRun).tables).isSome ∧
    ((worldAfter constantDigests stalledRun).step constantDigests (.send "a")).trace =
      [.called ⟨1, 0, "b", 2⟩, .returned ⟨1, 0, "b", 2⟩, .called ⟨1, 0, "a", 1⟩] := by
  decide +kernel

end Runs

end AgentGateway.Delivery
