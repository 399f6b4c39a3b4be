import AgentGateway.Delivery.Attempts
import AgentGateway.Delivery.Worker

/-!
# Whose attempt it is

A worker starts its attempts itself: nothing of a delivery it has claimed is on its way, and while
it holds the claim nobody else can start one. So an attempt belongs to one worker, whatever
happens to its claim.
-/

namespace AgentGateway.Delivery

open Lib Lib.Table Lib.Run Response

/-- The attempt a worker is busy with, and the row it took the part from. A worker that has found
the receipt of its attempt is done with it. -/
def Phase.attempt? : Phase → Option (DeliveryOutboxRecord × DeliveryAttempt)
  | .attempting delivery attempt | .sending delivery attempt | .sent delivery attempt _ _
  | .failing delivery attempt _ | .ambiguous delivery attempt | .receiptMissing delivery attempt
  | .unsettled delivery attempt => some (delivery, attempt)
  | .looping _ | .receiptFound _ _ | .gone => none

/-- The attempt a worker is busy with is there; and an attempt on its way under its claim is that
one, for as long as the worker runs. -/
structure Owns (tables : DeliveryTables) (worker : Worker) : Prop where
  row : ∀ delivery attempt, worker.phase.attempt? = some (delivery, attempt) →
    ∃ row ∈ tables.attempts, row.id = attempt.id ∧ row.deliveryId = worker.deliveryId ∧
      row.partOrdinal = delivery.nextPartOrdinal
  active : worker.phase ≠ .gone → ∀ delivery ∈ tables.deliveries,
    delivery.claimToken = some worker.token → ∀ row ∈ tables.attempts,
      row.deliveryId = delivery.id → row.status = .delivering →
      ∃ held attempt, worker.phase.attempt? = some (held, attempt) ∧ attempt.id = row.id

/-- **Ownership.** An attempt belongs to one worker, and an attempt on its way belongs to the worker
that holds the claim, for as long as that worker runs. -/
structure Owned (world : World) : Prop where
  keyed : Keyed world.tables
  consistent : AllConsistent world.tables
  tokens : UniqueKeys Worker.token world.workers
  stripped : ∀ worker ∈ world.workers, strip worker.token = worker.token
  holder : ∀ delivery ∈ world.tables.deliveries, ∀ token, delivery.claimToken = some token →
    token ∈ world.workers.map Worker.token
  owns : ∀ worker ∈ world.workers, Owns world.tables worker
  distinct : ∀ worker ∈ world.workers, ∀ other ∈ world.workers, ∀ held attempt held' attempt',
    worker.phase.attempt? = some (held, attempt) → other.phase.attempt? = some (held', attempt') →
      attempt.id = attempt'.id → worker.token = other.token

/-- The world after a worker has moved, apart from the tables. -/
def World.worked (world : World) (worker : Worker) (phase : Phase) (events : List Event) : World :=
  { world with
    workers := updateWhere (fun other : Worker => other.token = worker.token)
      (fun other => { other with phase := phase }) world.workers
    trace := world.trace ++ events }

/-- A call that takes no claim and starts no attempt. -/
def Call.Passive : Call → Prop
  | .claimNext _ _ _ | .startAttempt _ _ _ _ => False
  | _ => True

section Ownership

variable {digests : Digests} {world : World} {tables' : DeliveryTables} {call : Call}
  {worker other : Worker} {phase : Phase} {events : List Event}

/-- The workers after one of them has moved. -/
lemma mem_worked (htokens : UniqueKeys Worker.token world.workers) (hmem : worker ∈ world.workers) :
    other ∈ updateWhere (fun row : Worker => row.token = worker.token)
        (fun row => { row with phase := phase }) world.workers ↔
      other = { worker with phase := phase } ∨
        other ∈ world.workers ∧ other.token ≠ worker.token := by
  rw [htokens.updateWhere_const hmem]
  exact mem_replace hmem

variable {attempt : DeliveryAttempt} {delivery : DeliveryOutboxRecord} {tables : DeliveryTables}
  {deliveryId partOrdinal attemptId : ℕ} {now : Timestamp}

/-- The attempts of the workers are still there after a step. -/
lemma Owned.row_kept (h : Owned world) (hstep : TablesStep digests world.tables call tables')
    (hmem : worker ∈ world.workers) (hattempt : worker.phase.attempt? = some (delivery, attempt)) :
    ∃ row ∈ tables'.attempts, row.id = attempt.id ∧ row.deliveryId = worker.deliveryId ∧
      row.partOrdinal = delivery.nextPartOrdinal := by
  obtain ⟨row, hrow, hid, hof, hpart⟩ := (h.owns worker hmem).row delivery attempt hattempt
  obtain ⟨row', hrow', hmove⟩ := hstep.attempt_kept h.keyed hrow
  obtain ⟨hid', hof', hpart'⟩ := hmove.identity
  exact ⟨row', hrow', hid'.trans hid, hof'.trans hof, hpart'.trans hpart⟩

/-- A step that takes no claim and starts no attempt keeps the ownership. -/
lemma Owned.stored (h : Owned world) (hstep : TablesStep digests world.tables call tables')
    (hpassive : call.Passive) : Owned { world with tables := tables' } := by
  have hclaim : ∀ {delivery' : DeliveryOutboxRecord} {token : String},
      delivery' ∈ tables'.deliveries → delivery'.claimToken = some token →
      ∃ delivery ∈ world.tables.deliveries, delivery.id = delivery'.id ∧
        delivery.claimToken = some token := by
    intro delivery' token hmem htoken
    obtain ⟨delivery, hdelivery, hid, hold | ⟨channel, claimToken, now, rfl, -⟩⟩ :=
      hstep.claim_origin hmem htoken
    · exact ⟨delivery, hdelivery, hid, hold⟩
    · exact absurd hpassive id
  refine ⟨hstep.keyed h.keyed, hstep.consistent h.keyed h.consistent, h.tokens, h.stripped, ?_,
    fun worker hmem => ⟨fun _ _ hattempt => h.row_kept hstep hmem hattempt, ?_⟩, h.distinct⟩
  · intro delivery' hmem token htoken
    obtain ⟨delivery, hdelivery, -, hold⟩ := hclaim hmem htoken
    exact h.holder delivery hdelivery token hold
  · intro hgone delivery' hdelivery' htoken row hrow hof hactive
    obtain ⟨delivery, hdelivery, hid, hold⟩ := hclaim hdelivery' htoken
    have hstart : ∀ deliveryId token partOrdinal attemptId,
        call ≠ .startAttempt deliveryId token partOrdinal attemptId := by
      rintro _ _ _ _ rfl
      exact hpassive
    have hrowOld := hstep.active_origin h.keyed hstart hrow hactive
    exact (h.owns worker hmem).active hgone delivery hdelivery hold row hrowOld
      (hof.trans hid.symm) hactive

/-- One worker moves, perhaps with a step on the tables: it is enough to look at that worker, and
at what the step means for the others. -/
lemma Owned.replace (h : Owned world) (hmem : worker ∈ world.workers) (hkeyed : Keyed tables')
    (hconsistent : AllConsistent tables')
    (hholder : ∀ delivery ∈ tables'.deliveries, ∀ token, delivery.claimToken = some token →
      token ∈ world.workers.map Worker.token)
    (hothers : ∀ other ∈ world.workers, other.token ≠ worker.token → Owns tables' other)
    (hown : Owns tables' { worker with phase := phase })
    (hdistinct : ∀ other ∈ world.workers, other.token ≠ worker.token →
      ∀ held attempt held' attempt', phase.attempt? = some (held, attempt) →
        other.phase.attempt? = some (held', attempt') → attempt.id ≠ attempt'.id) :
    Owned (World.worked { world with tables := tables' } worker phase events) := by
  have htokens : (world.worked worker phase events).workers.map Worker.token =
      world.workers.map Worker.token := map_key_updateWhere fun _ => rfl
  refine ⟨hkeyed, hconsistent, h.tokens.updateWhere fun _ => rfl, ?_, ?_, ?_, ?_⟩
  · intro other hother
    rcases (mem_worked h.tokens hmem).mp hother with rfl | ⟨hold, -⟩
    · exact h.stripped worker hmem
    · exact h.stripped other hold
  · intro delivery hdelivery token htoken
    exact htokens.symm ▸ hholder delivery hdelivery token htoken
  · intro other hother
    rcases (mem_worked h.tokens hmem).mp hother with rfl | ⟨hold, hne⟩
    · exact hown
    · exact hothers other hold hne
  · intro first hfirst second hsecond held attempt held' attempt' hsome hsome' hid
    rcases (mem_worked h.tokens hmem).mp hfirst with rfl | ⟨hold, hne⟩ <;>
      rcases (mem_worked h.tokens hmem).mp hsecond with rfl | ⟨hold', hne'⟩
    · rfl
    · exact absurd hid (hdistinct second hold' hne' held attempt held' attempt' hsome hsome')
    · exact absurd hid.symm (hdistinct first hold hne held' attempt' held attempt hsome' hsome)
    · exact h.distinct first hold second hold' held attempt held' attempt' hsome hsome' hid

/-- A worker that keeps its attempt, or drops it with nothing on its way, keeps the ownership. -/
lemma Owned.moved (h : Owned world) (hmem : worker ∈ world.workers)
    (hattempt : phase.attempt? = worker.phase.attempt? ∨ phase.attempt? = none)
    (hactive : phase = .gone ∨ (phase.attempt? = worker.phase.attempt? ∧ worker.phase ≠ .gone) ∨
      ∀ delivery ∈ world.tables.deliveries, delivery.claimToken = some worker.token →
        ∀ row ∈ world.tables.attempts, row.deliveryId = delivery.id → row.status ≠ .delivering) :
    Owned (world.worked worker phase events) := by
  have hkept : ∀ {held attempt}, phase.attempt? = some (held, attempt) →
      worker.phase.attempt? = some (held, attempt) := by
    intro held attempt hsome
    rcases hattempt with hsame | hnone
    · exact hsame.symm.trans hsome
    · rw [hnone] at hsome
      cases hsome
  refine h.replace hmem h.keyed h.consistent h.holder (fun other hother _ => h.owns other hother)
    ⟨fun held attempt hsome => (h.owns worker hmem).row held attempt (hkept hsome), ?_⟩ ?_
  · intro hgone delivery hdelivery htoken row hrow hof hdelivering
    rcases hactive with rfl | ⟨hsame, hrunning⟩ | hidle
    · exact absurd rfl hgone
    · obtain ⟨held, attempt, hsome, hid⟩ := (h.owns worker hmem).active hrunning delivery
        hdelivery htoken row hrow hof hdelivering
      exact ⟨held, attempt, hsame.trans hsome, hid⟩
    · exact absurd hdelivering (hidle delivery hdelivery htoken row hrow hof)
  · intro other hother hne held attempt held' attempt' hsome hsome' hid
    exact hne (h.distinct other hother worker hmem held' attempt' held attempt hsome'
      (hkept hsome) hid.symm)

/-- A worker in its loop starts an attempt of its own: nothing of its delivery is on its way. -/
lemma Owned.start_fresh (h : Owned world) (hmem : worker ∈ world.workers)
    (hphase : worker.phase = .looping delivery)
    (hstart : startAttempt worker.deliveryId worker.token partOrdinal attemptId world.tables =
      .ok (tables', attempt)) :
    ∃ row ∈ world.tables.deliveries, row.id = worker.deliveryId ∧
      row.claimToken = some worker.token ∧ attempt.deliveryId = row.id ∧
      attempt.partOrdinal = partOrdinal ∧ attempt.status = .delivering ∧
      (∀ other ∈ world.tables.attempts, other.id ≠ attempt.id) ∧
      tables' = { world.tables with attempts := world.tables.attempts ++ [attempt] } := by
  obtain ⟨row, hrow, hid, hstatus, htoken, hpart,
    ⟨-, hattempt, hactive⟩ | ⟨-, hfresh, rfl, htables⟩⟩ := startAttempt_eq_ok hstart
  · -- an attempt on its way would be the worker's, which has none
    rw [h.stripped worker hmem] at htoken
    have hgone : worker.phase ≠ .gone := by simp [hphase]
    obtain ⟨held, own, hsome, -⟩ := (h.owns worker hmem).active hgone row hrow htoken attempt
      hattempt (hactive.1.trans hid.symm) hactive.2.2
    rw [hphase] at hsome
    cases hsome
  · rw [h.stripped worker hmem] at htoken
    exact ⟨row, hrow, hid, htoken, rfl, rfl, rfl, hfresh, htables⟩

/-- Starting an attempt keeps the ownership. -/
lemma Owned.start (digests : Digests) (h : Owned world) (hmem : worker ∈ world.workers)
    (hphase : worker.phase = .looping delivery)
    (hstart : startAttempt worker.deliveryId worker.token delivery.nextPartOrdinal attemptId
      world.tables = .ok (tables', attempt)) :
    Owned (World.worked { world with tables := tables' } worker (.attempting delivery attempt)
      events) := by
  have hstep : TablesStep digests world.tables _ tables' := startAttempt_step h.keyed hstart
  have hkeyed := hstep.keyed h.keyed
  have hconsistent := hstep.consistent h.keyed h.consistent
  obtain ⟨row, hrow, hid, htoken, hof, hpart, -, hfresh, rfl⟩ :=
    h.start_fresh hmem hphase hstart
  refine h.replace hmem hkeyed hconsistent h.holder (fun other hother hne => ⟨?_, ?_⟩) ⟨?_, ?_⟩ ?_
  · intro held own hsome
    obtain ⟨old, holdRow, hrest⟩ := (h.owns other hother).row held own hsome
    exact ⟨old, List.mem_append_left _ holdRow, hrest⟩
  · intro hgone claimed hclaimed hheld active hactiveMem hactiveOf hdelivering
    rcases mem_concat.mp hactiveMem with hold | rfl
    · exact (h.owns other hother).active hgone claimed hclaimed hheld active hold hactiveOf
        hdelivering
    · -- the new attempt is under the claim of the worker that starts it
      obtain rfl := h.keyed.deliveries.eq_of_key_eq hclaimed hrow (hactiveOf.symm.trans hof)
      exact absurd (Option.some.inj (hheld.symm.trans htoken)) hne
  · rintro _ _ ⟨⟩
    exact ⟨attempt, List.mem_append_right _ (List.mem_singleton_self _), rfl, hof.trans hid, hpart⟩
  · intro _ claimed hclaimed hheld active hactiveMem hactiveOf hdelivering
    rcases mem_concat.mp hactiveMem with hold | rfl
    · have hrunning : worker.phase ≠ .gone := by simp [hphase]
      obtain ⟨held, own, hsome, -⟩ := (h.owns worker hmem).active hrunning claimed hclaimed hheld
        active hold hactiveOf hdelivering
      rw [hphase] at hsome
      cases hsome
    · exact ⟨delivery, active, rfl, rfl⟩
  · -- another worker's attempt is older than the new one
    rintro other hother - _ _ held own ⟨⟩ hsome heq
    obtain ⟨old, hold, holdId, -⟩ := (h.owns other hother).row held own hsome
    exact hfresh old hold (holdId.trans heq.symm)

/-- A claim with a fresh token keeps the ownership: nothing of a queued delivery is on its way. -/
lemma Owned.claimed (digests : Digests) (h : Owned world) {channel token : String}
    {claimedId : Option ℕ} (hfresh : ∀ worker ∈ world.workers, worker.token ≠ token)
    (hstrip : strip token = token)
    (hclaim : claimNext channel token now world.tables = .ok (tables', claimedId)) :
    Owned { world with
      tables := tables'
      workers := world.workers ++ [⟨delivery.id, token, .looping delivery⟩] } := by
  have hstep : TablesStep digests world.tables _ tables' := claimNext_step h.keyed hclaim
  have horigin : ∀ {claimed : DeliveryOutboxRecord} {held : String},
      claimed ∈ tables'.deliveries → claimed.claimToken = some held →
      ∃ old ∈ world.tables.deliveries, old.id = claimed.id ∧ (old.claimToken = some held ∨
        held = token ∧ old.status = .queued) := by
    intro claimed held hmem htoken
    obtain ⟨old, hold, hid, hheld | ⟨channel', token', now', hcall, hheld, hqueued, -⟩⟩ :=
      hstep.claim_origin hmem htoken
    · exact ⟨old, hold, hid, Or.inl hheld⟩
    · cases hcall
      exact ⟨old, hold, hid, Or.inr ⟨hheld.trans hstrip, hqueued⟩⟩
  have hactiveOrigin : ∀ {row : DeliveryAttempt}, row ∈ tables'.attempts →
      row.status = .delivering → row ∈ world.tables.attempts := by
    intro row hrow hactive
    exact hstep.active_origin h.keyed (fun _ _ _ _ => Call.noConfusion) hrow hactive
  refine ⟨hstep.keyed h.keyed, hstep.consistent h.keyed h.consistent, h.tokens.append hfresh, ?_,
    ?_, fun worker hmem => ⟨?_, ?_⟩, ?_⟩
  · intro worker hmem
    rcases mem_concat.mp hmem with hold | rfl
    · exact h.stripped worker hold
    · exact hstrip
  · intro claimed hclaimed held hheld
    rw [List.map_append]
    obtain ⟨old, hold, -, hbefore | ⟨rfl, -⟩⟩ := horigin hclaimed hheld
    · exact List.mem_append_left _ (h.holder old hold held hbefore)
    · exact List.mem_append_right _ (List.mem_singleton_self _)
  · intro held attempt hsome
    rcases mem_concat.mp hmem with hold | rfl
    · exact h.row_kept hstep hold hsome
    · cases hsome
  · intro hgone claimed hclaimed hheld row hrow hof hactive
    have hrowOld := hactiveOrigin hrow hactive
    obtain ⟨old, hold, hid, hbefore | ⟨htoken, hqueued⟩⟩ := horigin hclaimed hheld
    · rcases mem_concat.mp hmem with hworker | rfl
      · exact (h.owns worker hworker).active hgone old hold hbefore row hrowOld
          (hof.trans hid.symm) hactive
      · obtain ⟨holder, hholder, htoken⟩ := List.mem_map.mp (h.holder old hold token hbefore)
        exact absurd htoken (hfresh holder hholder)
    -- a queued delivery has nothing running
    · obtain ⟨response, -, -, hledger, -⟩ := h.consistent.of_mem h.keyed hold
      have hdelivering := (hledger.active_at row
        (mem_attemptsOf.mpr ⟨hrowOld, hof.trans hid.symm⟩) hactive).1
      rw [hqueued] at hdelivering
      cases hdelivering
  · intro first hfirst second hsecond held attempt held' attempt' hsome hsome'
    rcases mem_concat.mp hfirst with hold | rfl
    · rcases mem_concat.mp hsecond with hold' | rfl
      · exact h.distinct first hold second hold' held attempt held' attempt' hsome hsome'
      · cases hsome'
    · cases hsome

/-- Once a part has been marked, its attempt is over. -/
lemma markPartDelivered_ended {claimToken payload : String} {messageId : Option String}
    (h : markPartDelivered deliveryId claimToken attemptId partOrdinal payload messageId now
      tables = .ok tables') :
    ∀ row ∈ tables'.attempts, row.id = attemptId → row.status = .delivered := by
  simp only [markPartDelivered, bind_eq_ok, raiseIf_eq_ok] at h
  obtain ⟨delivery, -, active, hactive, -, -, -, -, h⟩ := h
  obtain ⟨-, rfl, -⟩ := requiredAttempt_eq_ok hactive
  split at h
  · cases h
  · simp only [bind_eq_ok] at h
    obtain ⟨deliveries, -, responses, -, -, -, h⟩ := h
    cases h
    intro row hrow hid
    rcases updateWhere_cases hrow with ⟨-, hne⟩ | ⟨old, -, -, rfl⟩
    · exact absurd hid hne
    · rfl

lemma passive_failureCall (worker : Worker) (attempt : DeliveryAttempt)
    (error : DeliveryException) (maxAttempts : ℕ) (availableAt now : Timestamp) :
    (failureCall worker attempt error maxAttempts availableAt now).Passive := by
  unfold failureCall
  split
  · split_ifs <;> exact True.intro
  · exact True.intro
  · exact True.intro

lemma getReceipt_eq_some {receipt : DeliveryReceipt}
    (h : getReceipt deliveryId partOrdinal tables = some receipt) :
    receipt ∈ tables.receipts ∧ receipt.deliveryId = deliveryId ∧
      receipt.partOrdinal = partOrdinal := by
  unfold getReceipt at h
  exact ⟨List.mem_of_find?_eq_some h, by simpa using List.find?_some h⟩

/-- A part with a receipt has no attempt on its way. -/
lemma Owned.idle_of_receipt (h : Owned world) (hmem : worker ∈ world.workers)
    (hphase : worker.phase.attempt? = some (delivery, attempt)) (hrunning : worker.phase ≠ .gone)
    (hreceipt : (getReceipt worker.deliveryId delivery.nextPartOrdinal world.tables).isSome) :
    ∀ claimed ∈ world.tables.deliveries, claimed.claimToken = some worker.token →
      ∀ row ∈ world.tables.attempts, row.deliveryId = claimed.id → row.status ≠ .delivering := by
  intro claimed hclaimed htoken row hrow hof hactive
  obtain ⟨held, own, hsome, hid⟩ := (h.owns worker hmem).active hrunning claimed hclaimed htoken
    row hrow hof hactive
  cases hphase.symm.trans hsome
  obtain ⟨own', hown', hownId, hownOf, hownPart⟩ := (h.owns worker hmem).row delivery attempt hphase
  obtain rfl := h.keyed.attempts.eq_of_key_eq hown' hrow (hownId.trans hid)
  obtain ⟨response, -, -, hledger, -⟩ := h.consistent.of_mem h.keyed hclaimed
  have hnext := (hledger.active_at own' (mem_attemptsOf.mpr ⟨hrow, hof⟩) hactive).2
  -- the receipt says that this part lies behind
  obtain ⟨receipt, hfound⟩ := Option.isSome_iff_exists.mp hreceipt
  obtain ⟨hreceiptMem, hreceiptOf, hreceiptPart⟩ := getReceipt_eq_some hfound
  have hbehind : receipt.partOrdinal ∈ List.range claimed.nextPartOrdinal := by
    rw [← hledger.receipts_eq]
    refine List.mem_map_of_mem (List.mem_filter.mpr ⟨hreceiptMem, ?_⟩)
    exact decide_eq_true (hreceiptOf.trans (hownOf.symm.trans hof))
  rw [List.mem_range, hreceiptPart, ← hownPart, hnext] at hbehind
  exact lt_irrefl _ hbehind

/-- Every move of a worker keeps the ownership. -/
lemma Owned.worked (h : Owned world) (hmem : worker ∈ world.workers)
    (hmove : WorkerMove digests world.tables worker tables' phase events) :
    Owned (World.worked { world with tables := tables' } worker phase events) := by
  -- most steps leave the tables alone and keep the attempt
  have hkeep : ∀ {next : Phase} {delivery attempt},
      worker.phase.attempt? = some (delivery, attempt) → next.attempt? = some (delivery, attempt) →
      Owned (world.worked worker next events) := by
    intro next delivery attempt hold hnew
    have hrunning : worker.phase ≠ .gone := by
      intro hgone
      rw [hgone] at hold
      cases hold
    exact h.moved hmem (Or.inl (hnew.trans hold.symm)) (Or.inr (Or.inl ⟨hnew.trans hold.symm,
      hrunning⟩))
  cases hmove with
  | idle =>
    by_cases hgone : worker.phase = .gone
    · exact h.moved hmem (Or.inl rfl) (Or.inl hgone)
    · exact h.moved hmem (Or.inl rfl) (Or.inr (Or.inl ⟨rfl, hgone⟩))
  | leave => exact h.moved hmem (Or.inr rfl) (Or.inl rfl)
  | start hphase hstart => exact h.start digests hmem hphase hstart
  | abort hphase | send hphase | returned hphase | raised hphase | lost hphase | missing hphase
  | unsettle hphase => exact hkeep (congrArg Phase.attempt? hphase) rfl
  | @marked delivery attempt _ _ _ _ _ hphase hmark hnext =>
    have hstep : TablesStep digests world.tables _ tables' := markPartDelivered_step h.keyed hmark
    have hstored := h.stored hstep True.intro
    have hsome : worker.phase.attempt? = some (delivery, attempt) := congrArg Phase.attempt? hphase
    have hrunning : worker.phase ≠ .gone := by simp [hphase]
    rcases hnext with rfl | rfl
    -- the worker goes on without the attempt, which has ended
    · refine hstored.moved hmem (Or.inr rfl) (Or.inr (Or.inr ?_))
      intro claimed hclaimed htoken row hrow hof hactive
      obtain ⟨held, own, hown, hid⟩ := (hstored.owns worker hmem).active hrunning claimed hclaimed
        htoken row hrow hof hactive
      cases hsome.symm.trans hown
      rw [markPartDelivered_ended hmark row hrow hid.symm] at hactive
      cases hactive
    · exact hstored.moved hmem (Or.inl hsome.symm) (Or.inr (Or.inl ⟨hsome.symm, hrunning⟩))
  | found hphase hreceipt =>
    have hrunning : worker.phase ≠ .gone := by simp [hphase]
    exact h.moved hmem (Or.inr rfl) (Or.inr (Or.inr
      (h.idle_of_receipt hmem (congrArg Phase.attempt? hphase) hrunning hreceipt)))
  | resume hphase =>
    have hnone : worker.phase.attempt? = none := congrArg Phase.attempt? hphase
    have hrunning : worker.phase ≠ .gone := by simp [hphase]
    exact h.moved hmem (Or.inr rfl) (Or.inr (Or.inl ⟨hnone.symm, hrunning⟩))
  | settle =>
    refine (h.stored (step_cases h.keyed) ?_).moved hmem (Or.inr rfl) (Or.inl rfl)
    exact True.intro
  | report =>
    exact (h.stored (step_cases h.keyed) (passive_failureCall _ _ _ _ _ _)).moved hmem (Or.inr rfl)
      (Or.inl rfl)

/-- Every step keeps the ownership. -/
lemma Owned.step {action : Action} (h : Owned world) : Owned (world.step digests action) := by
  have hmove := world.step_move digests action
  generalize world.step digests action = world' at hmove ⊢
  cases hmove with
  | unchanged => exact h
  | store hcall =>
    refine h.stored (step_cases h.keyed) ?_
    cases action <;> cases hcall <;> exact True.intro
  | started hfresh hstrip hclaim => exact h.claimed digests hfresh hstrip hclaim
  | worked hmem hmove => exact h.worked hmem hmove

end Ownership

end AgentGateway.Delivery
