import AgentGateway.Dispatch.Fifo

/-!
# Enqueue transactions and the two orders of a thread

`Dispatch.System` takes an enqueue as one committed call, with whatever id and creation time the
database gave it. Here the database's side is spelled out, with PostgreSQL's rules: `func.now()` is
the start of the transaction, an id is drawn from the sequence when the row is inserted, and
`SELECT … FOR UPDATE` on the AI thread makes the inserters of one thread wait for each other until
commit or rollback.

The lock orders the ids of a thread like its commits. It does nothing for the creation times: a
transaction that started early and waited long commits late with an early time.
-/

namespace AgentGateway.Dispatch

open Lib Lib.Run Admission

/-! ## Transactions -/

/-- Where an enqueue transaction stands. -/
inductive EnqueuePhase
  | started
  | locked
  | inserted (id : ℕ)
  | ended
  deriving DecidableEq, Repr

/-- An enqueue transaction of some session, with the time at which it started. -/
structure EnqueueTransaction where
  admission : AdmissionOutcome
  startedAt : Timestamp
  phase : EnqueuePhase

/-- The thread whose row the transaction locks. -/
def EnqueueTransaction.thread? (transaction : EnqueueTransaction) : Option String :=
  match dispatchTarget transaction.admission with
  | .ok target => some target.aiThreadId
  | .error _ => none

/-- The transaction has the row lock of the thread. -/
def EnqueueTransaction.HasLock (transaction : EnqueueTransaction) (threadId : String) : Prop :=
  transaction.thread? = some threadId ∧ transaction.phase ≠ .started ∧ transaction.phase ≠ .ended

instance (transaction : EnqueueTransaction) (threadId : String) :
    Decidable (transaction.HasLock threadId) :=
  inferInstanceAs (Decidable (_ ∧ _ ∧ _))

/-- The committed tables, the database's clock and sequence, and the transactions begun so far. -/
structure QueueWorld where
  tables : DispatchTables
  clock : Timestamp
  nextId : ℕ
  transactions : List EnqueueTransaction

/-- A step of the database: time passes, one statement of the transaction with the given number
runs, or some other call commits. -/
inductive QueueAction
  | tick (elapsed : ℕ)
  | begin_ (admission : AdmissionOutcome)
  | lock (index : ℕ)
  | insert (index : ℕ)
  | commit (index : ℕ)
  | rollback (index : ℕ)
  | call (call : Call)

namespace QueueWorld

/-- The world with another phase for one transaction. -/
def setPhase (world : QueueWorld) (index : ℕ) (transaction : EnqueueTransaction)
    (phase : EnqueuePhase) : QueueWorld :=
  { world with transactions := world.transactions.set index { transaction with phase := phase } }

/-- The first lookup of `stage_enqueue` and the `FOR UPDATE`. A target that is refused or already
has its record ends the transaction; a lock that another one has is waited for. -/
def lock (world : QueueWorld) (index : ℕ) (transaction : EnqueueTransaction) : QueueWorld :=
  match dispatchTarget transaction.admission with
  | .error _ => world.setPhase index transaction .ended
  | .ok target =>
    if (existingFor target world.tables.records).isSome then
      world.setPhase index transaction .ended
    else if ∃ other ∈ world.transactions, other.HasLock target.aiThreadId then world
    else world.setPhase index transaction .locked

/-- The second lookup of `stage_enqueue` and the `INSERT`, which draws the id. -/
def insert (world : QueueWorld) (index : ℕ) (transaction : EnqueueTransaction) : QueueWorld :=
  match dispatchTarget transaction.admission with
  | .error _ => world.setPhase index transaction .ended
  | .ok target =>
    if (existingFor target world.tables.records).isSome then
      world.setPhase index transaction .ended
    else
      { world.setPhase index transaction (.inserted world.nextId) with
        nextId := world.nextId + 1 }

/-- The commit of an inserted row; a duplicate of a row that came first has been rolled back. -/
def commit (world : QueueWorld) (index : ℕ) (transaction : EnqueueTransaction) (id : ℕ) :
    QueueWorld :=
  { world.setPhase index transaction .ended with
    tables := Dispatch.step world.tables
      (.enqueue transaction.admission id transaction.startedAt) }

/-- One step. A statement that its transaction has not come to does nothing. -/
def step (world : QueueWorld) : QueueAction → QueueWorld
  | .tick elapsed => { world with clock := world.clock + elapsed }
  | .begin_ admission =>
    { world with transactions := world.transactions ++ [⟨admission, world.clock, .started⟩] }
  | .lock index =>
    match world.transactions[index]? with
    | some transaction =>
      if transaction.phase = .started then world.lock index transaction else world
    | none => world
  | .insert index =>
    match world.transactions[index]? with
    | some transaction =>
      if transaction.phase = .locked then world.insert index transaction else world
    | none => world
  | .commit index =>
    match world.transactions[index]? with
    | some transaction =>
      match transaction.phase with
      | .inserted id => world.commit index transaction id
      | _ => world
    | none => world
  | .rollback index =>
    match world.transactions[index]? with
    | some transaction => world.setPhase index transaction .ended
    | none => world
  | .call (.enqueue ..) => world
  | .call call => { world with tables := Dispatch.step world.tables call }

end QueueWorld

/-- A database whose sequence and tables are new. -/
def queueInitial (threads : List AIThread) (clock : Timestamp) : QueueWorld :=
  ⟨initial threads, clock, 1, []⟩

/-- The world after a run. -/
def queueAfter (threads : List AIThread) (clock : Timestamp) (actions : List QueueAction) :
    QueueWorld :=
  run QueueWorld.step (queueInitial threads clock) actions

/-! ## What a step can do -/

/-- The row an enqueue adds to the records, if it adds one. -/
def enqueued? (records : List HermesDispatchRecord) (admission : AdmissionOutcome) (id : ℕ)
    (createdAt : Timestamp) : Option HermesDispatchRecord :=
  match stageEnqueue admission id createdAt records with
  | .ok (_, record, true) => some record
  | _ => none

/-- The row a step commits, if it commits one. -/
def committed? (world : QueueWorld) : QueueAction → Option HermesDispatchRecord
  | .commit index =>
    match world.transactions[index]? with
    | some transaction =>
      match transaction.phase with
      | .inserted id =>
        enqueued? world.tables.records transaction.admission id transaction.startedAt
      | _ => none
    | none => none
  | _ => none

section Enqueue

variable {records : List HermesDispatchRecord} {admission : AdmissionOutcome} {id : ℕ}
  {createdAt : Timestamp} {record : HermesDispatchRecord}

/-- An enqueue is refused, finds a record, or appends the new one. -/
lemma enqueue_records (tables : DispatchTables) (admission : AdmissionOutcome) (id : ℕ)
    (createdAt : Timestamp) :
    (step tables (.enqueue admission id createdAt)).records =
      tables.records ++ (enqueued? tables.records admission id createdAt).toList := by
  have hstaged : ∀ records' record created,
      stageEnqueue admission id createdAt tables.records = .ok (records', record, created) →
      records' = tables.records ++ if created then [record] else [] := by
    intro records' record created h
    simp only [stageEnqueue, bind_eq_ok] at h
    obtain ⟨target, -, h⟩ := h
    split at h
    · obtain ⟨found, -, h⟩ := bind_eq_ok.mp h
      cases h
      simp
    · obtain ⟨-, -, h⟩ := bind_eq_ok.mp h
      cases h
      simp
  unfold step attempt enqueued?
  cases hstage : stageEnqueue admission id createdAt tables.records with
  | error e => simp [withRecords, hstage]
  | ok staged =>
    obtain ⟨records', record, created⟩ := staged
    have hrecords := hstaged _ _ _ hstage
    cases created <;> simpa [withRecords, hstage] using hrecords

/-- The row an enqueue adds is the new record of its target. -/
lemma enqueued?_eq_some (h : enqueued? records admission id createdAt = some record) :
    ∃ target, dispatchTarget admission = .ok target ∧ record = newRecord target id createdAt := by
  unfold enqueued? at h
  split at h
  · rename_i records' record' hstage
    cases h
    simp only [stageEnqueue, bind_eq_ok] at hstage
    obtain ⟨target, htarget, hstage⟩ := hstage
    refine ⟨target, htarget, ?_⟩
    split at hstage
    · obtain ⟨found, -, hstage⟩ := bind_eq_ok.mp hstage
      cases hstage
    · obtain ⟨-, -, hstage⟩ := bind_eq_ok.mp hstage
      cases hstage
      rfl
  · cases h

end Enqueue

/-- What one step does to the transactions and the records, and when. -/
inductive QueueMove (world : QueueWorld) (action : QueueAction) : QueueWorld → Prop
  | stay {clock} (hcommitted : committed? world action = none) :
      QueueMove world action { world with clock := clock }
  | began {admission} (haction : action = .begin_ admission) :
      QueueMove world action
        { world with transactions := world.transactions ++ [⟨admission, world.clock, .started⟩] }
  | ended {index transaction} (hcommitted : committed? world action = none) :
      QueueMove world action (world.setPhase index transaction .ended)
  | locked {index transaction} (hcommitted : committed? world action = none)
      (hfree : ∀ threadId, transaction.thread? = some threadId →
        ∀ other ∈ world.transactions, ¬ other.HasLock threadId) :
      QueueMove world action (world.setPhase index transaction .locked)
  | inserted {index transaction} (hget : world.transactions[index]? = some transaction)
      (hcommitted : committed? world action = none) (hlocked : transaction.phase = .locked) :
      QueueMove world action
        { world.setPhase index transaction (.inserted world.nextId) with
          nextId := world.nextId + 1 }
  | committed {index transaction id} (haction : action = .commit index)
      (hget : world.transactions[index]? = some transaction)
      (hphase : transaction.phase = .inserted id) :
      QueueMove world action (world.commit index transaction id)
  | called {call} (haction : action = .call call)
      (hcall : ∀ admission id createdAt, call ≠ .enqueue admission id createdAt) :
      QueueMove world action { world with tables := step world.tables call }

variable {transaction : EnqueueTransaction} {record : HermesDispatchRecord} {action : QueueAction}
  {world world' : QueueWorld} {tables : DispatchTables}

lemma thread?_eq_some {target : DispatchTarget}
    (h : dispatchTarget transaction.admission = .ok target) :
    transaction.thread? = some target.aiThreadId := by
  rw [EnqueueTransaction.thread?, h]

lemma QueueWorld.lock_move (world : QueueWorld) (index : ℕ) (transaction : EnqueueTransaction) :
    QueueMove world (.lock index) (world.lock index transaction) := by
  unfold QueueWorld.lock
  split
  · exact .ended rfl
  · rename_i target htarget
    split_ifs with hexisting hheld
    · exact .ended rfl
    · exact .stay rfl
    · refine .locked rfl ?_
      intro threadId hthread other hother hlock
      rw [thread?_eq_some htarget] at hthread
      cases hthread
      exact hheld ⟨other, hother, hlock⟩

lemma QueueWorld.insert_move (world : QueueWorld) {index : ℕ}
    (hget : world.transactions[index]? = some transaction) (hlocked : transaction.phase = .locked) :
    QueueMove world (.insert index) (world.insert index transaction) := by
  unfold QueueWorld.insert
  split
  · exact .ended rfl
  · split_ifs with hexisting
    · exact .ended rfl
    · exact .inserted hget rfl hlocked

theorem QueueWorld.step_move (world : QueueWorld) (action : QueueAction) :
    QueueMove world action (world.step action) := by
  cases action with
  | tick elapsed => exact .stay rfl
  | begin_ admission => exact .began rfl
  | lock index =>
    dsimp only [QueueWorld.step]
    split
    · rename_i transaction hget
      split_ifs
      · exact world.lock_move index transaction
      · exact .stay rfl
    · exact .stay rfl
  | insert index =>
    dsimp only [QueueWorld.step]
    split
    · rename_i transaction hget
      split_ifs with hlocked
      · exact world.insert_move hget hlocked
      · exact .stay rfl
    · exact .stay rfl
  | commit index =>
    dsimp only [QueueWorld.step]
    split
    · rename_i transaction hget
      split
      · rename_i id hphase
        exact .committed rfl hget hphase
      · rename_i hphase
        refine .stay ?_
        simp only [committed?, hget]
    · rename_i hget
      refine .stay ?_
      simp only [committed?, hget]
  | rollback index =>
    dsimp only [QueueWorld.step]
    split
    · exact .ended rfl
    · exact .stay rfl
  | call call =>
    cases call with
    | enqueue admission id createdAt => exact .stay rfl
    | _ => exact .called rfl fun _ _ _ h => by cases h

/-! ## Keys -/

/-- What the orders of a thread are made of. -/
structure QueueKey where
  threadId : String
  createdAt : Timestamp
  id : ℕ
  deriving DecidableEq, Repr

/-- The key of a record. -/
def HermesDispatchRecord.queueKey (record : HermesDispatchRecord) : QueueKey :=
  ⟨record.aiThreadId, record.createdAt, record.id⟩

/-- The keys of the committed records, in commit order. -/
def QueueWorld.keys (world : QueueWorld) : List QueueKey :=
  world.tables.records.map HermesDispatchRecord.queueKey

lemma step_keys {call : Call}
    (hcall : ∀ admission id createdAt, call ≠ .enqueue admission id createdAt) :
    (step tables call).records.map HermesDispatchRecord.queueKey =
      tables.records.map HermesDispatchRecord.queueKey := by
  rcases step_records tables call with ⟨g, hrecords, hmove⟩ |
    ⟨admission, target, id, createdAt, henqueue, -⟩
  · rw [hrecords, List.map_map]
    refine List.map_congr_left fun record hmem => ?_
    obtain ⟨hid, -, hthread, hcreated⟩ := (hmove record hmem).identity
    simp only [Function.comp_apply, HermesDispatchRecord.queueKey, hid, hthread, hcreated]
  · exact absurd henqueue (hcall _ _ _)

/-- A step adds the key of the row it commits behind the others, and changes no other key. -/
lemma QueueMove.keys (h : QueueMove world action world') : world'.keys =
      world.keys ++ (committed? world action).toList.map HermesDispatchRecord.queueKey := by
  cases h with
  | stay hcommitted => simp [QueueWorld.keys, hcommitted]
  | began haction => simp [QueueWorld.keys, haction, committed?]
  | ended hcommitted | locked hcommitted | inserted hget hcommitted =>
    simp [QueueWorld.keys, QueueWorld.setPhase, hcommitted]
  | committed haction hget hphase =>
    subst haction
    simp only [QueueWorld.keys, QueueWorld.commit, enqueue_records, committed?, hget, hphase,
      List.map_append]
  | called haction hcall =>
    subst haction
    simp only [QueueWorld.keys, step_keys hcall, committed?, Option.toList_none,
      List.map_nil, List.append_nil]

/-- The row a step commits is the one its transaction inserted. -/
lemma committed?_eq_some (h : committed? world action = some record) :
    ∃ index transaction, action = .commit index ∧
      world.transactions[index]? = some transaction ∧ transaction.phase = .inserted record.id ∧
      transaction.thread? = some record.aiThreadId ∧ transaction.startedAt = record.createdAt := by
  unfold committed? at h
  split at h
  · rename_i index
    split at h
    · rename_i transaction hget
      split at h
      · rename_i id hphase
        obtain ⟨target, htarget, rfl⟩ := enqueued?_eq_some h
        exact ⟨index, transaction, rfl, hget, hphase, thread?_eq_some htarget, rfl⟩
      · cases h
    · cases h
  · cases h

lemma mem_keys (h : record ∈ world.tables.records) : record.queueKey ∈ world.keys :=
  List.mem_map_of_mem h

/-- The committed keys are those of the rows that the steps of the run have committed. -/
lemma mem_keys_iff {threads : List AIThread} {clock : Timestamp} {key : QueueKey}
    (actions : List QueueAction) : key ∈ (queueAfter threads clock actions).keys ↔
      ∃ before action later, actions = before ++ action :: later ∧
        ∃ record ∈ committed? (queueAfter threads clock before) action, record.queueKey = key := by
  induction actions using List.reverseRecOn with
  | nil => simp [queueAfter, queueInitial, initial, QueueWorld.keys]
  | append_singleton actions last ih =>
    rw [queueAfter, run_concat, ← queueAfter,
      ((queueAfter threads clock actions).step_move last).keys, List.mem_append, ih]
    constructor
    · rintro (⟨before, action, later, rfl, hrow⟩ | hnew)
      · exact ⟨before, action, later ++ [last], by simp, hrow⟩
      · obtain ⟨record, hrow, hkey⟩ := List.mem_map.mp hnew
        exact ⟨actions, last, [], rfl, record, Option.mem_toList.mp hrow, hkey⟩
    · rintro ⟨before, action, later, hsplit, record, hrow, hkey⟩
      rcases List.eq_nil_or_concat later with rfl | ⟨later, last', rfl⟩
      · obtain ⟨rfl, hlast⟩ := List.append_inj' hsplit rfl
        cases hlast
        exact Or.inr (List.mem_map.mpr ⟨record, Option.mem_toList.mpr hrow, hkey⟩)
      · rw [List.concat_eq_append, ← List.cons_append, ← List.append_assoc] at hsplit
        obtain ⟨rfl, -⟩ := List.append_inj' hsplit rfl
        exact Or.inl ⟨before, action, later, rfl, record, hrow, hkey⟩

/-! ## The lock orders the ids -/

/-- The transaction with this number has the row lock of the thread. -/
def QueueWorld.LockedAt (world : QueueWorld) (index : ℕ) (threadId : String) : Prop :=
  ∃ transaction, world.transactions[index]? = some transaction ∧ transaction.HasLock threadId

/-- The invariant of the sequence and the row locks. -/
structure Serialized (world : QueueWorld) : Prop where
  fresh : ∀ key ∈ world.keys, key.id < world.nextId
  drawn : ∀ transaction ∈ world.transactions, ∀ id, transaction.phase = .inserted id →
    id < world.nextId ∧
      ∀ key ∈ world.keys, transaction.thread? = some key.threadId → key.id < id
  exclusive : ∀ i j threadId, world.LockedAt i threadId → world.LockedAt j threadId → i = j
  byId : world.keys.Pairwise fun a b => a.threadId = b.threadId → a.id < b.id

section Serialized

variable {world : QueueWorld} {index : ℕ} {transaction t : EnqueueTransaction}
  {phase : EnqueuePhase}

lemma mem_setPhase (h : t ∈ (world.setPhase index transaction phase).transactions) :
    t ∈ world.transactions ∨ t = { transaction with phase := phase } :=
  List.mem_or_eq_of_mem_set h

/-- After a change of phase another transaction is what it was. -/
lemma getElem?_setPhase {i : ℕ}
    (h : (world.setPhase index transaction phase).transactions[i]? = some t) :
    i = index ∧ t = { transaction with phase := phase } ∨
      i ≠ index ∧ world.transactions[i]? = some t := by
  simp only [QueueWorld.setPhase, List.getElem?_set] at h
  by_cases hi : index = i
  · rw [if_pos hi] at h
    by_cases hlt : index < world.transactions.length
    · rw [if_pos hlt] at h
      exact Or.inl ⟨hi.symm, (Option.some.inj h).symm⟩
    · rw [if_neg hlt] at h
      cases h
  · rw [if_neg hi] at h
    exact Or.inr ⟨Ne.symm hi, h⟩

/-- A step that commits no row may give locks back and draw a new id. -/
lemma Serialized.of_keys (h : Serialized world) (hkeys : world'.keys = world.keys)
    (hnext : world.nextId ≤ world'.nextId)
    (hdrawn : ∀ t ∈ world'.transactions, ∀ id, t.phase = .inserted id →
      t ∈ world.transactions ∨ world.nextId ≤ id ∧ id < world'.nextId)
    (hlocks : ∀ i threadId, world'.LockedAt i threadId → world.LockedAt i threadId) :
    Serialized world' := by
  refine ⟨?_, ?_, ?_, ?_⟩
  · rw [hkeys]
    exact fun key hkey => (h.fresh key hkey).trans_le hnext
  · intro t ht id hphase
    rw [hkeys]
    rcases hdrawn t ht id hphase with hold | ⟨hge, hlt⟩
    · obtain ⟨hlt, hlast⟩ := h.drawn t hold id hphase
      exact ⟨hlt.trans_le hnext, hlast⟩
    · exact ⟨hlt, fun key hkey _ => (h.fresh key hkey).trans_le hge⟩
  · intro i j threadId hi hj
    exact h.exclusive i j threadId (hlocks i threadId hi) (hlocks j threadId hj)
  · rw [hkeys]
    exact h.byId

/-- A transaction that ends gives its lock back and takes nothing from the others. -/
lemma Serialized.ended (h : Serialized world) (index : ℕ) (transaction : EnqueueTransaction) :
    Serialized (world.setPhase index transaction .ended) := by
  refine h.of_keys rfl le_rfl ?_ ?_
  · intro t ht id hphase
    rcases mem_setPhase ht with ht | rfl
    · exact Or.inl ht
    · cases hphase
  · rintro i threadId ⟨t, hget, hlock⟩
    rcases getElem?_setPhase hget with ⟨-, rfl⟩ | ⟨-, hget⟩
    · exact absurd rfl hlock.2.2
    · exact ⟨t, hget, hlock⟩

lemma Serialized.began (h : Serialized world) (admission : AdmissionOutcome) :
    Serialized { world with
      transactions := world.transactions ++ [⟨admission, world.clock, .started⟩] } := by
  refine h.of_keys rfl le_rfl ?_ ?_
  · intro t ht id hphase
    rcases mem_concat.mp ht with ht | rfl
    · exact Or.inl ht
    · cases hphase
  · rintro i threadId ⟨t, hget, hlock⟩
    rw [List.getElem?_append] at hget
    split_ifs at hget
    · exact ⟨t, hget, hlock⟩
    · rw [List.mem_singleton.mp (List.mem_of_getElem? hget)] at hlock
      exact absurd rfl hlock.2.1

lemma Serialized.locked (h : Serialized world)
    (hfree : ∀ threadId, transaction.thread? = some threadId →
      ∀ other ∈ world.transactions, ¬ other.HasLock threadId) :
    Serialized (world.setPhase index transaction .locked) := by
  refine ⟨h.fresh, ?_, ?_, h.byId⟩
  · intro t ht id hphase
    rcases mem_setPhase ht with ht | rfl
    · exact h.drawn t ht id hphase
    · cases hphase
  · rintro i j threadId ⟨a, ha, hla⟩ ⟨b, hb, hlb⟩
    -- the lock was free, so no second transaction can have it
    rcases getElem?_setPhase ha with ⟨rfl, rfl⟩ | ⟨-, ha'⟩
    · rcases getElem?_setPhase hb with ⟨rfl, -⟩ | ⟨-, hb'⟩
      · rfl
      · exact absurd hlb (hfree threadId hla.1 b (List.mem_of_getElem? hb'))
    · rcases getElem?_setPhase hb with ⟨rfl, rfl⟩ | ⟨-, hb'⟩
      · exact absurd hla (hfree threadId hlb.1 a (List.mem_of_getElem? ha'))
      · exact h.exclusive i j threadId ⟨a, ha', hla⟩ ⟨b, hb', hlb⟩

lemma Serialized.inserted (h : Serialized world)
    (hget : world.transactions[index]? = some transaction)
    (hlocked : transaction.phase = .locked) :
    Serialized { world.setPhase index transaction (.inserted world.nextId) with
      nextId := world.nextId + 1 } := by
  refine h.of_keys rfl (Nat.le_succ _) ?_ ?_
  · intro t ht id hphase
    rcases mem_setPhase ht with ht | rfl
    · exact Or.inl ht
    · cases hphase
      exact Or.inr ⟨le_rfl, Nat.lt_succ_self _⟩
  · -- the transaction had the lock before it inserted
    rintro i threadId ⟨t, hget', hlock⟩
    rcases getElem?_setPhase hget' with ⟨rfl, rfl⟩ | ⟨-, hget'⟩
    · exact ⟨transaction, hget, hlock.1, by simp [hlocked], by simp [hlocked]⟩
    · exact ⟨t, hget', hlock⟩

/-- The row that commits has the largest id of its thread, and nobody else on the thread has
drawn one. -/
lemma Serialized.committed {id : ℕ} (h : Serialized world)
    (hget : world.transactions[index]? = some transaction)
    (hphase : transaction.phase = .inserted id) :
    Serialized (world.commit index transaction id) := by
  have hmove : QueueMove world (.commit index) (world.commit index transaction id) :=
    .committed rfl hget hphase
  have hkeys := hmove.keys
  cases hrow : committed? world (.commit index) with
  | none =>
    rw [hrow, Option.toList_none, List.map_nil, List.append_nil] at hkeys
    exact (h.ended index transaction).of_keys hkeys le_rfl (fun _ ht _ _ => Or.inl ht)
      fun _ _ hlocked => hlocked
  | some record =>
    rw [hrow, Option.toList_some, List.map_singleton] at hkeys
    obtain ⟨_, _, ⟨⟩, hget', hphase', hthread, -⟩ := committed?_eq_some hrow
    cases hget.symm.trans hget'
    cases hphase.symm.trans hphase'
    obtain ⟨hlt, hlast⟩ := h.drawn transaction (List.mem_of_getElem? hget) _ hphase
    have hended := h.ended index transaction
    have hlock : transaction.HasLock record.aiThreadId :=
      ⟨hthread, by simp [hphase], by simp [hphase]⟩
    refine ⟨?_, ?_, hended.exclusive, ?_⟩
    · intro key hkey
      rw [hkeys] at hkey
      rcases mem_concat.mp hkey with hkey | rfl
      · exact h.fresh key hkey
      · exact hlt
    · intro t ht id' hphase'
      obtain ⟨i, hi⟩ := List.getElem?_of_mem ht
      rcases getElem?_setPhase hi with ⟨-, rfl⟩ | ⟨hne, hi⟩
      · cases hphase'
      · obtain ⟨hlt', hlast'⟩ := h.drawn t (List.mem_of_getElem? hi) id' hphase'
        refine ⟨hlt', ?_⟩
        intro key hkey hthread'
        rw [hkeys] at hkey
        rcases mem_concat.mp hkey with hkey | rfl
        · exact hlast' key hkey hthread'
        -- two transactions of one thread would hold its lock at once
        · have hlock' : t.HasLock record.aiThreadId :=
            ⟨hthread', by simp [hphase'], by simp [hphase']⟩
          exact absurd (h.exclusive i index _ ⟨t, hi, hlock'⟩ ⟨transaction, hget, hlock⟩) hne
    · rw [hkeys, List.pairwise_append]
      refine ⟨h.byId, List.pairwise_singleton _ _, ?_⟩
      intro key hkey last hlast'' hsame
      rw [List.mem_singleton.mp hlast''] at hsame ⊢
      exact hlast key hkey (hthread.trans (congrArg some hsame.symm))

lemma QueueMove.serialized (hmove : QueueMove world action world') (h : Serialized world) :
    Serialized world' := by
  cases hmove with
  | stay => exact h.of_keys rfl le_rfl (fun _ ht _ _ => Or.inl ht) fun _ _ => id
  | began => exact h.began _
  | ended => exact h.ended _ _
  | locked hcommitted hfree => exact h.locked hfree
  | inserted hget hcommitted hlocked => exact h.inserted hget hlocked
  | committed haction hget hphase => exact h.committed hget hphase
  | called haction hcall =>
    exact h.of_keys (step_keys hcall) le_rfl (fun _ ht _ _ => Or.inl ht) fun _ _ => id

end Serialized

theorem queueAfter_serialized (threads : List AIThread) (clock : Timestamp)
    (actions : List QueueAction) : Serialized (queueAfter threads clock actions) := by
  refine run_invariant (P := Serialized) ?_ ?_ actions
  · intro world action h
    exact (world.step_move action).serialized h
  · refine ⟨?_, ?_, ?_, List.Pairwise.nil⟩
    · intro key hkey
      exact absurd hkey List.not_mem_nil
    · intro transaction ht
      exact absurd ht List.not_mem_nil
    · rintro i j threadId ⟨a, ha, -⟩
      exact absurd (List.mem_of_getElem? ha) List.not_mem_nil

/-! ## The two orders -/

/-- The transactions of a thread commit their rows in the order in which they started. -/
def StartsInOrder (threads : List AIThread) (clock : Timestamp) (actions : List QueueAction) :
    Prop :=
  ∀ before i between j post, actions = before ++ .commit i :: between ++ .commit j :: post →
    let earlier := queueAfter threads clock before
    let later := queueAfter threads clock (before ++ .commit i :: between)
    (committed? earlier (.commit i)).isSome → (committed? later (.commit j)).isSome →
    ∀ a b, earlier.transactions[i]? = some a → later.transactions[j]? = some b →
      a.thread? = b.thread? → a.startedAt ≤ b.startedAt

/-- No record is committed with a smaller key than a record already committed on the thread. -/
def KeysIncrease (threads : List AIThread) (clock : Timestamp) (actions : List QueueAction) :
    Prop :=
  ∀ pre action post, actions = pre ++ action :: post →
    ∀ record ∈ committed? (queueAfter threads clock pre) action,
    ∀ prior ∈ (queueAfter threads clock pre).tables.records,
      prior.aiThreadId = record.aiThreadId → ¬ IsPrior record prior

/-- On every thread the queue order, the order of the ids and the order of the commits are one. -/
structure OrdersAgree (records : List HermesDispatchRecord) : Prop where
  ids : ∀ a ∈ records, ∀ b ∈ records, a.aiThreadId = b.aiThreadId → (IsPrior a b ↔ a.id < b.id)
  commits : records.Pairwise fun a b => a.aiThreadId = b.aiThreadId → IsPrior a b ∧ a.id < b.id

/-- A record that is claimed has only finished ones of its thread committed before it. -/
def ClaimsInCommitOrder (tables : DispatchTables) : Prop :=
  ∀ recordId token lease retryLimit now tables',
    attempt tables (.claim recordId token lease retryLimit now) = some tables' →
    ∃ front record back, tables.records = front ++ record :: back ∧ record.id = recordId ∧
      ∀ prior ∈ front, prior.aiThreadId = record.aiThreadId → prior.Finished

section Orders

variable {threads : List AIThread} {clock : Timestamp} {actions : List QueueAction}

/-- The rows say the same: none is committed with an earlier time than a row of its thread. -/
lemma startsInOrder_iff : StartsInOrder threads clock actions ↔
    ∀ pre action post, actions = pre ++ action :: post →
      ∀ record ∈ committed? (queueAfter threads clock pre) action,
      ∀ prior ∈ (queueAfter threads clock pre).tables.records,
        prior.aiThreadId = record.aiThreadId → prior.createdAt ≤ record.createdAt := by
  constructor
  · intro h pre action post hsplit record hrow prior hprior hthread
    obtain ⟨before, first, between, rfl, earlier, hearlier, hkey⟩ :=
      (mem_keys_iff pre).mp (mem_keys hprior)
    obtain ⟨i, a, rfl, ha, -, hathread, hastart⟩ := committed?_eq_some hearlier
    obtain ⟨j, b, rfl, hb, -, hbthread, hbstart⟩ := committed?_eq_some hrow
    obtain ⟨hsame, htime, -⟩ := QueueKey.mk.inj hkey
    rw [← htime, ← hastart, ← hbstart]
    refine h before i between j post hsplit (Option.isSome_of_mem hearlier)
      (Option.isSome_of_mem hrow) a b ha hb ?_
    rw [hathread, hbthread, hsame, hthread]
  · intro h before i between j post hsplit earlier later hi hj a b ha hb hthread
    obtain ⟨first, hfirst⟩ := Option.isSome_iff_exists.mp hi
    obtain ⟨second, hsecond⟩ := Option.isSome_iff_exists.mp hj
    obtain ⟨_, _, ⟨⟩, ha', -, hathread, hastart⟩ := committed?_eq_some hfirst
    obtain ⟨_, _, ⟨⟩, hb', -, hbthread, hbstart⟩ := committed?_eq_some hsecond
    cases ha.symm.trans ha'
    cases hb.symm.trans hb'
    obtain ⟨prior, hprior, hkey⟩ := List.mem_map.mp
      ((mem_keys_iff _).mpr ⟨before, _, between, rfl, first, hfirst, rfl⟩)
    obtain ⟨hsame, htime, -⟩ := QueueKey.mk.inj hkey
    rw [hastart, hbstart, ← htime]
    refine h _ _ post hsplit second hsecond prior hprior ?_
    rw [hsame]
    exact Option.some.inj (hathread.symm.trans (hthread.trans hbthread))

lemma StartsInOrder.mono {pre : List QueueAction} (h : StartsInOrder threads clock actions)
    (hpre : pre <+: actions) : StartsInOrder threads clock pre := by
  obtain ⟨rest, rfl⟩ := hpre
  intro before i between j post hsplit
  refine h before i between j (post ++ rest) ?_
  rw [hsplit, List.append_assoc, List.cons_append]

variable {record prior : HermesDispatchRecord}

/-- The id of a committed row is above those of its thread, whatever the times are. -/
lemma id_lt_of_committed?
    (hrow : committed? (queueAfter threads clock actions) action = some record)
    (hprior : prior ∈ (queueAfter threads clock actions).tables.records)
    (hthread : prior.aiThreadId = record.aiThreadId) : prior.id < record.id := by
  have hserialized := queueAfter_serialized threads clock (actions ++ [action])
  have hkeys := ((queueAfter threads clock actions).step_move action).keys
  have hbyId := hserialized.byId
  rw [queueAfter, run_concat] at hbyId
  rw [← queueAfter, hkeys, hrow, Option.toList_some, List.map_singleton,
    List.pairwise_append] at hbyId
  exact hbyId.2.2 prior.queueKey (mem_keys hprior) record.queueKey (List.mem_singleton_self _)
    hthread

/-- With the ids in order, a key that increases is a time that does not decrease. -/
lemma not_isPrior_iff (hid : prior.id < record.id) :
    ¬ IsPrior record prior ↔ prior.createdAt ≤ record.createdAt := by
  simp only [IsPrior, hid.not_gt, and_false, or_false, not_lt]

lemma isPrior_iff (hid : prior.id < record.id) :
    IsPrior prior record ↔ prior.createdAt ≤ record.createdAt := by
  simp only [IsPrior, hid, and_true, le_iff_lt_or_eq]

/-- The creation times of a thread follow the commits. -/
lemma StartsInOrder.times (h : StartsInOrder threads clock actions) :
    (queueAfter threads clock actions).keys.Pairwise fun a b =>
      a.threadId = b.threadId → a.createdAt ≤ b.createdAt := by
  induction actions using List.reverseRecOn with
  | nil => exact List.Pairwise.nil
  | append_singleton pre action ih =>
    have hpre := ih (h.mono (List.prefix_append _ _))
    have hkeys := ((queueAfter threads clock pre).step_move action).keys
    rw [queueAfter, run_concat, ← queueAfter, hkeys, List.pairwise_append]
    refine ⟨hpre, ?_, ?_⟩
    · cases committed? (queueAfter threads clock pre) action with
      | none => exact List.Pairwise.nil
      | some record => exact List.pairwise_singleton _ _
    · intro key hkey last hlast hthread
      obtain ⟨prior, hprior, rfl⟩ := List.mem_map.mp hkey
      obtain ⟨record, hrecord, rfl⟩ := List.mem_map.mp hlast
      exact startsInOrder_iff.mp h pre action [] rfl record (Option.mem_toList.mp hrecord) prior
        hprior hthread

lemma StartsInOrder.ordersAgree (h : StartsInOrder threads clock actions) :
    OrdersAgree (queueAfter threads clock actions).tables.records := by
  have hids := (queueAfter_serialized threads clock actions).byId
  have hcommits : (queueAfter threads clock actions).tables.records.Pairwise fun a b =>
      a.aiThreadId = b.aiThreadId → IsPrior a b ∧ a.id < b.id := by
    have hboth := List.pairwise_map.mp (hids.and h.times)
    refine hboth.imp ?_
    intro a b hab hthread
    have hid : a.id < b.id := hab.1 hthread
    exact ⟨(isPrior_iff hid).mpr (hab.2 hthread), hid⟩
  refine ⟨?_, hcommits⟩
  intro a ha b hb
  refine List.Pairwise.forall_of_forall_of_flip
    (R := fun a b => a.aiThreadId = b.aiThreadId → (IsPrior a b ↔ a.id < b.id)) ?_ ?_ ?_ ha hb
  · intro record _ _
    simp only [IsPrior, lt_irrefl, and_false, or_false]
  · refine hcommits.imp ?_
    intro a b hab hthread
    exact iff_of_true (hab hthread).1 (hab hthread).2
  · refine hcommits.imp ?_
    intro a b hab hthread
    obtain ⟨hprior, hid⟩ := hab hthread.symm
    refine iff_of_false ?_ hid.not_gt
    exact (not_isPrior_iff hid).mpr ((isPrior_iff hid).mp hprior)

/-- The head of the queue is the first open record in commit order. -/
lemma OrdersAgree.claimsInCommitOrder (h : OrdersAgree tables.records) :
    ClaimsInCommitOrder tables := by
  intro recordId token lease retryLimit now tables' hclaim
  obtain ⟨record, hmem, hid, hhead, -⟩ := claim_head hclaim
  obtain ⟨front, back, hsplit⟩ := List.append_of_mem hmem
  refine ⟨front, record, back, hsplit, hid, ?_⟩
  intro prior hprior hthread
  have hcommits := h.commits
  rw [hsplit, List.pairwise_append] at hcommits
  have hbefore := hcommits.2.2 prior hprior record List.mem_cons_self hthread
  refine hhead prior ?_ hthread hbefore.1
  rw [hsplit]
  exact List.mem_append_left _ hprior

end Orders

/-- The orders of a thread agree exactly when its transactions commit in the order in which they
started. In every such run no record is committed below another one of its thread, in every state
it reaches the queue order is the order of the ids and of the commits, and records are claimed in
that order; and in any other run a record is committed with a smaller key than one already
there. -/
theorem queue_order_iff_starts_in_order (threads : List AIThread) (clock : Timestamp)
    (actions : List QueueAction) :
    (KeysIncrease threads clock actions ∧
      ∀ pre, pre <+: actions →
        OrdersAgree (queueAfter threads clock pre).tables.records ∧
        ClaimsInCommitOrder (queueAfter threads clock pre).tables) ↔
    StartsInOrder threads clock actions := by
  constructor
  · rintro ⟨hkeys, -⟩
    refine startsInOrder_iff.mpr ?_
    intro pre action post hsplit record hrow prior hprior hthread
    have hid := id_lt_of_committed? hrow hprior hthread
    exact (not_isPrior_iff hid).mp (hkeys pre action post hsplit record hrow prior hprior hthread)
  · intro hstarts
    constructor
    · intro pre action post hsplit record hrow prior hprior hthread
      have hid := id_lt_of_committed? hrow hprior hthread
      exact (not_isPrior_iff hid).mpr
        (startsInOrder_iff.mp hstarts pre action post hsplit record hrow prior hprior hthread)
    · intro pre hpre
      have hagree := (hstarts.mono hpre).ordersAgree
      exact ⟨hagree, hagree.claimsInCommitOrder⟩

/-- Two messages for one thread. The transaction of message 1 starts first, but that of message 2
gets the lock, inserts and commits before it. -/
def overtakenRun : List QueueAction :=
  [.begin_ (.allowedFor 1 "identity" "workspace" "thread"), .tick 5,
    .begin_ (.allowedFor 2 "identity" "workspace" "thread"),
    .lock 1, .insert 1, .commit 1, .lock 0, .insert 0, .commit 0]

/-- Message 2 is committed first and has the smaller id, yet message 1 is before it in the queue
and is claimed while message 2 waits. -/
theorem overtaken_transaction_crosses_orders :
    ((queueAfter [] 0 overtakenRun).tables.records.map fun record =>
        (record.id, record.messageId, record.createdAt)) = [(1, 2, 5), (2, 1, 0)] ∧
    ¬ OrdersAgree (queueAfter [] 0 overtakenRun).tables.records ∧
    claimCandidate 3 (queueAfter [] 0 overtakenRun).tables.records = some 2 ∧
    ((attempt (queueAfter [] 0 overtakenRun).tables (.claim 2 "a" 10 3 6)).map
      fun tables => tables.records.map fun record => (record.id, record.status)) =
        some [(1, .queued), (2, .running)] := by
  refine ⟨by decide +kernel, ?_, by decide +kernel, by decide +kernel⟩
  intro h
  have hcommits := h.commits
  revert hcommits
  decide +kernel

end AgentGateway.Dispatch
