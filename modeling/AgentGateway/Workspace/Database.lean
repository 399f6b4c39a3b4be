import AgentGateway.Lib.RelyGuarantee
import AgentGateway.Lib.Table
import AgentGateway.Workspace.Store

/-!
# The workspace tables

What a statement of an admission answers and does to the tables of workspaces, threads and source
bindings. The other tables are only read by an admission, so that their rows are taken as they come;
what is known about them is a condition on the replies.

Between two statements, others may change the status of a row and the Hermes session of a thread.
-/

namespace AgentGateway.Workspace

open Lib Lib.Table Lib.Program
open AgentGateway.Dispatch (AIThread EmployeeWorkspace ThreadType ThreadPolicy ResourceStatus)

/-- The tables that admissions write. -/
structure WorkspaceTables where
  workspaces : List EmployeeWorkspace
  threads : List AIThread
  bindings : List ThreadSourceBinding
  deriving DecidableEq, Repr

/-! ## Statements -/

/-- The rows of one conversation. -/
def ThreadSourceBinding.Binds (binding : ThreadSourceBinding)
    (platform accountId physicalConversationId : String) : Prop :=
  binding.platform = platform ∧ binding.accountId = accountId ∧
    binding.physicalConversationId = physicalConversationId

instance (binding : ThreadSourceBinding) (platform accountId physicalConversationId : String) :
    Decidable (binding.Binds platform accountId physicalConversationId) :=
  inferInstanceAs (Decidable (_ ∧ _ ∧ _))

/-- The `UPDATE` of `bind_v2_route_snapshot`. -/
def bindRoute (aiThreadId agentProfileId : String) (threadPolicy : ThreadPolicy)
    (threads : List AIThread) : List AIThread :=
  updateWhere
    (fun thread : AIThread => thread.id = aiThreadId ∧ thread.agentProfileId = none ∧
      thread.threadPolicy = none)
    (fun thread => { thread with
      agentProfileId := some agentProfileId
      threadPolicy := some threadPolicy }) threads

/-- The `DELETE` of `discard_thread_if_unbound`. -/
def discardThread (aiThreadId : String) (tables : WorkspaceTables) : List AIThread :=
  tables.threads.filter fun thread => ¬ (thread.id = aiThreadId ∧ thread.hermesThreadId = none ∧
    ∀ binding ∈ tables.bindings, binding.aiThreadId ≠ thread.id)

/-- A statement, its reply and the tables after it. An insert that violates a key is rolled back;
so may be one that violates another constraint. -/
def Answers (tables : WorkspaceTables) : AdmitEvent → WorkspaceTables → Prop
  | ⟨.readAccess, _⟩, tables' => tables' = tables
  | ⟨.readRouting, _⟩, tables' => tables' = tables
  | ⟨.getIdentity id, reply⟩, tables' => (∀ identity ∈ reply, identity.id = id) ∧ tables' = tables
  | ⟨.selectWorkspace id, reply⟩, tables' =>
    reply = tables.workspaces.find? (fun row => row.enterpriseIdentityId = id) ∧ tables' = tables
  | ⟨.insertWorkspace row, committed⟩, tables' =>
    committed = false ∧ tables' = tables ∨
      committed = true ∧ (∀ other ∈ tables.workspaces, other.id ≠ row.id ∧
        other.enterpriseIdentityId ≠ row.enterpriseIdentityId) ∧
      tables' = { tables with workspaces := tables.workspaces ++ [row] }
  | ⟨.selectThread key, reply⟩, tables' =>
    reply = tables.threads.find? (fun row => row.threadKey = key) ∧ tables' = tables
  | ⟨.insertThread row, committed⟩, tables' =>
    committed = false ∧ tables' = tables ∨
      committed = true ∧ (∀ other ∈ tables.threads, other.id ≠ row.id ∧
        other.threadKey ≠ row.threadKey) ∧
      tables' = { tables with threads := tables.threads ++ [row] }
  | ⟨.bindRoute id agentProfileId threadPolicy, _⟩, tables' =>
    tables' = { tables with threads := bindRoute id agentProfileId threadPolicy tables.threads }
  | ⟨.getThread id, reply⟩, tables' =>
    reply = tables.threads.find? (fun row => row.id = id) ∧ tables' = tables
  | ⟨.selectBinding platform accountId physicalConversationId, reply⟩, tables' =>
    reply = tables.bindings.find? (fun row => row.Binds platform accountId physicalConversationId) ∧
      tables' = tables
  | ⟨.insertBinding row, committed⟩, tables' =>
    committed = false ∧ tables' = tables ∨
      committed = true ∧ (∀ other ∈ tables.bindings, other.id ≠ row.id ∧
        ¬ other.Binds row.platform row.accountId row.physicalConversationId) ∧
      tables' = { tables with bindings := tables.bindings ++ [row] }
  | ⟨.discardThread id, _⟩, tables' =>
    tables' = { tables with threads := discardThread id tables }
  | ⟨.uuid, _⟩, tables' => tables' = tables

/-! ## The others -/

/-- The columns of a workspace that nobody changes. -/
def workspaceFrame (workspace : EmployeeWorkspace) : String × String :=
  (workspace.id, workspace.enterpriseIdentityId)

/-- The columns of a thread that only an admission changes. -/
def threadFrame (thread : AIThread) : AIThread :=
  { thread with status := .active, hermesThreadId := none }

/-- Others have changed statuses and Hermes sessions. -/
structure Disturbed (tables tables' : WorkspaceTables) : Prop where
  workspaces : tables'.workspaces.map workspaceFrame = tables.workspaces.map workspaceFrame
  threads : tables'.threads.map threadFrame = tables.threads.map threadFrame
  bindings : tables'.bindings = tables.bindings

lemma Disturbed.refl (tables : WorkspaceTables) : Disturbed tables tables := ⟨rfl, rfl, rfl⟩

/-! ## A database -/

/-- Insert a row unless it clashes with one that is there. -/
def insertUnless {ρ : Type} (clash : ρ → Prop) [DecidablePred clash] (row : ρ) (rows : List ρ) :
    Bool × List ρ :=
  if ∀ other ∈ rows, ¬ clash other then (true, rows ++ [row]) else (false, rows)

/-- A database with these policies and routes, which commits whatever the keys allow. -/
def respond (access : Access.AccessTables × Timestamp) (routing : Routing.RoutingTables)
    (uuid : WorkspaceTables → String) (tables : WorkspaceTables) :
    (request : Request) → Reply request × WorkspaceTables
  | .readAccess => (access, tables)
  | .readRouting => (routing, tables)
  | .getIdentity id => (Access.getIdentity id access.1, tables)
  | .selectWorkspace id =>
    (tables.workspaces.find? fun row => row.enterpriseIdentityId = id, tables)
  | .insertWorkspace row =>
    let inserted := insertUnless (fun other => other.id = row.id ∨
      other.enterpriseIdentityId = row.enterpriseIdentityId) row tables.workspaces
    (inserted.1, { tables with workspaces := inserted.2 })
  | .selectThread key => (tables.threads.find? fun row => row.threadKey = key, tables)
  | .insertThread row =>
    let inserted := insertUnless (fun other => other.id = row.id ∨
      other.threadKey = row.threadKey) row tables.threads
    (inserted.1, { tables with threads := inserted.2 })
  | .bindRoute id agentProfileId threadPolicy =>
    ((), { tables with threads := bindRoute id agentProfileId threadPolicy tables.threads })
  | .getThread id => (tables.threads.find? fun row => row.id = id, tables)
  | .selectBinding platform account conversation =>
    (tables.bindings.find? fun row => row.Binds platform account conversation, tables)
  | .insertBinding row =>
    let inserted := insertUnless (fun other => other.id = row.id ∨
      other.Binds row.platform row.accountId row.physicalConversationId) row tables.bindings
    (inserted.1, { tables with bindings := inserted.2 })
  | .discardThread id => ((), { tables with threads := discardThread id tables })
  | .uuid => (uuid tables, tables)

/-- An insert is refused, or nothing was in its way. -/
lemma insertUnless_cases {ρ : Type} (clash : ρ → Prop) [DecidablePred clash] (row : ρ)
    (rows : List ρ) :
    insertUnless clash row rows = (false, rows) ∨
      (∀ other ∈ rows, ¬ clash other) ∧ insertUnless clash row rows = (true, rows ++ [row]) := by
  unfold insertUnless
  split
  · exact Or.inr ⟨‹_›, rfl⟩
  · exact Or.inl rfl

/-- The database answers every statement. -/
lemma respond_answers (access : Access.AccessTables × Timestamp) (routing : Routing.RoutingTables)
    (uuid : WorkspaceTables → String) (tables : WorkspaceTables) (request : Request) :
    Answers tables ⟨request, (respond access routing uuid tables request).1⟩
      (respond access routing uuid tables request).2 := by
  cases request with
  | readAccess | readRouting | bindRoute | discardThread | uuid => rfl
  | getIdentity id => exact ⟨fun identity hmem => Access.getIdentity_id hmem, rfl⟩
  | selectWorkspace | selectThread | getThread | selectBinding => exact ⟨rfl, rfl⟩
  | insertWorkspace row =>
    rcases insertUnless_cases (fun other : EmployeeWorkspace => other.id = row.id ∨
      other.enterpriseIdentityId = row.enterpriseIdentityId) row tables.workspaces with
      h | ⟨hfresh, h⟩
    · simp only [respond, h]
      exact Or.inl ⟨rfl, rfl⟩
    · simp only [respond, h]
      exact Or.inr ⟨rfl, fun other hmem => not_or.mp (hfresh other hmem), rfl⟩
  | insertThread row =>
    rcases insertUnless_cases (fun other : AIThread => other.id = row.id ∨
      other.threadKey = row.threadKey) row tables.threads with h | ⟨hfresh, h⟩
    · simp only [respond, h]
      exact Or.inl ⟨rfl, rfl⟩
    · simp only [respond, h]
      exact Or.inr ⟨rfl, fun other hmem => not_or.mp (hfresh other hmem), rfl⟩
  | insertBinding row =>
    rcases insertUnless_cases (fun other : ThreadSourceBinding => other.id = row.id ∨
      other.Binds row.platform row.accountId row.physicalConversationId) row tables.bindings with
      h | ⟨hfresh, h⟩
    · simp only [respond, h]
      exact Or.inl ⟨rfl, rfl⟩
    · simp only [respond, h]
      exact Or.inr ⟨rfl, fun other hmem => not_or.mp (hfresh other hmem), rfl⟩

/-! ## What is never undone -/

/-- A later form of a thread. Its route is set once. -/
structure ThreadKept (thread thread' : AIThread) : Prop where
  id : thread'.id = thread.id
  workspaceId : thread'.workspaceId = thread.workspaceId
  threadType : thread'.threadType = thread.threadType
  threadKey : thread'.threadKey = thread.threadKey
  route : thread.agentProfileId ≠ none ∨ thread.threadPolicy ≠ none →
    thread'.agentProfileId = thread.agentProfileId ∧ thread'.threadPolicy = thread.threadPolicy

/-- Every row is still there in a later form. -/
structure Kept (tables tables' : WorkspaceTables) : Prop where
  workspaces : ∀ workspace ∈ tables.workspaces, ∃ workspace' ∈ tables'.workspaces,
    workspaceFrame workspace' = workspaceFrame workspace
  threads : ∀ thread ∈ tables.threads, ∃ thread' ∈ tables'.threads, ThreadKept thread thread'
  bindings : tables.bindings ⊆ tables'.bindings

lemma ThreadKept.refl (thread : AIThread) : ThreadKept thread thread :=
  ⟨rfl, rfl, rfl, rfl, fun _ => ⟨rfl, rfl⟩⟩

lemma ThreadKept.trans {a b c : AIThread} (h : ThreadKept a b) (h' : ThreadKept b c) :
    ThreadKept a c where
  id := h'.id.trans h.id
  workspaceId := h'.workspaceId.trans h.workspaceId
  threadType := h'.threadType.trans h.threadType
  threadKey := h'.threadKey.trans h.threadKey
  route := by
    intro hroute
    obtain ⟨hprofile, hpolicy⟩ := h.route hroute
    have hb : b.agentProfileId ≠ none ∨ b.threadPolicy ≠ none := by rwa [hprofile, hpolicy]
    obtain ⟨hprofile', hpolicy'⟩ := h'.route hb
    exact ⟨hprofile'.trans hprofile, hpolicy'.trans hpolicy⟩

lemma Kept.refl (tables : WorkspaceTables) : Kept tables tables where
  workspaces workspace hmem := ⟨workspace, hmem, rfl⟩
  threads thread hmem := ⟨thread, hmem, ThreadKept.refl thread⟩
  bindings := List.Subset.refl _

lemma Kept.trans {a b c : WorkspaceTables} (h : Kept a b) (h' : Kept b c) : Kept a c where
  workspaces workspace hmem := by
    obtain ⟨workspace', hmem', heq⟩ := h.workspaces workspace hmem
    obtain ⟨workspace'', hmem'', heq'⟩ := h'.workspaces workspace' hmem'
    exact ⟨workspace'', hmem'', heq'.trans heq⟩
  threads thread hmem := by
    obtain ⟨thread', hmem', hkept⟩ := h.threads thread hmem
    obtain ⟨thread'', hmem'', hkept'⟩ := h'.threads thread' hmem'
    exact ⟨thread'', hmem'', hkept.trans hkept'⟩
  bindings := List.Subset.trans h.bindings h'.bindings

variable {thread : AIThread} {tables tables' : WorkspaceTables} {event : AdmitEvent}

/-- A thread in which only the status and the Hermes session have changed. -/
lemma threadKept_of_frame {thread' : AIThread} (h : threadFrame thread' = threadFrame thread) :
    ThreadKept thread thread' := by
  simp only [threadFrame, AIThread.mk.injEq, and_true] at h
  obtain ⟨hid, hworkspace, hprofile, htype, hpolicy, hkey⟩ := h
  exact ⟨hid, hworkspace, htype, hkey, fun _ => ⟨hprofile, hpolicy⟩⟩

/-- Whatever thread is there was there before. -/
lemma Disturbed.exists_thread (h : Disturbed tables tables') (hmem : thread ∈ tables'.threads) :
    ∃ earlier ∈ tables.threads, threadFrame earlier = threadFrame thread := by
  have hframe := List.mem_map_of_mem (f := threadFrame) hmem
  rw [h.threads] at hframe
  exact List.mem_map.mp hframe

lemma Disturbed.exists_workspace (h : Disturbed tables tables') {workspace : EmployeeWorkspace}
    (hmem : workspace ∈ tables.workspaces) :
    ∃ later ∈ tables'.workspaces, workspaceFrame later = workspaceFrame workspace := by
  have hframe := List.mem_map_of_mem (f := workspaceFrame) hmem
  rw [← h.workspaces] at hframe
  exact List.mem_map.mp hframe

/-- A change of statuses keeps all rows. -/
lemma Disturbed.kept (h : Disturbed tables tables') :
    Kept tables tables' where
  workspaces workspace hmem := h.exists_workspace hmem
  threads thread hmem := by
    have hframe := List.mem_map_of_mem (f := threadFrame) hmem
    rw [← h.threads] at hframe
    obtain ⟨thread', hmem', heq⟩ := List.mem_map.mp hframe
    exact ⟨thread', hmem', threadKept_of_frame heq⟩
  bindings := by
    rw [h.bindings]
    exact List.Subset.refl _

/-- No statement but the deletion of a thread undoes anything. -/
lemma Answers.kept (h : Answers tables event tables') (hdiscard : ∀ id, event.1 ≠ .discardThread id) :
    Kept tables tables' := by
  obtain ⟨request, reply⟩ := event
  cases request with
  | readAccess | readRouting | uuid => exact h ▸ Kept.refl tables
  | getIdentity | selectWorkspace | selectThread | getThread | selectBinding =>
    exact h.2 ▸ Kept.refl tables
  | discardThread id => exact absurd rfl (hdiscard id)
  | insertWorkspace row =>
    rcases h with ⟨-, rfl⟩ | ⟨-, -, rfl⟩
    · exact Kept.refl tables'
    · exact ⟨fun workspace hmem => ⟨workspace, List.mem_append_left _ hmem, rfl⟩,
        (Kept.refl tables).threads, List.Subset.refl _⟩
  | insertThread row =>
    rcases h with ⟨-, rfl⟩ | ⟨-, -, rfl⟩
    · exact Kept.refl tables'
    · exact ⟨(Kept.refl tables).workspaces,
        fun thread hmem => ⟨thread, List.mem_append_left _ hmem, ThreadKept.refl thread⟩,
        List.Subset.refl _⟩
  | insertBinding row =>
    rcases h with ⟨-, rfl⟩ | ⟨-, -, rfl⟩
    · exact Kept.refl tables'
    · exact ⟨(Kept.refl tables).workspaces, (Kept.refl tables).threads,
        List.subset_append_left _ _⟩
  | bindRoute id agentProfileId threadPolicy =>
    subst h
    refine ⟨(Kept.refl tables).workspaces, fun thread hmem => ?_, List.Subset.refl _⟩
    by_cases hbound : thread.id = id ∧ thread.agentProfileId = none ∧ thread.threadPolicy = none
    · refine ⟨_, mem_updateWhere_of_pos hmem hbound, rfl, rfl, rfl, rfl, ?_⟩
      rintro (hprofile | hpolicy)
      · exact absurd hbound.2.1 hprofile
      · exact absurd hbound.2.2 hpolicy
    · exact ⟨thread, mem_updateWhere_of_not hmem hbound, ThreadKept.refl thread⟩

/-! ## Unique keys -/

/-- The unique constraints of the tables. -/
structure Unique (tables : WorkspaceTables) : Prop where
  workspaceIds : UniqueKeys EmployeeWorkspace.id tables.workspaces
  identities : UniqueKeys EmployeeWorkspace.enterpriseIdentityId tables.workspaces
  threadIds : UniqueKeys AIThread.id tables.threads
  threadKeys : UniqueKeys AIThread.threadKey tables.threads
  bindingFacts : UniqueKeys (fun binding : ThreadSourceBinding =>
    (binding.platform, binding.accountId, binding.physicalConversationId)) tables.bindings

/-- Keys stay unique while the columns that make them stay. -/
lemma uniqueKeys_of_map {ρ κ φ : Type} {key : ρ → κ} {frame : ρ → φ} {rows rows' : List ρ}
    (h : UniqueKeys key rows) (hframe : rows'.map frame = rows.map frame)
    (hkey : ∀ a b, frame a = frame b → key a = key b) : UniqueKeys key rows' := by
  unfold UniqueKeys at h ⊢
  have hforall : List.Forall₂ (fun a b => frame a = frame b) rows' rows := by
    rw [← List.forall₂_map_left_iff (f := frame) (R := fun a b => a = frame b),
      ← List.forall₂_map_right_iff (f := frame) (R := fun a b => a = b), hframe]
    exact List.forall₂_refl _
  have hmap : rows'.map key = rows.map key := by
    rw [← List.forall₂_eq_eq_eq]
    exact List.forall₂_map_left_iff.mpr (List.forall₂_map_right_iff.mpr
      (hforall.imp fun a b hab => hkey a b hab))
  rwa [hmap]

/-- So do the unique constraints. -/
lemma Unique.disturbed (h : Unique tables) (hdisturbed : Disturbed tables tables') :
    Unique tables' where
  workspaceIds := uniqueKeys_of_map h.workspaceIds hdisturbed.workspaces
    fun _ _ heq => congrArg Prod.fst heq
  identities := uniqueKeys_of_map h.identities hdisturbed.workspaces
    fun _ _ heq => congrArg Prod.snd heq
  threadIds := uniqueKeys_of_map h.threadIds hdisturbed.threads
    fun _ _ heq => (threadKept_of_frame heq).id
  threadKeys := uniqueKeys_of_map h.threadKeys hdisturbed.threads
    fun _ _ heq => (threadKept_of_frame heq).threadKey
  bindingFacts := by
    rw [hdisturbed.bindings]
    exact h.bindingFacts

/-- Every statement keeps the keys unique. -/
lemma Unique.answers (h : Unique tables) (hanswers : Answers tables event tables') :
    Unique tables' := by
  obtain ⟨request, reply⟩ := event
  cases request with
  | readAccess | readRouting | uuid => exact hanswers ▸ h
  | getIdentity | selectWorkspace | selectThread | getThread | selectBinding => exact hanswers.2 ▸ h
  | insertWorkspace row =>
    rcases hanswers with ⟨-, rfl⟩ | ⟨-, hfresh, rfl⟩
    · exact h
    · exact { h with
        workspaceIds := h.workspaceIds.append fun other hmem => (hfresh other hmem).1
        identities := h.identities.append fun other hmem => (hfresh other hmem).2 }
  | insertThread row =>
    rcases hanswers with ⟨-, rfl⟩ | ⟨-, hfresh, rfl⟩
    · exact h
    · exact { h with
        threadIds := h.threadIds.append fun other hmem => (hfresh other hmem).1
        threadKeys := h.threadKeys.append fun other hmem => (hfresh other hmem).2 }
  | insertBinding row =>
    rcases hanswers with ⟨-, rfl⟩ | ⟨-, hfresh, rfl⟩
    · exact h
    · refine { h with bindingFacts := h.bindingFacts.append fun other hmem heq => ?_ }
      simp only [Prod.mk.injEq] at heq
      exact (hfresh other hmem).2 heq
  | bindRoute id agentProfileId threadPolicy =>
    subst hanswers
    exact { h with
      threadIds := h.threadIds.updateWhere fun _ => rfl
      threadKeys := h.threadKeys.updateWhere fun _ => rfl }
  | discardThread id =>
    subst hanswers
    exact { h with
      threadIds := List.Nodup.sublist (List.filter_sublist.map _) h.threadIds
      threadKeys := List.Nodup.sublist (List.filter_sublist.map _) h.threadKeys }

/-! ## Safe admissions -/

section Safe

open Contract

variable {σ α : Type} {C : Contract σ Request Reply} {raised : AdmitError → Prop} {s : σ}
  {post : α → σ → Prop}

/-- A request is safe if it is so for every reply. -/
lemma safeOk_ask (request : Request) {post : Reply request → σ → Prop}
    (h : ∀ u reply u', C.rely s u → C.inv u → C.step u ⟨request, reply⟩ u' →
      C.inv u' ∧ C.rely u u' ∧ ∀ v, C.rely u' v → C.inv v → post reply v) :
    C.SafeOk raised post (ask request) s :=
  safeOk_request h

lemma safeOk_give {a : α} (h : ∀ u, C.rely s u → C.inv u → post a u) :
    C.SafeOk raised post (give a) s :=
  safeOk_ok h

lemma safeOk_raise {error : AdmitError} (h : raised error) : C.SafeOk raised post (raise error) s :=
  safeOk_error h

/-- A check that is passed has its result. -/
lemma safeOk_checked {ε : Type} {error : ε → AdmitError} {result : Except ε α}
    (hraised : ∀ e, raised (error e)) :
    C.SafeOk raised (fun a _ => result = .ok a) (check error result) s := by
  cases result with
  | ok a => exact safeOk_ok fun _ _ _ => rfl
  | error e => exact safeOk_error (hraised e)

/-- To find or create a row is safe if both ways end with the row, and the row stays. -/
lemma safeOk_ensure {select : Admit (Option α)} {create : String → α} {insert : α → Admit Bool}
    {Q : α → σ → Prop} (hstable : ∀ a u u', C.rely u u' → Q a u → Q a u')
    (hintegrity : raised .integrity)
    (huuid : ∀ u reply u', C.inv u → C.step u ⟨.uuid, reply⟩ u' → C.inv u' ∧ C.rely u u')
    (hselect : ∀ u, C.rely s u → C.SafeOk raised (fun row u => ∀ a ∈ row, Q a u) select u)
    (hinsert : ∀ u id, C.rely s u →
      C.SafeOk raised (fun committed u => committed = true → Q (create id) u) (insert (create id))
        u) :
    C.SafeOk raised (fun ensured u => Q ensured.1 u) (ensure select create insert) s := by
  refine SafeOk.andThen (hselect s (C.refl s)) fun row u hu _ hrow => ?_
  cases row with
  | some a => exact safeOk_give fun v hv _ => hstable a u v hv (hrow a rfl)
  | none =>
    have hid : C.SafeOk raised (fun _ _ => True) (ask .uuid) u := by
      refine safeOk_ask .uuid fun v reply v' _ hinv hstep => ?_
      obtain ⟨hinv', hrely⟩ := huuid v reply v' hinv hstep
      exact ⟨hinv', hrely, fun _ _ _ => trivial⟩
    refine SafeOk.andThen hid fun id v hv _ _ => ?_
    have hsv : C.rely s v := C.trans hu hv
    refine SafeOk.andThen (hinsert v id hsv) fun committed w hw _ hcommitted => ?_
    split
    · rename_i htrue
      exact safeOk_give fun x hx _ => hstable _ w x hx (hcommitted htrue)
    · refine SafeOk.andThen (hselect w (C.trans hsv hw)) fun row x _ _ hrow => ?_
      cases row with
      | some a => exact safeOk_give fun y hy _ => hstable a x y hy (hrow a rfl)
      | none => exact safeOk_raise hintegrity

end Safe

/-! ## Workspaces -/

/-- A workspace with this identifier and identity. -/
def HasWorkspace (frame : String × String) (tables : WorkspaceTables) : Prop :=
  ∃ workspace ∈ tables.workspaces, workspaceFrame workspace = frame

/-- A later form of this thread. -/
def HasThread (thread : AIThread) (tables : WorkspaceTables) : Prop :=
  ∃ later ∈ tables.threads, ThreadKept thread later

/-- A workspace that is there stays … -/
lemma HasWorkspace.of_kept {frame : String × String} (h : HasWorkspace frame tables)
    (hkept : Kept tables tables') : HasWorkspace frame tables' := by
  obtain ⟨workspace, hmem, hframe⟩ := h
  obtain ⟨workspace', hmem', hframe'⟩ := hkept.workspaces workspace hmem
  exact ⟨workspace', hmem', hframe'.trans hframe⟩

/-- … and so does a thread. -/
lemma HasThread.of_kept (h : HasThread thread tables) (hkept : Kept tables tables') :
    HasThread thread tables' := by
  obtain ⟨later, hmem, hlater⟩ := h
  obtain ⟨later', hmem', hlater'⟩ := hkept.threads later hmem
  exact ⟨later', hmem', hlater.trans hlater'⟩

lemma hasThread_of_mem (h : thread ∈ tables.threads) : HasThread thread tables :=
  ⟨thread, h, ThreadKept.refl thread⟩

/-- Two workspaces of one identity are one. -/
lemma Unique.workspace_id_eq (h : Unique tables) {a b id : String}
    (ha : HasWorkspace (a, id) tables) (hb : HasWorkspace (b, id) tables) : a = b := by
  obtain ⟨workspace, hmem, hframe⟩ := ha
  obtain ⟨workspace', hmem', hframe'⟩ := hb
  simp only [workspaceFrame, Prod.mk.injEq] at hframe hframe'
  obtain rfl := h.identities.eq_of_key_eq hmem hmem' (hframe.2.trans hframe'.2.symm)
  exact hframe.1.symm.trans hframe'.1

/-- The statements that leave threads and bindings alone. -/
def Request.LeavesThreads : Request → Prop
  | .insertThread _ | .bindRoute _ _ _ | .insertBinding _ | .discardThread _ => False
  | _ => True

/-- A statement about other tables leaves threads and bindings alone. -/
lemma Answers.threads_eq (h : Answers tables event tables') (hleaves : event.1.LeavesThreads) :
    tables'.threads = tables.threads ∧ tables'.bindings = tables.bindings := by
  obtain ⟨request, reply⟩ := event
  cases request with
  | readAccess | readRouting | uuid => exact h ▸ ⟨rfl, rfl⟩
  | getIdentity | selectWorkspace | selectThread | getThread | selectBinding =>
    exact h.2 ▸ ⟨rfl, rfl⟩
  | insertWorkspace row => rcases h with ⟨-, rfl⟩ | ⟨-, -, rfl⟩ <;> exact ⟨rfl, rfl⟩
  | insertThread | bindRoute | insertBinding | discardThread => exact hleaves.elim

/-- An invariant of the tables that neither others nor statements which leave threads and bindings
alone can break. -/
structure Steady (inv : WorkspaceTables → Prop) : Prop where
  unique : ∀ {tables}, inv tables → Unique tables
  disturbed : ∀ {tables tables'}, inv tables → Disturbed tables tables' → inv tables'
  leaves : ∀ {tables tables'}, inv tables → Unique tables' → Kept tables tables' →
    tables'.threads = tables.threads → tables'.bindings = tables.bindings → inv tables'

/-- The contract of admissions that keep an invariant and whose replies are of this kind. -/
def admissions (inv : WorkspaceTables → Prop) (own : AdmitEvent → Prop) :
    Contract WorkspaceTables Request Reply :=
  Contract.restrict
    { step := Answers
      inv := inv
      rely := Kept
      refl := Kept.refl
      trans := Kept.trans } own

section Steady

open Contract

variable {inv : WorkspaceTables → Prop} {own : AdmitEvent → Prop} {raised : AdmitError → Prop}
  {s : WorkspaceTables} {key : String}

/-- Such a statement keeps a steady invariant, and all rows. -/
lemma Steady.step (h : Steady inv) (event : AdmitEvent) (hinv : inv tables)
    (hanswers : Answers tables event tables') (hleaves : event.1.LeavesThreads) :
    inv tables' ∧ Kept tables tables' := by
  have hkept : Kept tables tables' := by
    refine hanswers.kept fun id heq => ?_
    rw [heq] at hleaves
    exact hleaves
  obtain ⟨hthreads, hbindings⟩ := hanswers.threads_eq hleaves
  exact ⟨h.leaves hinv ((h.unique hinv).answers hanswers) hkept hthreads hbindings, hkept⟩

/-- A statement that leaves threads and bindings alone, with what its reply says. -/
lemma Steady.ask (h : Steady inv) (request : Request) {post : Reply request → WorkspaceTables → Prop}
    (hleaves : request.LeavesThreads)
    (hpost : ∀ u reply u', Kept s u → inv u → Answers u ⟨request, reply⟩ u' → own ⟨request, reply⟩ →
      ∀ v, Kept u' v → post reply v) :
    (admissions inv own).SafeOk raised post (ask request) s := by
  refine safeOk_ask request fun u reply u' hu hinv hstep => ?_
  obtain ⟨hinv', hkept⟩ := h.step ⟨request, reply⟩ hinv hstep.1 hleaves
  exact ⟨hinv', hkept, fun v hv _ => hpost u reply u' hu hinv hstep.1 hstep.2 v hv⟩

/-- `ensure_workspace` ends with the workspace of the identity. -/
lemma Steady.ensureWorkspace (h : Steady inv) (hintegrity : raised .integrity) (id : String) :
    (admissions inv own).SafeOk raised (fun ensured u => ensured.1.enterpriseIdentityId = id ∧
      HasWorkspace (workspaceFrame ensured.1) u) (ensureWorkspace id) s := by
  refine safeOk_ensure
    (Q := fun workspace u => workspace.enterpriseIdentityId = id ∧
      HasWorkspace (workspaceFrame workspace) u) ?_ hintegrity ?_ ?_ ?_
  · rintro workspace u u' hrely ⟨hid, hhas⟩
    exact ⟨hid, hhas.of_kept hrely⟩
  · intro u reply u' hinv hstep
    exact h.step ⟨.uuid, reply⟩ hinv hstep.1 trivial
  · intro u _
    refine h.ask (.selectWorkspace id) trivial fun v reply v' _ _ hanswers _ w hw workspace hfound => ?_
    obtain ⟨hreply, rfl⟩ := hanswers
    rw [hreply] at hfound
    have hid : workspace.enterpriseIdentityId = id := by simpa using List.find?_some hfound
    have hhas : HasWorkspace (workspaceFrame workspace) v' :=
      ⟨workspace, List.mem_of_find?_eq_some hfound, rfl⟩
    exact ⟨hid, hhas.of_kept hw⟩
  · intro u uuid _
    refine h.ask (.insertWorkspace ⟨uuid, id, .active⟩) trivial
      fun v committed v' _ _ hanswers _ w hw htrue => ⟨rfl, ?_⟩
    rcases hanswers with ⟨hfalse, -⟩ | ⟨-, -, rfl⟩
    · rw [hfalse] at htrue
      cases htrue
    · have hhas : HasWorkspace (uuid, id)
          { v with workspaces := v.workspaces ++ [⟨uuid, id, .active⟩] } :=
        ⟨_, List.mem_append_right _ (List.mem_singleton_self _), rfl⟩
      exact hhas.of_kept hw

/-- `ensure_workspace_for_authorized_identity` ends with the workspace of the identity. -/
lemma Steady.ensureWorkspaceForAuthorizedIdentity (h : Steady inv)
    (hraised : ∀ error, error ≠ .threadRoutingConflict → raised error) (id : String) :
    (admissions inv own).SafeOk raised (fun workspace u => HasWorkspace (workspace.id, id) u)
      (ensureWorkspaceForAuthorizedIdentity id) s := by
  have hidentity : (admissions inv own).SafeOk raised
      (fun (reply : Option Access.EnterpriseIdentity) _ => ∀ identity ∈ reply, identity.id = id)
      (Workspace.ask (.getIdentity id)) s :=
    h.ask (.getIdentity id) trivial fun u reply u' _ _ hanswers _ v _ => hanswers.1
  refine SafeOk.andThen hidentity fun reply u _ _ hreply => ?_
  cases reply with
  | none => exact safeOk_raise (hraised _ (by decide))
  | some identity =>
    obtain rfl := hreply identity rfl
    dsimp only
    split
    · exact safeOk_raise (hraised _ (by decide))
    · refine SafeOk.andThen (h.ensureWorkspace (hraised _ (by decide)) identity.id)
        fun ensured v _ _ hensured => ?_
      split
      · exact safeOk_raise (hraised _ (by decide))
      · refine safeOk_give fun w hw _ => ?_
        obtain ⟨hid, hhas⟩ := hensured
        have hframe : workspaceFrame ensured.1 = (ensured.1.id, identity.id) := by
          rw [workspaceFrame, hid]
        rw [hframe] at hhas
        exact hhas.of_kept hw

/-- A thread with this key, of this type. -/
def KeyedThread (key : String) (threadType : ThreadType) (thread : AIThread)
    (tables : WorkspaceTables) : Prop :=
  thread.threadKey = key ∧ thread.threadType = threadType ∧ HasThread thread tables

lemma KeyedThread.of_kept {threadType : ThreadType} (h : KeyedThread key threadType thread tables)
    (hkept : Kept tables tables') : KeyedThread key threadType thread tables' :=
  ⟨h.1, h.2.1, h.2.2.of_kept hkept⟩

/-- `ensure_thread` ends with the thread of the key, if the invariant allows the new row. -/
lemma Steady.ensureThread (h : Steady inv)
    (hraised : ∀ error, error ≠ .threadRoutingConflict → raised error) {workspaceId : String}
    {threadType : ThreadType}
    (hnew : ∀ u id u', own ⟨.insertThread (newThread workspaceId threadType key id), true⟩ →
      Kept s u → inv u → Unique u' → Kept u u' → u' = { u with
        threads := u.threads ++ [newThread workspaceId threadType key id] } → inv u') :
    (admissions inv own).SafeOk raised (fun ensured u => KeyedThread key threadType ensured.1 u)
      (ensureThread workspaceId threadType key) s := by
  have hensure : (admissions inv own).SafeOk raised
      (fun ensured u => ensured.1.threadKey = key ∧ HasThread ensured.1 u)
      (ensure (Workspace.ask (.selectThread key)) (newThread workspaceId threadType key)
        fun thread => Workspace.ask (.insertThread thread)) s := by
    refine safeOk_ensure (Q := fun thread u => thread.threadKey = key ∧ HasThread thread u)
      ?_ (hraised _ (by decide)) ?_ ?_ ?_
    · rintro thread u u' hrely ⟨hthread, hhas⟩
      exact ⟨hthread, hhas.of_kept hrely⟩
    · intro u reply u' hinv hstep
      exact h.step ⟨.uuid, reply⟩ hinv hstep.1 trivial
    · intro u _
      refine h.ask (.selectThread key) trivial fun v reply v' _ _ hanswers _ w hw thread hfound => ?_
      obtain ⟨hreply, rfl⟩ := hanswers
      rw [hreply] at hfound
      have hthread : thread.threadKey = key := by simpa using List.find?_some hfound
      exact ⟨hthread, (hasThread_of_mem (List.mem_of_find?_eq_some hfound)).of_kept hw⟩
    -- the insert loses against another one of the key, or adds the row
    · intro u id hu
      refine safeOk_ask (.insertThread _) fun v committed v' hv hinv hstep => ?_
      have hanswers : Answers v ⟨.insertThread _, committed⟩ v' := hstep.1
      have hkept : Kept v v' := hanswers.kept fun id heq => by cases heq
      have hunique := (h.unique hinv).answers hanswers
      rcases hanswers with ⟨hfalse, rfl⟩ | ⟨rfl, -, hv'⟩
      · refine ⟨hinv, hkept, fun w _ _ htrue => ?_⟩
        rw [hfalse] at htrue
        cases htrue
      · have hmoved : Kept s v := Kept.trans hu hv
        refine ⟨hnew v id v' hstep.2 hmoved hinv hunique hkept hv', hkept,
          fun w hw _ _ => ⟨rfl, ?_⟩⟩
        have hmem : newThread workspaceId threadType key id ∈ v'.threads := by
          rw [hv']
          exact List.mem_append_right _ (List.mem_singleton_self _)
        exact (hasThread_of_mem hmem).of_kept hw
  refine SafeOk.andThen hensure fun ensured u _ _ hensured => ?_
  split
  · exact safeOk_raise (hraised _ (by decide))
  · rename_i htype
    exact safeOk_give fun v hv _ =>
      ⟨hensured.1, not_not.mp htype, hensured.2.of_kept hv⟩

end Steady

end AgentGateway.Workspace
