import AgentGateway.Polling.Identity
import AgentGateway.Polling.Loop

/-!
# The checkpoint table behind the requests

What the database makes of the store's requests, one statement at a time: `StoreStep`. A statement
that raises may have been committed or not. Other requests do not touch the table.
-/

namespace AgentGateway.Polling

open Lib Lib.Program Polling.Checkpoint

/-- `wechat_sync_checkpoints`, by its unique key. -/
abbrev Rows := ChatKey → Row

/-- A request that is not for the database. -/
def Request.Elsewhere : Request → Prop
  | .select _ | .insert _ _ | .update _ _ => False
  | _ => True

/-- The rows after an `UPDATE`. -/
def Rows.updated (rows : Rows) (key : ChatKey) (statement : CasStatement) : Rows :=
  Function.update rows key (applyCas (rows key) (some statement)).1

/-- One request answered by a database that nobody else writes to. -/
inductive StoreStep : Rows → PollEvent → Rows → Prop
  | elsewhere {rows event} (h : event.1.Elsewhere) : StoreStep rows event rows
  | selected (rows key) : StoreStep rows ⟨.select key, .ok (rows key)⟩ rows
  | unread (rows key error) : StoreStep rows ⟨.select key, .error error⟩ rows
  | inserted {rows key} (created) (h : rows key = none) :
      StoreStep rows ⟨.insert key created, .ok ()⟩ (Function.update rows key (some created))
  | refused {rows key} (created) (h : rows key ≠ none) :
      StoreStep rows ⟨.insert key created, .error .integrity⟩ rows
  | insertFailed (rows key created) : StoreStep rows ⟨.insert key created, .error .other⟩ rows
  | insertUnconfirmed {rows key} (created) (h : rows key = none) :
      StoreStep rows ⟨.insert key created, .error .other⟩ (Function.update rows key (some created))
  | updated (rows key statement) :
      StoreStep rows
        ⟨.update key statement, .ok (applyCas (rows key) (some statement)).2⟩
        (rows.updated key statement)
  | updateFailed (rows key statement error) :
      StoreStep rows ⟨.update key statement, .error error⟩ rows
  | updateUnconfirmed (rows key statement error) :
      StoreStep rows ⟨.update key statement, .error error⟩ (rows.updated key statement)

/-! ## Paths of the table -/

section Path

variable {rows rows' : Rows} {key : ChatKey} {statement : CasStatement} {events : List PollEvent}
  {created : WechatSyncCheckpoint} {row : Row}

/-- A request that is not for the database can be left out. -/
lemma path_elsewhere {op : Request} {reply : Reply op} (h : op.Elsewhere) :
    Path StoreStep rows (⟨op, reply⟩ :: events) rows' ↔ Path StoreStep rows events rows' := by
  rw [path_cons]
  constructor
  · rintro ⟨mid, hstep, hrest⟩
    cases hstep with
    | elsewhere => exact hrest
    | _ => exact absurd h id
  · exact fun hrest => ⟨rows, .elsewhere h, hrest⟩

@[simp] lemma path_listMessages {conversationId : String}
    {reply : Reply (.listMessages conversationId)} :
    Path StoreStep rows (⟨.listMessages conversationId, reply⟩ :: events) rows' ↔
      Path StoreStep rows events rows' :=
  path_elsewhere trivial

@[simp] lemma path_handle {message : NormalizedWechatMessage} {reply : Reply (.handle message)} :
    Path StoreStep rows (⟨.handle message, reply⟩ :: events) rows' ↔
      Path StoreStep rows events rows' :=
  path_elsewhere trivial

@[simp] lemma path_clock {reply : Reply .clock} :
    Path StoreStep rows (⟨.clock, reply⟩ :: events) rows' ↔ Path StoreStep rows events rows' :=
  path_elsewhere trivial

/-- A row that was read is the stored one. -/
@[simp] lemma path_select :
    Path StoreStep rows (⟨.select key, .ok row⟩ :: events) rows' ↔
      rows key = row ∧ Path StoreStep rows events rows' := by
  rw [path_cons]
  constructor
  · rintro ⟨mid, hstep, hrest⟩
    cases hstep with
    | elsewhere h => exact absurd h id
    | selected => exact ⟨rfl, hrest⟩
  · rintro ⟨rfl, hrest⟩
    exact ⟨rows, .selected rows key, hrest⟩

/-- An update says whether the row was the expected one. -/
@[simp] lemma path_update {changed : Bool} :
    Path StoreStep rows (⟨.update key statement, .ok changed⟩ :: events) rows' ↔
      (changed = true ↔ rows key = some statement.expected) ∧
        Path StoreStep (rows.updated key statement) events rows' := by
  have hflag : (applyCas (rows key) (some statement)).2 = true ↔
      rows key = some statement.expected := by
    by_cases hrow : rows key = some statement.expected <;> simp [applyCas, hrow]
  rw [path_cons]
  constructor
  · rintro ⟨mid, hstep, hrest⟩
    cases hstep with
    | elsewhere h => exact absurd h id
    | updated => exact ⟨hflag, hrest⟩
  · rintro ⟨hchanged, hrest⟩
    have hsame : changed = (applyCas (rows key) (some statement)).2 :=
      Bool.eq_iff_iff.mpr (hchanged.trans hflag.symm)
    rw [hsame]
    exact ⟨_, .updated rows key statement, hrest⟩

/-- An accepted insert creates the row. -/
@[simp] lemma path_insert :
    Path StoreStep rows (⟨.insert key created, .ok ()⟩ :: events) rows' ↔
      rows key = none ∧ Path StoreStep (Function.update rows key (some created)) events rows' := by
  rw [path_cons]
  constructor
  · rintro ⟨mid, hstep, hrest⟩
    cases hstep with
    | elsewhere h => exact absurd h id
    | inserted _ hnone => exact ⟨hnone, hrest⟩
  · rintro ⟨hnone, hrest⟩
    exact ⟨_, .inserted created hnone, hrest⟩

/-- A refused insert found a row. -/
@[simp] lemma path_refused :
    Path StoreStep rows (⟨.insert key created, .error .integrity⟩ :: events) rows' ↔
      rows key ≠ none ∧ Path StoreStep rows events rows' := by
  rw [path_cons]
  constructor
  · rintro ⟨mid, hstep, hrest⟩
    cases hstep with
    | elsewhere h => exact absurd h id
    | refused _ hsome => exact ⟨hsome, hrest⟩
  · rintro ⟨hsome, hrest⟩
    exact ⟨_, .refused created hsome, hrest⟩

lemma Rows.updated_of_eq (h : rows key = some statement.expected) :
    rows.updated key statement =
      Function.update rows key (some (statement.values statement.expected)) := by
  simp [Rows.updated, applyCas, h]

lemma Rows.updated_of_ne (h : rows key ≠ some statement.expected) :
    rows.updated key statement = rows := by
  simp [Rows.updated, applyCas, h]

lemma StoreStep.read (h : StoreStep rows ⟨.select key, .ok row⟩ rows') : rows key = row := by
  cases h with
  | elsewhere h => exact absurd h id
  | selected => rfl

lemma StoreStep.won (h : StoreStep rows ⟨.update key statement, .ok true⟩ rows') :
    rows key = some statement.expected ∧
      rows' key = some (statement.values statement.expected) := by
  obtain ⟨hwon, hpath⟩ := path_update.mp (Path.cons h (Path.nil rows'))
  have hrow := hwon.mp rfl
  rw [path_nil, Rows.updated_of_eq hrow] at hpath
  exact ⟨hrow, hpath ▸ Function.update_self ..⟩

/-- A row changes by its creation and by an update that expects it. -/
lemma StoreStep.row_cases {event : PollEvent} (h : StoreStep rows event rows') :
    rows' key = rows key ∨
      (∃ created, event.1 = .insert key created ∧ rows key = none ∧ rows' key = some created) ∨
      ∃ statement, event.1 = .update key statement ∧ rows key = some statement.expected ∧
        rows' key = some (statement.values statement.expected) := by
  have update : ∀ key' (statement : CasStatement),
      rows.updated key' statement key = rows key ∨ key' = key ∧
        rows key = some statement.expected ∧
        rows.updated key' statement key = some (statement.values statement.expected) := by
    intro key' statement
    by_cases hrow : rows key' = some statement.expected
    · rw [Rows.updated_of_eq hrow]
      by_cases hkey : key' = key
      · subst hkey
        exact Or.inr ⟨rfl, hrow, Function.update_self ..⟩
      · exact Or.inl (Function.update_of_ne (Ne.symm hkey) ..)
    · rw [Rows.updated_of_ne hrow]
      exact Or.inl rfl
  have insert : ∀ key' (created : WechatSyncCheckpoint),
      Function.update rows key' (some created) key = rows key ∨ key' = key := by
    intro key' created
    by_cases hkey : key' = key
    · exact Or.inr hkey
    · exact Or.inl (Function.update_of_ne (Ne.symm hkey) ..)
  cases h with
  | elsewhere | selected | unread | refused | insertFailed | updateFailed => exact Or.inl rfl
  | @inserted key' created hnone | @insertUnconfirmed key' created hnone =>
    rcases insert key' created with hsame | rfl
    · exact Or.inl hsame
    · exact Or.inr (Or.inl ⟨created, rfl, hnone, Function.update_self ..⟩)
  | updated key' statement | updateUnconfirmed key' statement =>
    rcases update key' statement with hsame | ⟨rfl, hrow, hafter⟩
    · exact Or.inl hsame
    · exact Or.inr (Or.inr ⟨statement, rfl, hrow, hafter⟩)

end Path

/-! ## A faultless world -/

/-- Digests of the right shape that tell server ids from local ones, and nothing else. -/
def coarseCodecs : Codecs where
  digest
    | .serverAnchor _ => String.ofList (List.replicate 64 'b')
    | _ => String.ofList (List.replicate 64 'a')
  appMessageSubtype _ := .ok none

lemma coarseCodecs_digest (fields : DigestFields) :
    coarseCodecs.digest fields = String.ofList (List.replicate 64 'a') ∨
      coarseCodecs.digest fields = String.ofList (List.replicate 64 'b') := by
  cases fields with
  | serverAnchor => exact Or.inr rfl
  | _ => exact Or.inl rfl

lemma coarseCodecs_sha256 : coarseCodecs.Sha256 where
  hexadecimal fields := by
    rcases coarseCodecs_digest fields with h | h <;> rw [h] <;> decide +kernel
  length fields := by
    rcases coarseCodecs_digest fields with h | h <;> rw [h] <;> decide +kernel

/-- A chat listed under the name of a friend. -/
def friendEntry : ChatEntry := .mapping (.str "friend") .none .none .none .none .none

/-- The only chat with a checkpoint is the friend's. -/
def friendRow (checkpoint : WechatSyncCheckpoint) : Rows :=
  Function.update (fun _ => none) ("me", "friend") (some checkpoint)

/-- A client that lists these messages, a sink that accepts everything, no clock, and a database
that answers every statement. -/
def answers (messages : List WechatMessage) (rows : Rows) : (op : Request) → Reply op × Rows
  | .getAuthStatus => (.error .other, rows)
  | .listChats => (.error .other, rows)
  | .listMessages _ => (.ok messages, rows)
  | .select key => (.ok (rows key), rows)
  | .insert key created =>
    if rows key = none then (.ok (), Function.update rows key (some created))
    else (.error .integrity, rows)
  | .update key statement =>
    (.ok (applyCas (rows key) (some statement)).2, rows.updated key statement)
  | .handle _ => (.ok .created, rows)
  | .clock => (.error .other, rows)

lemma answers_step (messages : List WechatMessage) (rows : Rows) (op : Request) :
    StoreStep rows ⟨op, (answers messages rows op).1⟩ (answers messages rows op).2 := by
  cases op with
  | select key => exact .selected rows key
  | insert key created =>
    by_cases h : rows key = none
    · have hanswer : answers messages rows (.insert key created) =
          (.ok (), Function.update rows key (some created)) := if_pos h
      rw [hanswer]
      exact .inserted created h
    · have hanswer : answers messages rows (.insert key created) = (.error .integrity, rows) :=
        if_neg h
      rw [hanswer]
      exact .refused created h
  | update key statement => exact .updated rows key statement
  | _ => exact .elsewhere trivial

/-- A poll of the chat with the friend. -/
def friendPoll (lifecycle : WechatPollingLifecycleState) : Poll ChatOutcome :=
  WechatPollingService.pollChat ⟨.latest, coarseCodecs⟩ "me" friendEntry [] lifecycle

/-- The poll, where these messages are listed and the row has this checkpoint. -/
abbrev friendRun (lifecycle : WechatPollingLifecycleState) (messages : List WechatMessage)
    (checkpoint : WechatSyncCheckpoint) : List PollEvent × Rows × ChatOutcome :=
  (friendPoll lifecycle).exec (answers messages) (friendRow checkpoint)

section Run

variable {lifecycle : WechatPollingLifecycleState} {messages : List WechatMessage}
  {checkpoint : WechatSyncCheckpoint}

lemma friendRun_returns {result : ChatPollResult}
    (h : (friendRun lifecycle messages checkpoint).2.2.2 = .ok result) :
    (friendPoll lifecycle).Returns
      (⟨.listMessages "friend", .ok messages⟩ :: (friendRun lifecycle messages checkpoint).1.tail)
      ((friendRun lifecycle messages checkpoint).2.2.1, .ok result) := by
  rw [← h]
  exact exec_returns (answers messages) (friendPoll lifecycle) (friendRow checkpoint)

lemma friendRun_path : Path StoreStep (friendRow checkpoint)
    (⟨.listMessages "friend", .ok messages⟩ :: (friendRun lifecycle messages checkpoint).1.tail)
    (friendRun lifecycle messages checkpoint).2.1 :=
  exec_path (answers_step messages) (friendPoll lifecycle) (friendRow checkpoint)

end Run

/-- Two messages of the friend, the later one listed first. -/
def friendMessages : List WechatMessage :=
  [.raw (friendMessage 6 (.int 8)), .raw (friendMessage 5 (.int 7))]

/-- The window of the two messages. -/
def friendWindow : List Numbered :=
  [(5, .raw (friendMessage 5 (.int 7))), (6, .raw (friendMessage 6 (.int 8)))]

lemma friendMessages_ordered :
    validatedOrderedMessages "friend" friendMessages = .ok friendWindow := by
  decide +kernel

end AgentGateway.Polling
