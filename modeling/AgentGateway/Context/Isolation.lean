import AgentGateway.Context.Tool

/-!
# Isolation of threads

Two databases that agree on a thread cannot be told apart by a context tool bound to it. Every query
of the tool selects by the thread, by a key taken from a row of the thread, or by an artifact id
that the model chose; the last one is the only lookup that leaves the thread, and a row that belongs
to another response is treated as a row that does not exist.
-/

namespace AgentGateway.Context

open Lib Lib.Table Hermes Dispatch Artifacts Polling

namespace StoredContext

/-- The primary keys, and the unique constraint on the record of a response. -/
structure Keyed (context : StoredContext) : Prop where
  records : UniqueKeys HermesDispatchRecord.id context.tables.dispatch.records
  messages : UniqueKeys TimelineMessage.id context.tables.messages
  responses : UniqueKeys HermesDispatchResponse.dispatchRecordId context.tables.dispatch.responses
  artifacts : UniqueKeys Artifact.artifactId context.tables.artifacts

/-- The dispatch records of a thread. -/
def OfThread (context : StoredContext) (threadId : String) (record : HermesDispatchRecord) : Prop :=
  record ∈ context.tables.dispatch.records ∧ record.aiThreadId = threadId

/-- The raw responses to the dispatches of a thread. -/
def ResponseOf (context : StoredContext) (threadId : String) (response : HermesDispatchResponse) :
    Prop :=
  response ∈ context.tables.dispatch.responses ∧
    ∃ record, context.OfThread threadId record ∧ response.dispatchRecordId = record.id

/-- The id is that of a response envelope stored for the thread. -/
def ResponseIdOf (context : StoredContext) (threadId responseId : String) : Prop :=
  ∃ response, context.ResponseOf threadId response ∧ ∃ payload envelope,
    context.payloads response.id = some payload ∧
    ResponseEnvelope.modelValidate payload = .ok envelope ∧ envelope.responseId = responseId

/-- The databases have the same dispatch records, messages, raw responses and snapshots of the
thread, and the same artifacts of its responses. -/
structure AgreeOn (threadId : String) (a b : StoredContext) : Prop where
  records : ∀ record, a.OfThread threadId record ↔ b.OfThread threadId record
  messages : ∀ message : TimelineMessage,
    (∃ record, a.OfThread threadId record ∧ message.id = record.messageId) →
      (message ∈ a.tables.messages ↔ message ∈ b.tables.messages)
  responses : ∀ response, a.ResponseOf threadId response ↔ b.ResponseOf threadId response
  persistedAt : ∀ response, a.ResponseOf threadId response →
    a.tables.persistedAt response.id = b.tables.persistedAt response.id
  payloads : ∀ response, a.ResponseOf threadId response →
    a.payloads response.id = b.payloads response.id
  artifacts : ∀ artifact : Artifact, a.ResponseIdOf threadId artifact.responseId →
    (artifact ∈ a.tables.artifacts ↔ artifact ∈ b.tables.artifacts)
  snapshots : ∀ snapshot : ContextSnapshotRecord, snapshot.threadId = threadId →
    (snapshot ∈ a.tables.snapshots ↔ snapshot ∈ b.tables.snapshots)

/-! ## Rows -/

section

variable {threadId artifactId responseId : String} {a b : StoredContext}
  {record : HermesDispatchRecord} {row : TimelineRow}

/-- The joined rows of a record of the thread, whatever else the query asks of the messages. -/
lemma AgreeOn.recordRows_eq (h : AgreeOn threadId a b) (ha : a.Keyed) (hb : b.Keyed)
    (hrecord : a.OfThread threadId record) (p : TimelineMessage → Bool) :
    recordRows (a.tables.messages.filter p) a.tables.dispatch.responses record =
      recordRows (b.tables.messages.filter p) b.tables.dispatch.responses record := by
  have hmessages := filter_key_congr ha.messages hb.messages fun message hid =>
    h.messages message ⟨record, hrecord, hid⟩
  have hresponses := filter_key_congr ha.responses hb.responses fun response hid =>
    show response ∈ a.tables.dispatch.responses ↔ response ∈ b.tables.dispatch.responses from
    ⟨fun hmem => ((h.responses response).mp ⟨hmem, record, hrecord, hid⟩).1, fun hmem =>
      ((h.responses response).mpr ⟨hmem, record, (h.records record).mp hrecord, hid⟩).1⟩
  rw [recordRows, recordRows, List.filter_comm, hmessages, List.filter_comm, hresponses]

/-- The successful dispatches of the thread, sorted by anything unique. -/
lemma AgreeOn.recordsOf_eq {κ : Type*} [LinearOrder κ] {key : HermesDispatchRecord → κ}
    {p : HermesDispatchRecord → Bool} (h : AgreeOn threadId a b)
    (ha : UniqueKeys key a.tables.dispatch.records)
    (hb : UniqueKeys key b.tables.dispatch.records)
    (hp : ∀ record, p record = true → record.aiThreadId = threadId) :
    (a.tables.dispatch.records.insertionSort fun x y => key x ≤ key y).filter p =
      (b.tables.dispatch.records.insertionSort fun x y => key x ≤ key y).filter p := by
  refine filter_insertionSort_congr ha hb fun record hrecord => ?_
  have hthread := hp record hrecord
  constructor
  · intro hmem
    exact ((h.records record).mp ⟨hmem, hthread⟩).1
  · intro hmem
    exact ((h.records record).mpr ⟨hmem, hthread⟩).1

/-- A row of the queries is made of a record of the thread and its response. -/
def RowOf (context : StoredContext) (threadId : String) (row : TimelineRow) : Prop :=
  context.OfThread threadId row.1 ∧ row.2.2 ∈ context.tables.dispatch.responses ∧
    row.2.2.dispatchRecordId = row.1.id

lemma ofThread_of_mem {κ : Type*} [LinearOrder κ] {key : HermesDispatchRecord → κ}
    {p : HermesDispatchRecord → Prop} [DecidablePred p]
    (h : record ∈ (a.tables.dispatch.records.insertionSort fun x y => key x ≤ key y).filter
      fun record => record.aiThreadId = threadId ∧ p record) : a.OfThread threadId record := by
  rw [List.mem_filter, (List.perm_insertionSort _ _).mem_iff] at h
  exact ⟨h.1, (of_decide_eq_true h.2).1⟩

/-- The query of `read` returns the same rows. -/
lemma AgreeOn.timelineRows_eq (h : AgreeOn threadId a b) (ha : a.Keyed) (hb : b.Keyed) :
    timelineRows a.tables threadId none none = timelineRows b.tables threadId none none := by
  unfold timelineRows timelineRecords
  rw [← h.recordsOf_eq ha.records hb.records fun record hrecord =>
    (of_decide_eq_true hrecord).1]
  refine List.flatMap_congr fun record hmem => ?_
  simpa using h.recordRows_eq ha hb (ofThread_of_mem hmem) fun _ => true

/-- They are rows of the thread. -/
lemma rowOf_timelineRows (hrow : row ∈ timelineRows a.tables threadId none none) :
    a.RowOf threadId row := by
  obtain ⟨record, hmem, hrow⟩ := List.mem_flatMap.mp hrow
  obtain ⟨rfl, hresponse⟩ := mem_recordRows hrow
  exact ⟨ofThread_of_mem hmem, hresponse⟩

/-- Creation times may repeat; with the ids behind them they are unique. -/
lemma Keyed.created (ha : a.Keyed) : UniqueKeys
    (fun record : HermesDispatchRecord => toLex (record.createdAt, record.id))
    a.tables.dispatch.records := by
  refine List.Nodup.of_map (fun key => (ofLex key).2) ?_
  rw [List.map_map]
  exact ha.records

/-- So does the query of `read_range`. -/
lemma AgreeOn.rangeRows_eq (h : AgreeOn threadId a b) (ha : a.Keyed) (hb : b.Keyed)
    (rangeStart rangeEnd : Timestamp) :
    a.rangeRows threadId rangeStart rangeEnd = b.rangeRows threadId rangeStart rangeEnd := by
  unfold rangeRows
  rw [← h.recordsOf_eq ha.created hb.created fun record hrecord => (of_decide_eq_true hrecord).1]
  exact List.flatMap_congr fun record hmem => h.recordRows_eq ha hb (ofThread_of_mem hmem) _

lemma rowOf_rangeRows {rangeStart rangeEnd : Timestamp}
    (hrow : row ∈ a.rangeRows threadId rangeStart rangeEnd) : a.RowOf threadId row := by
  obtain ⟨record, hmem, hrow⟩ := List.mem_flatMap.mp hrow
  obtain ⟨rfl, hresponse⟩ := mem_recordRows hrow
  exact ⟨ofThread_of_mem hmem, hresponse⟩

/-! ## Entries -/

lemma storedFor_iff_of_unique {artifacts : List Artifact}
    (h : UniqueKeys Artifact.artifactId artifacts) :
    StoredFor artifacts artifactId responseId ↔ ∃ artifact ∈ artifacts,
      artifact.artifactId = artifactId ∧ artifact.responseId = responseId := by
  unfold StoredFor
  simp only [h.find?_eq_some_iff, and_assoc]

section Readers

variable (h : AgreeOn threadId a b) (ha : a.Keyed) (hb : b.Keyed)

include h ha hb

/-- The lookup by an id that the model chose tells nothing about other responses. -/
lemma AgreeOn.storedFor_iff (hresponse : a.ResponseIdOf threadId responseId) :
    StoredFor a.tables.artifacts artifactId responseId ↔
      StoredFor b.tables.artifacts artifactId responseId := by
  rw [storedFor_iff_of_unique ha.artifacts, storedFor_iff_of_unique hb.artifacts]
  refine exists_congr fun artifact => and_congr_left fun hartifact => ?_
  exact h.artifacts artifact (hartifact.2.symm ▸ hresponse)

/-- A row of the thread has the same entries. -/
lemma AgreeOn.rowEntries_eq (hrow : a.RowOf threadId row) :
    a.rowEntries threadId row = b.rowEntries threadId row := by
  obtain ⟨hrecord, hmem, hid⟩ := hrow
  have hresponse : a.ResponseOf threadId row.2.2 := ⟨hmem, row.1, hrecord, hid⟩
  unfold rowEntries
  rw [← h.persistedAt _ hresponse, ← h.payloads _ hresponse]
  suffices hentries : payloadEntries a.tables.artifacts threadId row.1 row.2.2
      (a.tables.persistedAt row.2.2.id) (a.payloads row.2.2.id) =
        payloadEntries b.tables.artifacts threadId row.1 row.2.2
          (a.tables.persistedAt row.2.2.id) (a.payloads row.2.2.id) by
    rw [hentries]
  -- only an envelope leads to the artifacts, and then its id is one of the thread
  cases hpayload : a.payloads row.2.2.id with
  | none => rfl
  | some payload =>
    cases payload with
    | null => rfl
    | _ =>
      simp only [payloadEntries]
      split
      · rfl
      · rename_i envelope hvalid
        have hstored : ∀ artifactId, StoredFor a.tables.artifacts artifactId envelope.responseId ↔
            StoredFor b.tables.artifacts artifactId envelope.responseId := fun artifactId =>
          h.storedFor_iff ha hb ⟨row.2.2, hresponse, _, envelope, hpayload, hvalid, rfl⟩
        simp only [hstored]

lemma AgreeOn.entries_eq {rows : List TimelineRow} (hrows : ∀ row ∈ rows, a.RowOf threadId row) :
    a.entries threadId rows = b.entries threadId rows := by
  unfold entries
  rw [mapM_congr fun row hrow => h.rowEntries_eq ha hb (hrows row hrow)]

/-! ## Readers -/

/-- The readers of the storage cannot tell the two apart. -/
lemma AgreeOn.read_eq (hstrip : strip threadId = threadId) : a.read threadId = b.read threadId := by
  unfold StoredContext.read
  cases hthread : requiredText threadId "thread_id" with
  | error error => rfl
  | ok normalized =>
    obtain rfl : normalized = threadId := (requiredText_eq_ok hthread).trans hstrip
    show a.entries normalized _ = b.entries normalized _
    rw [← h.timelineRows_eq ha hb]
    exact h.entries_eq ha hb fun row => rowOf_timelineRows

lemma AgreeOn.readRecent_eq (hstrip : strip threadId = threadId) (limit : Int) :
    a.readRecent threadId limit = b.readRecent threadId limit := by
  unfold readRecent
  cases hthread : requiredText threadId "thread_id" with
  | error error => rfl
  | ok normalized =>
    obtain rfl : normalized = threadId := (requiredText_eq_ok hthread).trans hstrip
    cases requiredPositiveInteger limit "limit" with
    | error error => rfl
    | ok limit =>
      show a.entries normalized _ = b.entries normalized _
      rw [← h.timelineRows_eq ha hb]
      refine h.entries_eq ha hb fun row hrow => rowOf_timelineRows ?_
      exact List.mem_reverse.mp (List.mem_of_mem_take (List.mem_reverse.mp hrow))

lemma AgreeOn.readRange_eq (hstrip : strip threadId = threadId)
    (occurredAtGte occurredAtLt : PyTime) :
    a.readRange threadId occurredAtGte occurredAtLt =
      b.readRange threadId occurredAtGte occurredAtLt := by
  have hentries : ∀ rangeStart rangeEnd,
      a.entries threadId (a.rangeRows threadId rangeStart rangeEnd) =
        b.entries threadId (b.rangeRows threadId rangeStart rangeEnd) := by
    intro rangeStart rangeEnd
    rw [← h.rangeRows_eq ha hb]
    exact h.entries_eq ha hb fun row => rowOf_rangeRows
  unfold readRange
  cases hthread : requiredText threadId "thread_id" with
  | error error => rfl
  | ok normalized =>
    obtain rfl : normalized = threadId := (requiredText_eq_ok hthread).trans hstrip
    show (do
      let rangeStart ← requiredAwareDatetime occurredAtGte "occurred_at_gte"
      _) = _
    simp only [hentries]
    rfl

lemma AgreeOn.search_eq (hstrip : strip threadId = threadId) (casefold : String → String)
    (query : String) : a.search casefold threadId query = b.search casefold threadId query := by
  unfold search
  rw [h.read_eq ha hb hstrip]

end Readers

end
end StoredContext

/-! ## The tool -/

namespace ContextTool

variable {tool : ContextTool} {a b : StoredContext} {timeline : ContextTimeline}
  {reader : String → Except StorageError (List ContextEntry)}

/-- What the provider requires of a thread before it reads. -/
lemma authorize_eq_ok {threadId normalized : String}
    (h : tool.authorize a threadId = .ok normalized) :
    normalized = strip threadId ∧ normalized = tool.threadId ∧ tool.Allows a := by
  unfold authorize at h
  obtain ⟨text, htext, h⟩ := bind_eq_ok.mp h
  obtain ⟨_, hthread, h⟩ := bind_eq_ok.mp h
  obtain ⟨_, hallows, h⟩ := bind_eq_ok.mp h
  obtain rfl := Except.ok.inj h
  refine ⟨?_, not_not.mp (raiseIf_eq_ok.mp hthread), not_not.mp (raiseIf_eq_ok.mp hallows)⟩
  simp only [requiredTextOf] at htext
  split at htext
  · cases htext
  · exact (Except.ok.inj htext).symm

section Tool

variable (h : StoredContext.AgreeOn tool.threadId a b)

include h

lemma dispatched_iff : tool.Dispatched a ↔ tool.Dispatched b := by
  constructor
  · rintro ⟨record, hmem, hidentity, hthread, hstatus⟩
    exact ⟨record, ((h.records record).mp ⟨hmem, hthread⟩).1, hidentity, hthread, hstatus⟩
  · rintro ⟨record, hmem, hidentity, hthread, hstatus⟩
    exact ⟨record, ((h.records record).mpr ⟨hmem, hthread⟩).1, hidentity, hthread, hstatus⟩

/-- Neither can the authorization. -/
lemma authorize_congr (threadId : String) :
    tool.authorize a threadId = tool.authorize b threadId := by
  have hallows : ∀ error : ToolError,
      raiseIf (¬ tool.Allows a) error = raiseIf (¬ tool.Allows b) error := fun error =>
    if_congr (not_congr (and_congr_right fun _ => dispatched_iff h)) rfl rfl
  simp only [authorize, hallows]

/-- A reader that cannot tell the databases apart on the thread of the tool cannot do so through
the provider. -/
lemma providerCall_congr {reader' : String → Except StorageError (List ContextEntry)}
    (hreader : strip tool.threadId = tool.threadId → reader tool.threadId = reader' tool.threadId) :
    tool.providerCall a reader = tool.providerCall b reader' := by
  unfold providerCall
  rw [← authorize_congr h]
  cases hauthorize : tool.authorize a tool.threadId with
  | error error => rfl
  | ok normalized =>
    obtain ⟨hstrip, rfl, -⟩ := authorize_eq_ok hauthorize
    show (reader tool.threadId).mapError _ = (reader' tool.threadId).mapError _
    rw [hreader hstrip.symm]

lemma readCurrentThread_congr (ha : a.Keyed) (hb : b.Keyed) :
    tool.readCurrentThread a = tool.readCurrentThread b := by
  have hread : tool.providerCall a (fun threadId =>
      (a.read threadId).mapError .ofContextError) =
        tool.providerCall b fun threadId => (b.read threadId).mapError .ofContextError :=
    providerCall_congr h fun hstrip => congrArg _ (h.read_eq ha hb hstrip)
  unfold readCurrentThread
  rw [hread]

/-- Nor the tool, whichever query its arguments ask for. -/
lemma readRecentMessages_congr (ha : a.Keyed) (hb : b.Keyed) (limit : PyValue)
    (occurredAtGte occurredAtLt : PyTime) :
    tool.readRecentMessages a limit occurredAtGte occurredAtLt =
      tool.readRecentMessages b limit occurredAtGte occurredAtLt := by
  have hrecent : ∀ limit, tool.providerCall a (fun threadId =>
      (a.readRecent threadId limit).mapError .ofContextError) =
        tool.providerCall b fun threadId =>
          (b.readRecent threadId limit).mapError .ofContextError := fun limit =>
    providerCall_congr h fun hstrip => congrArg _ (h.readRecent_eq ha hb hstrip limit)
  have hrange : tool.providerCall a (fun threadId =>
      a.readRange threadId occurredAtGte occurredAtLt) =
        tool.providerCall b fun threadId => b.readRange threadId occurredAtGte occurredAtLt :=
    providerCall_congr h fun hstrip => h.readRange_eq ha hb hstrip occurredAtGte occurredAtLt
  unfold readRecentMessages
  simp only [hrecent, hrange]

lemma searchThreadContext_congr (ha : a.Keyed) (hb : b.Keyed) (casefold : String → String)
    (query : PyValue) :
    tool.searchThreadContext casefold a query = tool.searchThreadContext casefold b query := by
  have hsearch : ∀ query, tool.providerCall a (fun threadId =>
      (a.search casefold threadId query).mapError .ofContextError) =
        tool.providerCall b fun threadId =>
          (b.search casefold threadId query).mapError .ofContextError := fun query =>
    providerCall_congr h fun hstrip => congrArg _ (h.search_eq ha hb hstrip casefold query)
  unfold searchThreadContext
  simp only [hsearch]

end Tool

/-! ## Access -/

/-- Nothing is read before the provider has authorized the call. -/
lemma dispatched_of_providerCall {entries : List ContextEntry}
    (h : tool.providerCall a reader = .ok entries) : tool.Dispatched a := by
  obtain ⟨normalized, hauthorize, -⟩ := bind_eq_ok.mp h
  exact (authorize_eq_ok hauthorize).2.2.2

lemma dispatched_of_readRecentMessages {limit : PyValue} {occurredAtGte occurredAtLt : PyTime}
    (h : tool.readRecentMessages a limit occurredAtGte occurredAtLt = .ok timeline) :
    tool.Dispatched a := by
  obtain ⟨limit, -, h⟩ := bind_eq_ok.mp h
  obtain ⟨_, -, h⟩ := bind_eq_ok.mp h
  dsimp only at h
  split_ifs at h with hrecent
  · obtain ⟨entries, hentries, -⟩ := bind_eq_ok.mp h
    exact dispatched_of_providerCall hentries
  · obtain ⟨entries, hentries, -⟩ := bind_eq_ok.mp h
    exact dispatched_of_providerCall hentries

/-- Whatever the tool returns, its identity has been dispatched in its thread. -/
lemma dispatched_of_invoke {casefold : String → String} {invocation : Invocation}
    (h : tool.invoke casefold a invocation = .ok timeline) : tool.Dispatched a := by
  obtain ⟨_, -, h⟩ := bind_eq_ok.mp h
  obtain ⟨name, -, h⟩ := bind_eq_ok.mp h
  split_ifs at h with hread hsearch
  · obtain ⟨_, -, h⟩ := bind_eq_ok.mp h
    by_cases hcurrent : invocation.limit = .none ∧ invocation.occurredAtGte = .none ∧
        invocation.occurredAtLt = .none
    · rw [if_pos hcurrent] at h
      obtain ⟨entries, hentries, -⟩ := bind_eq_ok.mp h
      exact dispatched_of_providerCall hentries
    · rw [if_neg hcurrent] at h
      exact dispatched_of_readRecentMessages h
  · obtain ⟨_, -, h⟩ := bind_eq_ok.mp h
    obtain ⟨_, -, h⟩ := bind_eq_ok.mp h
    obtain ⟨query, -, h⟩ := bind_eq_ok.mp h
    obtain ⟨entries, hentries, -⟩ := bind_eq_ok.mp h
    exact dispatched_of_providerCall hentries

/-- A tool bound to an identity and a thread returns the same timeline, or raises the same error, in
two databases that agree on the thread; and it returns only to an identity with a dispatch record on
the thread that runs or has succeeded. -/
theorem invoke_isolated (casefold : String → String) (tool : ContextTool) (a b : StoredContext)
    (ha : a.Keyed) (hb : b.Keyed) (h : StoredContext.AgreeOn tool.threadId a b) (invocation : Invocation) :
    tool.invoke casefold a invocation = tool.invoke casefold b invocation ∧
      ∀ timeline, tool.invoke casefold a invocation = .ok timeline →
        ∃ record ∈ a.tables.dispatch.records,
          record.enterpriseIdentityId = tool.enterpriseIdentityId ∧
          record.aiThreadId = tool.threadId ∧
          (record.status = .running ∨ record.status = .success) := by
  refine ⟨?_, fun timeline htimeline => ?_⟩
  · simp only [invoke, invokeRead, invokeSearch, readCurrentThread_congr h ha hb,
      readRecentMessages_congr h ha hb, searchThreadContext_congr h ha hb]
  · obtain ⟨record, hmem, hidentity, hthread, hstatus⟩ := dispatched_of_invoke htimeline
    exact ⟨record, hmem, hidentity, hthread, by simpa using hstatus⟩

/-- A finished turn on one thread beside a turn and artifacts of another. -/
def besideOther (content : String) (artifacts : List Artifact) : StoredContext where
  tables := {
    messages := [⟨7, "question", 0, 0, 0⟩, ⟨8, content, 0, 0, 0⟩]
    dispatch := {
      records := [{ newRecord ⟨7, "identity", "workspace", "thread"⟩ 1 0 with status := .success },
        newRecord ⟨8, "identity", "workspace", "other"⟩ 2 0]
      threads := []
      responses := [⟨1, 1, none, "answer", none⟩]
      audits := [] }
    persistedAt := fun _ => 0
    artifacts := artifacts
    snapshots := [] }
  payloads := fun _ => some .null

lemma keyed_besideOther (content : String) {artifacts : List Artifact}
    (hartifacts : UniqueKeys Artifact.artifactId artifacts) :
    (besideOther content artifacts).Keyed where
  records := by simp [besideOther, UniqueKeys, newRecord]
  messages := by simp [besideOther, UniqueKeys]
  responses := by simp [besideOther, UniqueKeys]
  artifacts := hartifacts

/-- The tool that reads the finished turn. -/
def threadTool : ContextTool := ⟨"identity", "thread", true⟩

/-- The invocation of `context.read` without further arguments. -/
def readAll : Invocation :=
  ⟨.str "context.read", .str "thread", .str "identity", .none, .none, .none, .none⟩

/-- The two stores differ in another thread only. -/
lemma agreeOn_besideOther (content content' : String) (artifacts artifacts' : List Artifact) :
    StoredContext.AgreeOn threadTool.threadId (besideOther content artifacts)
      (besideOther content' artifacts') where
  records _ := Iff.rfl
  messages message := by
    rintro ⟨record, ⟨hmem, hthread⟩, hid⟩
    have hrecord : record.messageId = 7 := by
      rcases List.mem_pair.mp hmem with rfl | rfl
      · rfl
      · exact absurd hthread (by decide)
    have hother : ∀ content : String, message ≠ ⟨8, content, 0, 0, 0⟩ := by
      rintro content rfl
      rw [hrecord] at hid
      exact absurd (show (8 : Int) = 7 from hid) (by decide)
    simp [besideOther, hother]
  responses _ := Iff.rfl
  persistedAt _ _ := rfl
  payloads _ _ := rfl
  artifacts artifact := by
    -- the thread has no envelope, so no artifact is one of its responses
    rintro ⟨response, -, payload, envelope, hpayload, hvalid, -⟩
    obtain rfl : payload = .null := (Option.some.inj hpayload).symm
    cases hvalid
  snapshots _ _ := Iff.rfl

/-- The finished turn is read, and what happens on the other thread does not show. -/
theorem other_thread_unseen :
    ((threadTool.invoke id (besideOther "secret" []) readAll).toOption.map
      fun timeline => timeline.messages.map ContextTimelineMessage.content) =
        some [some "question", some "answer"] ∧
    threadTool.invoke id (besideOther "secret" []) readAll =
      threadTool.invoke id (besideOther "nothing"
        [⟨"artifact", "response", .file, "name", "type", none, none, "key", .created⟩]) readAll :=
  ⟨by decide +kernel, (invoke_isolated id threadTool (besideOther "secret" [])
    (besideOther "nothing" [_])
    (keyed_besideOther "secret" List.nodup_nil)
    (keyed_besideOther "nothing" (List.nodup_singleton _))
    (agreeOn_besideOther "secret" "nothing" [] _) readAll).1⟩

end ContextTool
end AgentGateway.Context
