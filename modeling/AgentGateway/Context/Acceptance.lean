import AgentGateway.Context.Storage
import AgentGateway.Lib.Pydantic
import AgentGateway.Lib.Table

/-!
# Which histories a snapshot accepts

A boundary should be accepted when every newly covered turn has succeeded or is dead and the
artifacts it refers to are stored. The check of the store asks for one thing more: it validates
every stored column that is not SQL `NULL`, and the JSON `null` of a response without an envelope
is no envelope.
-/

namespace AgentGateway.Context

open Lib Lib.Table Hermes Dispatch Artifacts

/-- An envelope of the covered turns. -/
def CoveredEnvelope (tables : ContextTables) (threadId : String) (validatedFrom : Option ℕ)
    (coveredUntil : ℕ) (envelope : ResponseEnvelope) : Prop :=
  ∃ response ∈ tables.dispatch.responses,
    CoveredResponse tables threadId validatedFrom coveredUntil response ∧
    response.responsePayload = some envelope

/-- Every newly covered record has succeeded or is dead, and every artifact of a newly covered
envelope is stored with the response of the envelope, which alone refers to it. -/
structure Finished (tables : ContextTables) (threadId : String) (validatedFrom : Option ℕ)
    (coveredUntil : ℕ) : Prop where
  records : ∀ record ∈ tables.dispatch.records,
    Covered threadId validatedFrom coveredUntil record →
      record.status = .success ∨ record.status = .dead
  artifacts : ∀ envelope, CoveredEnvelope tables threadId validatedFrom coveredUntil envelope →
    ∀ artifactId ∈ artifactIds envelope,
      (∃ artifact ∈ tables.artifacts, artifact.artifactId = artifactId ∧
        artifact.responseId = envelope.responseId) ∧
      ∀ other, CoveredEnvelope tables threadId validatedFrom coveredUntil other →
        artifactId ∈ artifactIds other → other.responseId = envelope.responseId

/-- Every newly covered result has an envelope. -/
def AllEnvelopes (tables : ContextTables) (threadId : String) (validatedFrom : Option ℕ)
    (coveredUntil : ℕ) : Prop :=
  ∀ response ∈ tables.dispatch.responses,
    CoveredResponse tables threadId validatedFrom coveredUntil response →
      response.responsePayload ≠ none

/-- The envelopes that Hermes results carry have been validated when they were built. -/
def EnvelopesValidated (tables : ContextTables) : Prop :=
  ∀ response ∈ tables.dispatch.responses, ∀ envelope ∈ response.responsePayload,
    ∃ payload, ResponseEnvelope.modelValidate payload = .ok envelope

section Acceptance

variable {tables : ContextTables} {threadId : String} {validatedFrom : Option ℕ}
  {coveredUntil : ℕ} {references : List (String × String)}

lemma status_mem_unfinished (record : HermesDispatchRecord) :
    record.status ∈ unfinishedStatuses ↔ ¬ (record.status = .success ∨ record.status = .dead) := by
  cases record.status <;> simp [unfinishedStatuses]

/-- The references of one result. -/
def responseReferences (response : HermesDispatchResponse) : List (String × String) :=
  match response.responsePayload with
  | none => []
  | some envelope => envelopeReferences envelope

/-- The references of a dumped envelope are its own. -/
lemma payloadReferences_modelDump {envelope : ResponseEnvelope}
    (h : ∃ payload, ResponseEnvelope.modelValidate payload = .ok envelope) :
    payloadReferences envelope.modelDump = .ok (envelopeReferences envelope) := by
  obtain ⟨payload, hpayload⟩ := h
  unfold payloadReferences
  rw [ResponseEnvelope.modelValidate_modelDump hpayload]

/-- The stored columns are all valid, or the first response without an envelope makes the query
raise. -/
lemma mapM_payloadReferences (responses : List HermesDispatchResponse)
    (hvalid : ∀ response ∈ responses, ∀ envelope ∈ response.responsePayload,
      ∃ payload, ResponseEnvelope.modelValidate payload = .ok envelope) :
    (responses.filterMap responsePayload).mapM payloadReferences =
      if ∀ response ∈ responses, response.responsePayload ≠ none then
        .ok (responses.map responseReferences)
      else .error .payload := by
  induction responses with
  | nil => rfl
  | cons response rest ih =>
    have hrest := ih fun other hmem => hvalid other (List.mem_cons_of_mem _ hmem)
    cases henvelope : response.responsePayload with
    | none =>
      have hnull : responsePayload response = some .null := by simp [responsePayload, henvelope]
      have hbad : ¬ ∀ other ∈ response :: rest, other.responsePayload ≠ none := fun hall =>
        hall response List.mem_cons_self henvelope
      rw [if_neg hbad, List.filterMap_cons_some hnull, List.mapM_cons]
      rfl
    | some envelope =>
      have hdump : responsePayload response = some envelope.modelDump := by
        simp [responsePayload, henvelope]
      have hreferences : responseReferences response = envelopeReferences envelope := by
        simp [responseReferences, henvelope]
      rw [List.filterMap_cons_some hdump, List.mapM_cons, payloadReferences_modelDump
        (hvalid response List.mem_cons_self envelope henvelope), hrest]
      by_cases hall : ∀ other ∈ rest, other.responsePayload ≠ none
      · rw [if_pos hall, if_pos (by simpa [henvelope] using hall), List.map_cons, hreferences]
        rfl
      · rw [if_neg hall, if_neg (by simpa [henvelope] using hall)]
        rfl

/-- The responses of covered records. -/
lemma mem_coveredResponses {response : HermesDispatchResponse} :
    response ∈ coveredResponses tables threadId validatedFrom coveredUntil ↔
      response ∈ tables.dispatch.responses ∧
        CoveredResponse tables threadId validatedFrom coveredUntil response := by
  rw [coveredResponses, List.mem_filter, decide_eq_true_eq]

/-- What the payload query yields. -/
lemma coveredReferences_eq (hvalid : EnvelopesValidated tables) (threadId : String)
    (validatedFrom : Option ℕ) (coveredUntil : ℕ) :
    AllEnvelopes tables threadId validatedFrom coveredUntil ∧
      coveredReferences tables threadId validatedFrom coveredUntil =
        .ok ((coveredResponses tables threadId validatedFrom coveredUntil).flatMap
          responseReferences) ∨
    ¬ AllEnvelopes tables threadId validatedFrom coveredUntil ∧
      coveredReferences tables threadId validatedFrom coveredUntil = .error .payload := by
  have hmapM := mapM_payloadReferences
    (coveredResponses tables threadId validatedFrom coveredUntil) fun response hmem =>
      hvalid response (mem_coveredResponses.mp hmem).1
  have hall : (∀ response ∈ coveredResponses tables threadId validatedFrom coveredUntil,
      response.responsePayload ≠ none) ↔
      AllEnvelopes tables threadId validatedFrom coveredUntil := by
    simp only [AllEnvelopes, mem_coveredResponses, and_imp]
  rw [coveredReferences, hmapM]
  by_cases henvelopes : AllEnvelopes tables threadId validatedFrom coveredUntil
  · rw [if_pos (hall.mpr henvelopes)]
    refine Or.inl ⟨henvelopes, ?_⟩
    rw [List.flatMap_def]
    rfl
  · rw [if_neg (hall.not.mpr henvelopes)]
    exact Or.inr ⟨henvelopes, rfl⟩

/-- The references of the covered envelopes. -/
lemma mem_flatMap_responseReferences {artifactId responseId : String} :
    (artifactId, responseId) ∈
        (coveredResponses tables threadId validatedFrom coveredUntil).flatMap responseReferences ↔
      ∃ envelope, CoveredEnvelope tables threadId validatedFrom coveredUntil envelope ∧
        artifactId ∈ artifactIds envelope ∧ envelope.responseId = responseId := by
  rw [List.mem_flatMap]
  constructor
  · rintro ⟨response, hresponse, hmem⟩
    obtain ⟨hin, hcovered⟩ := mem_coveredResponses.mp hresponse
    cases henvelope : response.responsePayload with
    | none => simp [responseReferences, henvelope] at hmem
    | some envelope =>
      simp only [responseReferences, henvelope, envelopeReferences, List.mem_map,
        Prod.mk.injEq] at hmem
      obtain ⟨id, hid, rfl, hof⟩ := hmem
      exact ⟨envelope, ⟨response, hin, hcovered, henvelope⟩, hid, hof⟩
  · rintro ⟨envelope, ⟨response, hin, hcovered, henvelope⟩, hid, rfl⟩
    refine ⟨response, mem_coveredResponses.mpr ⟨hin, hcovered⟩, ?_⟩
    simp only [responseReferences, henvelope, envelopeReferences, List.mem_map]
    exact ⟨artifactId, hid, rfl⟩

/-- What the checks on the statuses and the artifacts ask for. -/
lemma finished_iff (hkeys : UniqueKeys Artifact.artifactId tables.artifacts) :
    Finished tables threadId validatedFrom coveredUntil ↔
      (¬ ∃ record ∈ tables.dispatch.records, Covered threadId validatedFrom coveredUntil record ∧
        record.status ∈ unfinishedStatuses) ∧
      ∀ artifactId ∈ ((coveredResponses tables threadId validatedFrom coveredUntil).flatMap
          responseReferences).map Prod.fst,
        Resolved tables.artifacts ((coveredResponses tables threadId validatedFrom
          coveredUntil).flatMap responseReferences) artifactId := by
  constructor
  · intro h
    constructor
    · rintro ⟨record, hrecord, hcovered, hstatus⟩
      exact (status_mem_unfinished record).mp hstatus (h.records record hrecord hcovered)
    · intro artifactId hmem
      obtain ⟨⟨id, responseId⟩, hreference, rfl⟩ := List.mem_map.mp hmem
      obtain ⟨envelope, henvelope, hid, rfl⟩ := mem_flatMap_responseReferences.mp hreference
      obtain ⟨⟨artifact, hartifact, rfl, hof⟩, honly⟩ := h.artifacts envelope henvelope id hid
      refine ⟨artifact, hkeys.find?_eq hartifact, ?_⟩
      rintro ⟨otherId, otherResponse⟩ hother hsame
      obtain ⟨other, hcovered, hin, rfl⟩ := mem_flatMap_responseReferences.mp hother
      rw [hof]
      dsimp only at hsame ⊢
      exact honly other hcovered (hsame ▸ hin)
  · rintro ⟨hfinished, hresolved⟩
    constructor
    · intro record hrecord hcovered
      by_contra hstatus
      exact hfinished ⟨record, hrecord, hcovered, (status_mem_unfinished record).mpr hstatus⟩
    · intro envelope henvelope artifactId hid
      have hreference := mem_flatMap_responseReferences.mpr ⟨envelope, henvelope, hid, rfl⟩
      obtain ⟨artifact, hfind, honly⟩ := hresolved artifactId
        (List.mem_map.mpr ⟨_, hreference, rfl⟩)
      have hof : envelope.responseId = artifact.responseId := honly _ hreference rfl
      refine ⟨⟨artifact, List.mem_of_find?_eq_some hfind, by simpa using List.find?_some hfind,
        hof.symm⟩, ?_⟩
      intro other hother hin
      rw [hof]
      exact honly _ (mem_flatMap_responseReferences.mpr ⟨other, hother, hin, rfl⟩) rfl

/-- Up to the last record, `_validate_boundary` passes exactly the finished histories whose
results all have envelopes. -/
lemma validateBoundary_eq_ok (hvalid : EnvelopesValidated tables)
    (hkeys : UniqueKeys Artifact.artifactId tables.artifacts)
    (hend : coveredUntil ≤ timelineEnd tables threadId) :
    validateBoundary tables threadId coveredUntil validatedFrom = .ok () ↔
      Finished tables threadId validatedFrom coveredUntil ∧
        AllEnvelopes tables threadId validatedFrom coveredUntil := by
  rw [finished_iff hkeys]
  simp only [validateBoundary, requireBounded, requireFinished, requireResolved, bind_eq_ok,
    raiseIf_eq_ok, not_lt]
  rcases coveredReferences_eq hvalid threadId validatedFrom coveredUntil with
    ⟨henvelopes, hreferences⟩ | ⟨hlegacy, herror⟩
  · rw [hreferences]
    constructor
    · rintro ⟨-, -, -, hfinished, references, hok, hresolved⟩
      cases hok
      refine ⟨⟨hfinished, fun artifactId hmem => ?_⟩, henvelopes⟩
      by_contra hnot
      exact hresolved ⟨artifactId, hmem, hnot⟩
    · rintro ⟨⟨hfinished, hresolved⟩, -⟩
      refine ⟨(), hend, (), hfinished, _, rfl, ?_⟩
      rintro ⟨artifactId, hmem, hnot⟩
      exact hnot (hresolved artifactId hmem)
  · rw [herror]
    constructor
    · rintro ⟨-, -, -, -, references, hok, -⟩
      cases hok
    · rintro ⟨-, henvelopes⟩
      exact absurd henvelopes hlegacy

/-- A call of `create` whose arguments pass their checks is decided by the boundary. -/
lemma create_eq_ok_iff {summary : String} (now : Timestamp)
    (hthread : ∃ thread ∈ tables.dispatch.threads, thread.id = strip threadId)
    (hid : ¬ IsBlank threadId) (hsummary : ¬ IsBlank summary) (hpositive : 1 ≤ coveredUntil)
    (hlatest : ∀ latest ∈ latestRecord tables (strip threadId),
      latest.coveredUntil ≤ coveredUntil) :
    (∃ result, create tables threadId summary coveredUntil now = .ok result) ↔
      validateBoundary tables (strip threadId) coveredUntil
        ((latestRecord tables (strip threadId)).map ContextSnapshotRecord.coveredUntil) =
          .ok () := by
  have hnatural : requiredPositiveInteger (coveredUntil : Int) "covered_until" =
      .ok coveredUntil := by
    refine bind_eq_ok.mpr ⟨(), raiseIf_eq_ok.mpr (by omega), ?_⟩
    rw [Int.toNat_natCast]
    rfl
  have hadvance : requireAdvance (latestRecord tables (strip threadId)) coveredUntil =
      .ok () := by
    refine raiseIf_eq_ok.mpr ?_
    rintro ⟨latest, hmem, hlt⟩
    have := hlatest latest hmem
    omega
  constructor
  · rintro ⟨result, h⟩
    simp only [create, requiredText, bind_eq_ok, raiseIf_eq_ok] at h
    obtain ⟨id, ⟨_, -, hstrip⟩, text, -, until', huntil, _, -, _, -, _, hvalidate, -⟩ := h
    cases hstrip
    rw [hnatural] at huntil
    cases huntil
    exact hvalidate
  · intro hvalidate
    refine ⟨_, bind_eq_ok.mpr ⟨strip threadId, bind_eq_ok.mpr ⟨(), raiseIf_eq_ok.mpr hid, rfl⟩,
      bind_eq_ok.mpr ⟨strip summary, bind_eq_ok.mpr ⟨(), raiseIf_eq_ok.mpr hsummary, rfl⟩,
      bind_eq_ok.mpr ⟨coveredUntil, hnatural, bind_eq_ok.mpr ⟨(), raiseIf_eq_ok.mpr ?_,
      bind_eq_ok.mpr ⟨(), hadvance, bind_eq_ok.mpr ⟨(), hvalidate, rfl⟩⟩⟩⟩⟩⟩⟩
    intro hnone
    obtain ⟨thread, hmem, hsame⟩ := hthread
    exact hnone thread hmem hsame

end Acceptance

/-- A thread with one successful turn. -/
def singleTurn (envelope : Option ResponseEnvelope) : ContextTables where
  messages := [⟨7, "question", 0, 0, 0⟩]
  dispatch := {
    records := [{ newRecord ⟨7, "identity", "workspace", "thread"⟩ 1 0 with status := .success }]
    threads := [⟨"thread", "workspace", none, .privateThread, none, "key", .active, none⟩]
    responses := [⟨1, 1, none, "answer", envelope⟩]
    audits := [] }
  persistedAt := fun _ => 0
  artifacts := []
  snapshots := []

/-- The envelope of a text. -/
def textEnvelope : ResponseEnvelope := ⟨"response", [.text "answer"], List.cons_ne_nil _ _⟩

end AgentGateway.Context
