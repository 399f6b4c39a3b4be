import AgentGateway.Hermes.Models

/-!
# The stored form of an envelope

`complete_success` stores `envelope.model_dump(mode="json")` in a JSON column, and `to_outcome`
validates what it reads there. The validators strip and check, so validating a dump is not a no-op
on every value a caller could write down; it is one on every value a validator has let through,
which is what `modelValidate_modelDump` says.
-/

namespace AgentGateway.Hermes

open AgentGateway.Lib

/-- A JSON value, as far as the validators look into it. -/
inductive JsonValue
  | null
  | bool (value : Bool)
  | number (value : Int)
  | string (value : String)
  | array (items : List JsonValue)
  | object (fields : List (String × JsonValue))

/-- `ValidationError`, which nothing looks into. -/
structure ValidationError where
  deriving DecidableEq, Repr

/-- A field of an object. -/
def field (fields : List (String × JsonValue)) (name : String) : Except ValidationError JsonValue :=
  match fields.find? fun entry => entry.1 = name with
  | some entry => .ok entry.2
  | none => .error ⟨⟩

/-- `extra="forbid"`. -/
def forbidExtra (fields : List (String × JsonValue)) (names : List String) :
    Except ValidationError Unit :=
  raiseIf (∃ entry ∈ fields, entry.1 ∉ names) ⟨⟩

/-- `StrictStr` with `min_length=1` and, where there is one, `max_length`. -/
def strictStr (maxLength : Option ℕ) : JsonValue → Except ValidationError String
  | .string value => do
    raiseIf (value.length < 1 ∨ ∃ limit ∈ maxLength, limit < value.length) ⟨⟩
    return value
  | _ => .error ⟨⟩

/-- A character below the space. -/
def isControl (c : Char) : Bool := c.toNat < 0x20

/-- `validate_response_id`. -/
def validateResponseId (value : String) : Except ValidationError String := do
  let responseId := strip value
  raiseIf (responseId = "") ⟨⟩
  raiseIf (responseId.toList.any isControl = true) ⟨⟩
  return responseId

/-- `validate_artifact_id`. -/
def validateArtifactId (value : String) : Except ValidationError String := do
  let artifactId := strip value
  raiseIf (artifactId = "") ⟨⟩
  raiseIf (artifactId = "." ∨ artifactId = ".." ∨
    artifactId.toList.any (fun c => c = '/' ∨ c = '\\' ∨ c = ':') = true ∨
    artifactId.toList.any isControl = true) ⟨⟩
  return artifactId

/-- `TextPart` or `ArtifactRefPart`, told apart by the `type` field. -/
def ResponsePart.modelValidate : JsonValue → Except ValidationError ResponsePart
  | .object fields => do
    match ← field fields "type" with
    | .string "text" =>
      forbidExtra fields ["type", "text"]
      let text ← strictStr none (← field fields "text")
      return .text text
    | .string "artifact_ref" =>
      forbidExtra fields ["type", "artifact_id"]
      let value ← strictStr (some 36) (← field fields "artifact_id")
      let artifactId ← validateArtifactId value
      return .artifactRef artifactId
    | _ => .error ⟨⟩
  | _ => .error ⟨⟩

/-- `ResponseEnvelope.model_validate`. -/
def ResponseEnvelope.modelValidate : JsonValue → Except ValidationError ResponseEnvelope
  | .object fields => do
    forbidExtra fields ["response_id", "parts"]
    let value ← strictStr (some 255) (← field fields "response_id")
    let responseId ← validateResponseId value
    match ← field fields "parts" with
    | .array items =>
      let parts ← items.mapM ResponsePart.modelValidate
      if h : parts ≠ [] then return ⟨responseId, parts, h⟩ else .error ⟨⟩
    | _ => .error ⟨⟩
  | _ => .error ⟨⟩

/-- `model_dump(mode="json")` of a part. -/
def ResponsePart.modelDump : ResponsePart → JsonValue
  | .text content => .object [("type", .string "text"), ("text", .string content)]
  | .artifactRef artifactId =>
    .object [("type", .string "artifact_ref"), ("artifact_id", .string artifactId)]

/-- `model_dump(mode="json")` of an envelope. -/
def ResponseEnvelope.modelDump (envelope : ResponseEnvelope) : JsonValue :=
  .object [("response_id", .string envelope.responseId),
    ("parts", .array (envelope.parts.map ResponsePart.modelDump))]

/-! ## Round trip -/

lemma length_strip_le (s : String) : (strip s).length ≤ s.length := by
  have hfront := (List.dropWhile_suffix isSpace (l := s.toList)).length_le
  have hback := (List.dropWhile_suffix isSpace
    (l := (s.toList.dropWhile isSpace).reverse)).length_le
  rw [List.length_reverse] at hback
  simp only [strip, String.length_ofList, List.length_reverse]
  exact hback.trans hfront

variable {payload : JsonValue} {value : String}

/-- A text that passes is not empty and within its limit. -/
lemma strictStr_eq_ok {maxLength : Option ℕ} (h : strictStr maxLength payload = .ok value) :
    1 ≤ value.length ∧ ∀ limit ∈ maxLength, value.length ≤ limit := by
  unfold strictStr at h
  split at h
  · simp only [bind_eq_ok, raiseIf_eq_ok] at h
    obtain ⟨-, hlength, h⟩ := h
    cases h
    push Not at hlength
    exact hlength
  · cases h

lemma strictStr_string {maxLength : Option ℕ} (hpos : 1 ≤ value.length)
    (hmax : ∀ limit ∈ maxLength, value.length ≤ limit) :
    strictStr maxLength (.string value) = .ok value := by
  have hlength : ¬ (value.length < 1 ∨ ∃ limit ∈ maxLength, limit < value.length) := by
    push Not
    exact ⟨hpos, hmax⟩
  simp only [strictStr, raiseIf, if_neg hlength]
  rfl

lemma one_le_length {s : String} (h : s ≠ "") : 1 ≤ s.length := by
  rw [Nat.one_le_iff_ne_zero]
  intro hzero
  exact h (String.length_eq_zero_iff.mp hzero)

/-- A response id that has been validated is validated as it is. -/
lemma validateResponseId_again {responseId : String} (h : validateResponseId value = .ok responseId) :
    responseId = strip value ∧ responseId ≠ "" ∧
      validateResponseId responseId = .ok responseId := by
  have h' := h
  simp only [validateResponseId, bind_eq_ok, raiseIf_eq_ok] at h
  obtain ⟨-, hblank, -, -, h⟩ := h
  cases h
  refine ⟨rfl, hblank, ?_⟩
  rw [validateResponseId, strip_strip]
  exact h'

/-- An artifact id that has been validated is validated as it is. -/
lemma validateArtifactId_again {artifactId : String} (h : validateArtifactId value = .ok artifactId) :
    artifactId = strip value ∧ artifactId ≠ "" ∧
      validateArtifactId artifactId = .ok artifactId := by
  have h' := h
  simp only [validateArtifactId, bind_eq_ok, raiseIf_eq_ok] at h
  obtain ⟨-, hblank, -, -, h⟩ := h
  cases h
  refine ⟨rfl, hblank, ?_⟩
  rw [validateArtifactId, strip_strip]
  exact h'

/-- Stripping keeps a text within its limit. -/
lemma strictStr_strip {limit : ℕ} (h : strictStr (some limit) payload = .ok value)
    (hblank : strip value ≠ "") :
    strictStr (some limit) (.string (strip value)) = .ok (strip value) := by
  refine strictStr_string (one_le_length hblank) ?_
  intro limit' hlimit
  obtain rfl := Option.mem_some_iff.mp hlimit
  exact (length_strip_le value).trans ((strictStr_eq_ok h).2 limit rfl)

/-- A validated part is read back from its dump. -/
lemma ResponsePart.modelValidate_modelDump {part : ResponsePart}
    (h : ResponsePart.modelValidate payload = .ok part) :
    ResponsePart.modelValidate part.modelDump = .ok part := by
  unfold ResponsePart.modelValidate at h
  split at h
  · simp only [bind_eq_ok] at h
    obtain ⟨type, -, h⟩ := h
    split at h
    · -- a text part
      simp only [bind_eq_ok] at h
      obtain ⟨-, -, value, -, content, hcontent, h⟩ := h
      cases h
      obtain ⟨hpos, hmax⟩ := strictStr_eq_ok hcontent
      have hagain := strictStr_string hpos hmax
      simp [ResponsePart.modelDump, ResponsePart.modelValidate, field, forbidExtra, raiseIf,
        hagain, Bind.bind, Except.bind, Pure.pure, Except.pure]
    · -- a reference to an artifact
      simp only [bind_eq_ok] at h
      obtain ⟨-, -, value, -, text, htext, artifactId, hartifact, h⟩ := h
      cases h
      obtain ⟨rfl, hblank, hvalid⟩ := validateArtifactId_again hartifact
      have hagain := strictStr_strip htext hblank
      simp [ResponsePart.modelDump, ResponsePart.modelValidate, field, forbidExtra, raiseIf,
        hagain, hvalid, Bind.bind, Except.bind, Pure.pure, Except.pure]
    · cases h
  · cases h

/-- So is a list of parts. -/
lemma mapM_modelDump {items : List JsonValue} {parts : List ResponsePart}
    (h : items.mapM ResponsePart.modelValidate = .ok parts) :
    (parts.map ResponsePart.modelDump).mapM ResponsePart.modelValidate = .ok parts := by
  induction items generalizing parts with
  | nil =>
    cases h
    rfl
  | cons item items ih =>
    simp only [List.mapM_cons, bind_eq_ok] at h
    obtain ⟨part, hpart, rest, hrest, h⟩ := h
    cases h
    simp only [List.map_cons, List.mapM_cons, ResponsePart.modelValidate_modelDump hpart,
      ih hrest]
    rfl

/-- An envelope that came out of a validation is read back from its dump as it was. -/
theorem ResponseEnvelope.modelValidate_modelDump {envelope : ResponseEnvelope}
    (h : ResponseEnvelope.modelValidate payload = .ok envelope) :
    ResponseEnvelope.modelValidate envelope.modelDump = .ok envelope := by
  unfold ResponseEnvelope.modelValidate at h
  split at h
  · simp only [bind_eq_ok] at h
    obtain ⟨-, -, value, -, text, htext, responseId, hid, items, -, h⟩ := h
    obtain ⟨rfl, hblank, hvalid⟩ := validateResponseId_again hid
    have hagain := strictStr_strip htext hblank
    split at h
    · simp only [bind_eq_ok] at h
      obtain ⟨parts, hparts, h⟩ := h
      have hdump := mapM_modelDump hparts
      split_ifs at h with hne
      cases h
      simp [ResponseEnvelope.modelDump, ResponseEnvelope.modelValidate, field, forbidExtra,
        raiseIf, hagain, hvalid, hdump, hne, Bind.bind, Except.bind, Pure.pure, Except.pure]
    · cases h
  · cases h

end AgentGateway.Hermes
