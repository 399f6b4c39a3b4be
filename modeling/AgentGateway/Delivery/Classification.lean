import AgentGateway.Delivery.Sender

/-!
# How a failed attempt is recorded

A failed attempt should be recorded as uncertain only if something was posted, and as retryable or
failed only if it is known that nothing was delivered. Whether it is, depends on what the
surroundings raised: `Covered` says for each reply that the worker classifies it that way.
-/

namespace AgentGateway.Delivery.Channel

open Lib Lib.Program Hermes Artifacts

/-! ## What should be recorded -/

/-- A `POST` to `api/messages/send`. -/
def IsPost : AttemptEvent → Prop
  | ⟨.post _, _⟩ => True
  | _ => False

/-- The body of a response is an object whose `success` is `true`. -/
def HttpResponse.ConfirmsSuccess (response : HttpResponse) : Prop :=
  response.content ≠ [] ∧ ∃ payload fields, response.json = .ok payload ∧
    confirmed payload = some fields

/-- A `POST` with no response below 500, or with a 2xx that does not confirm success. -/
def Unsettled : AttemptEvent → Prop
  | ⟨.post _, .error _⟩ => True
  | ⟨.post _, .ok response⟩ =>
    500 ≤ response.statusCode ∨
      200 ≤ response.statusCode ∧ response.statusCode < 300 ∧ ¬ response.ConfirmsSuccess
  | _ => False

/-- The attempt is recorded as retryable. -/
def RecordsRetryable : Call → Prop
  | .markAttemptRetryable _ _ _ _ _ _ => True
  | _ => False

/-- The attempt is recorded as permanently failed. -/
def RecordsFailed : Call → Prop
  | .markAttemptFailed _ _ _ _ _ => True
  | _ => False

/-- The attempt is recorded as uncertain. -/
def RecordsUncertain : Call → Prop
  | .markAttemptUncertain _ _ _ _ _ => True
  | _ => False

/-- Uncertain only after a `POST`, and neither retryable nor failed after an unsettled one. -/
def ExactlyRecorded (events : List AttemptEvent) (call : Call) : Prop :=
  (RecordsUncertain call → ∃ event ∈ events, IsPost event) ∧
    ((∃ event ∈ events, Unsettled event) → ¬ RecordsRetryable call ∧ ¬ RecordsFailed call)

/-- The worker classifies this reply as it should: an exception before the `POST` is not of a class
that counts as uncertain, the artifact is still there and ready when it is read, and after the
`POST` an exception does count as uncertain and a status is one of those of HTTP. -/
def Covered : AttemptEvent → Prop
  | ⟨.getPart _ _, .error (some error)⟩ => classifyDeliveryError error ≠ .uncertain
  | ⟨.openSender _, .error error⟩ => error ≠ .uncertain
  | ⟨.getArtifact _, .error error⟩ => classifyDeliveryError error ≠ .uncertain
  | ⟨.requiredArtifact _, .error error⟩ => classifyDeliveryError error ≠ .uncertain
  | ⟨.requiredArtifact _, .ok none⟩ => False
  | ⟨.requiredArtifact _, .ok (some artifact)⟩ => artifact.status = .ready
  | ⟨.readFile _, .error (.other error)⟩ => classifyDeliveryError error ≠ .uncertain
  | ⟨.getAuthStatus, .error (.other error)⟩ => classifyDeliveryError error ≠ .uncertain
  | ⟨.post _, .error (.other error)⟩ => classifyDeliveryError error = .uncertain
  | ⟨.post _, .ok response⟩ => response.statusCode < 600
  | _ => True

/-! ## From records to classes -/

section Record

variable (worker : Worker) (attempt : DeliveryAttempt) (error : DeliveryException)
  (maxAttempts : ℕ) (availableAt now : Timestamp)

lemma recordsUncertain_failureCall :
    RecordsUncertain (failureCall worker attempt error maxAttempts availableAt now) ↔
      classifyDeliveryError error = .uncertain := by
  unfold failureCall
  split
  · split <;> simp_all [RecordsUncertain]
  · simp_all [RecordsUncertain]
  · simp_all [RecordsUncertain]

lemma recordsOther_failureCall :
    (¬ RecordsRetryable (failureCall worker attempt error maxAttempts availableAt now) ∧
      ¬ RecordsFailed (failureCall worker attempt error maxAttempts availableAt now)) ↔
      classifyDeliveryError error = .uncertain := by
  unfold failureCall
  split
  · split <;> simp_all [RecordsRetryable, RecordsFailed]
  · simp_all [RecordsRetryable, RecordsFailed]
  · simp_all [RecordsRetryable, RecordsFailed]

end Record

/-- An exception that does not count as uncertain. -/
def Certain (error : DeliveryException) : Prop := classifyDeliveryError error ≠ .uncertain

instance : DecidablePred Certain := fun error =>
  inferInstanceAs (Decidable (classifyDeliveryError error ≠ .uncertain))

/-- What the class of an exception should be after these events. -/
def ExactlyClassified (events : List AttemptEvent) (error : DeliveryException) : Prop :=
  (classifyDeliveryError error = .uncertain → ∃ event ∈ events, IsPost event) ∧
    ((∃ event ∈ events, Unsettled event) → classifyDeliveryError error = .uncertain)

/-- It is what it should be if and only if every reply is covered. -/
def Judged (events : List AttemptEvent) (error : DeliveryException) : Prop :=
  ExactlyClassified events error ↔ ∀ event ∈ events, Covered event

/-- A covered reply to something else than a `POST`. -/
def Clean (event : AttemptEvent) : Prop := ¬ IsPost event ∧ Covered event

variable {event : AttemptEvent} {first second events : List AttemptEvent}
  {error : DeliveryException} {α β : Type}

lemma Unsettled.isPost (h : Unsettled event) : IsPost event := by
  obtain ⟨request, reply⟩ := event
  cases request <;> first | exact h.elim | trivial

/-- Clean events in front change nothing. -/
lemma Judged.append (hclean : ∀ event ∈ first, Clean event) (h : Judged second error) :
    Judged (first ++ second) error := by
  have hpost : ∀ {P : AttemptEvent → Prop}, (∀ event, P event → IsPost event) →
      ((∃ event ∈ first ++ second, P event) ↔ ∃ event ∈ second, P event) := by
    intro P hP
    constructor
    · rintro ⟨event, hmem, hevent⟩
      rcases List.mem_append.mp hmem with hmem | hmem
      · exact absurd (hP event hevent) (hclean event hmem).1
      · exact ⟨event, hmem, hevent⟩
    · rintro ⟨event, hmem, hevent⟩
      exact ⟨event, List.mem_append_right _ hmem, hevent⟩
  have hcovered : (∀ event ∈ first ++ second, Covered event) ↔
      ∀ event ∈ second, Covered event := by
    rw [List.forall_mem_append]
    exact and_iff_right fun event hmem => (hclean event hmem).2
  unfold Judged ExactlyClassified
  rw [hpost fun _ h => h, hpost fun _ h => h.isPost, hcovered]
  exact h

/-- Before any `POST` the only question is whether the exception counts as uncertain. -/
lemma judged_of_not_post (hpost : ¬ IsPost event) :
    Judged [event] error ↔ (Certain error ↔ Covered event) := by
  have hunsettled : ¬ Unsettled event := fun h => hpost h.isPost
  simp [Judged, ExactlyClassified, Certain, hpost, hunsettled]

lemma judged_nil (h : Certain error) : Judged [] error := by
  simp [Judged, ExactlyClassified, show classifyDeliveryError error ≠ .uncertain from h]

/-! ## Programs -/

/-- The exceptions of the program are judged. -/
def Judges (p : Attempt α) : Prop :=
  ∀ events error, Returns p events (.error error) → Judged events error

/-- What the program has done when it goes on, is clean. -/
def StaysClean (p : Attempt α) : Prop :=
  ∀ events a, Returns p events (.ok a) → ∀ event ∈ events, Clean event

variable {p : Attempt α} {f : α → Attempt β} {artifact : Artifact} {message : Message}
  {result : Except DeliveryException α}

lemma Judges.bindOk (hp : Judges p) (hclean : StaysClean p) (hf : ∀ a, Judges (f a)) :
    Judges (p.bindOk f) := by
  intro events error h
  rcases returns_bindOk_error.mp h with h | ⟨first, a, second, rfl, hfirst, hsecond⟩
  · exact hp events error h
  · exact (hf a second error hsecond).append (hclean first a hfirst)

lemma StaysClean.bindOk (hp : StaysClean p) (hf : ∀ a, StaysClean (f a)) :
    StaysClean (p.bindOk f) := by
  intro events b h
  obtain ⟨first, a, second, rfl, hfirst, hsecond⟩ := returns_bindOk_ok.mp h
  rw [List.forall_mem_append]
  exact ⟨hp first a hfirst, hf a second b hsecond⟩

/-- A check of values the program already has. -/
lemma judges_done (h : RaisesOnly Certain result) : Judges (.done result) := by
  intro events error hreturns
  obtain ⟨rfl, hresult⟩ := returns_done.mp hreturns
  exact judged_nil (h error hresult)

lemma staysClean_done (result : Except DeliveryException α) :
    StaysClean (.done result : Attempt α) := by
  intro events a hreturns
  obtain ⟨rfl, -⟩ := returns_done.mp hreturns
  exact fun event hmem => absurd hmem List.not_mem_nil

lemma returns_ask {request : Request} {handle : Reply request → Except DeliveryException α} :
    Returns (ask request handle) events result ↔
      ∃ reply, events = [⟨request, reply⟩] ∧ handle reply = result := by
  simp only [ask, returns_call, returns_done]
  constructor
  · rintro ⟨reply, rest, rfl, rfl, h⟩
    exact ⟨reply, rfl, h⟩
  · rintro ⟨reply, rfl, h⟩
    exact ⟨reply, [], rfl, rfl, h⟩

section Ask

variable {request : Request} {handle : Reply request → Except DeliveryException α}

lemma judges_ask
    (h : ∀ reply error, handle reply = .error error → Judged [⟨request, reply⟩] error) :
    Judges (ask request handle) := by
  intro events error hreturns
  obtain ⟨reply, rfl, hhandle⟩ := returns_ask.mp hreturns
  exact h reply error hhandle

lemma staysClean_ask (h : ∀ reply a, handle reply = .ok a → Clean ⟨request, reply⟩) :
    StaysClean (ask request handle) := by
  intro events a hreturns
  obtain ⟨reply, rfl, hhandle⟩ := returns_ask.mp hreturns
  intro event hmem
  cases List.mem_singleton.mp hmem
  exact h reply a hhandle

end Ask

/-! ## Checks -/

lemma certain_invalid : Certain invalid := by
  decide

lemma raisesOnly_requiredString (value : String) : RaisesOnly Certain (requiredString value) :=
  (raisesOnly_raiseIf certain_invalid).bind fun _ _ => raisesOnly_ok _

lemma raisesOnly_textMessage (conversationId content : String) :
    RaisesOnly Certain (textMessage conversationId content) :=
  (raisesOnly_requiredString _).bind fun _ _ =>
    (raisesOnly_raiseIf certain_invalid).bind fun _ _ => raisesOnly_ok _

lemma raisesOnly_mimeType (unicode : Unicode) (value : String) :
    RaisesOnly Certain (unicode.mimeType value) :=
  (raisesOnly_raiseIf certain_invalid).bind fun _ _ =>
    (raisesOnly_raiseIf certain_invalid).bind fun _ _ => raisesOnly_ok _

lemma raisesOnly_filename (unicode : Unicode) (value : String) :
    RaisesOnly Certain (unicode.filename value) :=
  (raisesOnly_raiseIf certain_invalid).bind fun _ _ =>
    (raisesOnly_raiseIf certain_invalid).bind fun _ _ =>
      (raisesOnly_raiseIf certain_invalid).bind fun _ _ => raisesOnly_ok _

lemma raisesOnly_validateFileMime (unicode : Unicode) (filename mimeType : String) :
    RaisesOnly Certain (unicode.validateFileMime filename mimeType) := by
  unfold Unicode.validateFileMime
  split
  · exact raisesOnly_raiseIf certain_invalid
  · exact raisesOnly_raiseIf certain_invalid

lemma raisesOnly_mediaData (maxBytes : ℕ) (data : List UInt8) :
    RaisesOnly Certain (mediaData maxBytes data) :=
  (raisesOnly_raiseIf certain_invalid).bind fun _ _ =>
    (raisesOnly_raiseIf certain_invalid).bind fun _ _ => raisesOnly_ok _

lemma raisesOnly_mediaMessage (unicode : Unicode) (maxBytes : ℕ) (conversationId : String)
    (mediaType : WechatMediaType) (data : List UInt8) (mimeType : String)
    (filename : Option String) :
    RaisesOnly Certain
      (unicode.mediaMessage maxBytes conversationId mediaType data mimeType filename) := by
  refine (raisesOnly_requiredString _).bind fun chatId _ => ?_
  refine (raisesOnly_mimeType _ _).bind fun mimeType _ => ?_
  cases mediaType with
  | image =>
    refine (raisesOnly_raiseIf certain_invalid).bind fun _ _ => ?_
    refine (raisesOnly_raiseIf certain_invalid).bind fun _ _ => ?_
    refine (raisesOnly_mediaData _ _).bind fun data _ => ?_
    exact (raisesOnly_raiseIf certain_invalid).bind fun _ _ => raisesOnly_ok _
  | file =>
    cases filename with
    | none => exact raisesOnly_error certain_invalid
    | some filename =>
      refine (raisesOnly_filename _ _).bind fun filename _ => ?_
      refine (raisesOnly_validateFileMime _ _ _).bind fun _ _ => ?_
      exact (raisesOnly_mediaData _ _).bind fun data _ => raisesOnly_ok _

lemma raisesOnly_artifactMessage (unicode : Unicode) (sender : Sender)
    (delivery : DeliveryOutboxRecord) (artifact : Artifact) (content : List UInt8) :
    RaisesOnly Certain (artifactMessage unicode sender delivery artifact content) := by
  unfold artifactMessage
  split
  · exact raisesOnly_error (by decide)
  · exact raisesOnly_mediaMessage _ _ _ _ _ _ _

/-! ## The parts of an attempt -/

lemma judges_getPart (responseId : String) (ordinal : ℕ) :
    Judges (ask (.getPart responseId ordinal) partFound) := by
  refine judges_ask fun reply error h => ?_
  rw [judged_of_not_post id]
  match reply with
  | .error none | .ok none =>
    cases h
    exact iff_of_true (by decide) trivial
  | .error (some raised) =>
    cases h
    exact Iff.rfl
  | .ok (some part) => cases h

lemma staysClean_getPart (responseId : String) (ordinal : ℕ) :
    StaysClean (ask (.getPart responseId ordinal) partFound) := by
  refine staysClean_ask fun reply part h => ⟨id, ?_⟩
  match reply with
  | .ok (some part) => trivial

/-- Of the errors of the sender factory only one is let through as uncertain. -/
lemma classify_senderFailure :
    classifyDeliveryError (senderFailure error) ≠ .uncertain ↔ error ≠ .uncertain := by
  cases error <;> simp [senderFailure, classifyDeliveryError]

lemma raisesOnly_senderFor (accountId : String) (maxMediaBytes : Option ℕ) :
    RaisesOnly Certain (senderFor accountId (.ok maxMediaBytes)) := by
  refine RaisesOnly.bind ?_ fun sender _ =>
    (raisesOnly_raiseIf (by decide)).bind fun _ _ => raisesOnly_ok sender
  intro error h
  by_cases hblank : IsBlank accountId
  · simp only [newSender, requiredString, raiseIf, if_pos hblank] at h
    cases h
    decide
  · simp only [newSender, requiredString, raiseIf, if_neg hblank] at h
    cases h

lemma judges_openSender (accountId : String) (sender : Option Sender) :
    Judges (openSender accountId sender) := by
  cases sender with
  | some sender => exact judges_done (raisesOnly_ok sender)
  | none =>
    refine judges_ask fun reply error h => ?_
    rw [judged_of_not_post id]
    cases reply with
    | ok maxMediaBytes => exact iff_of_true (raisesOnly_senderFor _ _ error h) trivial
    | error raised =>
      cases h
      exact classify_senderFailure

lemma staysClean_openSender (accountId : String) (sender : Option Sender) :
    StaysClean (openSender accountId sender) := by
  cases sender with
  | some sender => exact staysClean_done _
  | none =>
    refine staysClean_ask fun reply sender h => ⟨id, ?_⟩
    cases reply with
    | ok maxMediaBytes => trivial
    | error raised => cases h

lemma judges_auth (accountId : String) :
    Judges (ask .getAuthStatus (accountVerified accountId)) := by
  refine judges_ask fun reply error h => ?_
  rw [judged_of_not_post id]
  match reply with
  | .error .adapter =>
    cases h
    exact iff_of_true (by decide) trivial
  | .error (.other raised) =>
    cases h
    exact Iff.rfl
  | .ok auth =>
    refine iff_of_true ?_ trivial
    simp only [accountVerified] at h
    split at h
    · cases h
      decide
    · exact raisesOnly_raiseIf (P := Certain) (by decide) error h

lemma staysClean_auth (accountId : String) :
    StaysClean (ask .getAuthStatus (accountVerified accountId)) := by
  refine staysClean_ask fun reply sender h => ⟨id, ?_⟩
  match reply with
  | .error .adapter => cases h
  | .error (.other raised) => cases h
  | .ok auth => trivial

/-- After the `POST` the exception has to count as uncertain if the `POST` is unsettled. -/
lemma judged_post {reply : Reply (.post message)} :
    Judged [⟨.post message, reply⟩] error ↔
      ((Unsettled ⟨.post message, reply⟩ → classifyDeliveryError error = .uncertain) ↔
        Covered ⟨.post message, reply⟩) := by
  have hpost : IsPost ⟨.post message, reply⟩ := trivial
  simp [Judged, ExactlyClassified, hpost]

/-- The exceptions that a response leads to. -/
lemma judged_receipt {response : HttpResponse} (h : response.receipt = .error error) :
    Judged [⟨.post message, .ok response⟩] error := by
  rw [judged_post]
  unfold HttpResponse.receipt at h
  by_cases hstatus : 200 ≤ response.statusCode ∧ response.statusCode < 300
  · -- a 2xx that has raised counts as uncertain, whatever its body is
    rw [if_neg (not_not.mpr hstatus)] at h
    refine iff_of_true (fun _ => ?_) (show response.statusCode < 600 by omega)
    split_ifs at h
    · cases h
      rfl
    · split at h
      · cases h
        rfl
      · cases h
        rfl
      · split at h
        · cases h
        · cases h
          rfl
  · rw [if_pos hstatus] at h
    cases h
    have hunsettled : Unsettled ⟨.post message, .ok response⟩ ↔ 500 ≤ response.statusCode := by
      refine or_iff_left ?_
      rintro ⟨hlow, hhigh, -⟩
      exact hstatus ⟨hlow, hhigh⟩
    rw [hunsettled]
    show _ ↔ response.statusCode < 600
    simp only [classifyDeliveryError]
    split_ifs with hlimit hserver
    · simp only [imp_false]
      omega
    · simp only [implies_true, true_iff]
      omega
    · simp only [imp_false]
      omega

lemma judges_post (message : Message) : Judges (ask (.post message) posted) := by
  refine judges_ask fun reply error h => ?_
  match reply with
  | .error .timeout =>
    cases h
    exact judged_post.mpr (iff_of_true (fun _ => rfl) trivial)
  | .error .request =>
    cases h
    exact judged_post.mpr (iff_of_true (fun _ => rfl) trivial)
  | .error (.other raised) =>
    cases h
    exact judged_post.mpr (true_imp_iff)
  | .ok response => exact judged_receipt h

lemma judges_send (sender : Sender) (message : Message) : Judges (send sender message) :=
  (judges_auth _).bindOk (staysClean_auth _) fun _ => judges_post message

/-! ### Artifacts -/

lemma judges_getArtifact (artifactId responseId : String) :
    Judges (ask (.getArtifact artifactId) (artifactAvailable responseId)) := by
  refine judges_ask fun reply error h => ?_
  rw [judged_of_not_post id]
  match reply with
  | .error raised =>
    cases h
    exact Iff.rfl
  | .ok none =>
    cases h
    exact iff_of_true (by decide) trivial
  | .ok (some artifact) =>
    refine iff_of_true (RaisesOnly.bind (P := Certain) ?_ (fun _ _ => ?_) error h) trivial
    · exact raisesOnly_raiseIf (by decide)
    · exact (raisesOnly_raiseIf (by decide)).bind fun _ _ =>
        (raisesOnly_raiseIf (by decide)).bind fun _ _ => raisesOnly_ok artifact

lemma staysClean_getArtifact (artifactId responseId : String) :
    StaysClean (ask (.getArtifact artifactId) (artifactAvailable responseId)) := by
  refine staysClean_ask fun reply artifact h => ⟨id, ?_⟩
  match reply with
  | .error raised => cases h
  | .ok none => cases h
  | .ok (some artifact) => trivial

lemma artifactReady_of_ready (h : artifact.status = .ready) :
    artifactReady (.ok (some artifact)) = .ok artifact := by
  simp only [artifactReady, Artifact.requireStatus, raiseIf, h, ne_eq, not_true_eq_false, if_false]
  rfl

lemma artifactReady_of_not_ready (h : artifact.status ≠ .ready) :
    artifactReady (.ok (some artifact)) = .error (readFailure (.state artifact.status)) := by
  simp only [artifactReady, Artifact.requireStatus, raiseIf, if_pos h]
  rfl

lemma judges_requiredArtifact (artifactId : String) :
    Judges (ask (.requiredArtifact artifactId) artifactReady) := by
  refine judges_ask fun reply error h => ?_
  rw [judged_of_not_post id]
  match reply with
  | .error raised =>
    cases h
    exact Iff.rfl
  | .ok none =>
    cases h
    exact iff_of_false (by decide) id
  | .ok (some artifact) =>
    by_cases hready : artifact.status = .ready
    · rw [artifactReady_of_ready hready] at h
      cases h
    · rw [artifactReady_of_not_ready hready] at h
      cases h
      exact iff_of_false (fun hne => hne rfl) hready

lemma staysClean_requiredArtifact (artifactId : String) :
    StaysClean (ask (.requiredArtifact artifactId) artifactReady) := by
  refine staysClean_ask fun reply ready h => ⟨id, ?_⟩
  match reply with
  | .error raised => cases h
  | .ok none => cases h
  | .ok (some artifact) =>
    by_contra hready
    rw [artifactReady_of_not_ready hready] at h
    cases h

/-- An error of `read` that the worker turns into one that does not count as uncertain. -/
def CertainRead (error : ArtifactError) : Prop := Certain (readFailure error)

instance : DecidablePred CertainRead := fun error =>
  inferInstanceAs (Decidable (Certain (readFailure error)))

lemma raisesOnly_artifactId (artifactId : String) :
    RaisesOnly CertainRead (Artifacts.requiredString 36 artifactId) :=
  (raisesOnly_raiseIf (by decide)).bind fun _ _ =>
    (raisesOnly_raiseIf (by decide)).bind fun _ _ =>
      (raisesOnly_raiseIf (by decide)).bind fun _ _ => raisesOnly_ok _

lemma raisesOnly_contentOf (artifact : Artifact) :
    RaisesOnly CertainRead (contentOf artifact) := by
  refine RaisesOnly.bind ?_ fun metadata _ => RaisesOnly.bind ?_ fun path _ => raisesOnly_ok _
  · unfold Artifact.metadata
    split
    · exact raisesOnly_ok _
    · exact raisesOnly_error (by decide)
  · exact (raisesOnly_raiseIf (by decide)).bind fun _ _ =>
      (raisesOnly_raiseIf (by decide)).bind fun _ _ => raisesOnly_ok _

lemma raisesOnly_content (repository : Repository) (metadata : ℕ × String) (file : List UInt8) :
    RaisesOnly CertainRead (repository.limit file >>= repository.verify metadata) := by
  refine RaisesOnly.bind ?_ fun content _ => ?_
  · exact (raisesOnly_raiseIf (by decide)).bind fun _ _ => raisesOnly_ok _
  · exact (raisesOnly_raiseIf (by decide)).bind fun _ _ =>
      (raisesOnly_raiseIf (by decide)).bind fun _ _ => raisesOnly_ok _

lemma judges_readFile (repository : Repository) (metadata : ℕ × String) (path : List String) :
    Judges (ask (.readFile path) (contentRead repository metadata)) := by
  refine judges_ask fun reply error h => ?_
  rw [judged_of_not_post id]
  match reply with
  | .error .outside =>
    cases h
    exact iff_of_true (by decide) trivial
  | .error .unreadable =>
    cases h
    exact iff_of_true (by decide) trivial
  | .error (.other raised) =>
    cases h
    exact Iff.rfl
  | .ok file =>
    have hcertain : RaisesOnly Certain (contentRead repository metadata (.ok file)) :=
      (raisesOnly_content repository metadata file).mapError fun _ h => h
    exact iff_of_true (hcertain error h) trivial

lemma staysClean_readFile (repository : Repository) (metadata : ℕ × String)
    (path : List String) : StaysClean (ask (.readFile path) (contentRead repository metadata)) := by
  refine staysClean_ask fun reply content h => ⟨id, ?_⟩
  match reply with
  | .error .outside => cases h
  | .error .unreadable => cases h
  | .error (.other raised) => cases h
  | .ok file => trivial

lemma judges_read (repository : Repository) (artifactId : String) :
    Judges (read repository artifactId) := by
  refine Judges.bindOk ?_ (staysClean_done _) fun artifactId => ?_
  · exact judges_done ((raisesOnly_artifactId artifactId).mapError fun _ h => h)
  refine (judges_requiredArtifact artifactId).bindOk (staysClean_requiredArtifact _) ?_
  intro artifact
  refine Judges.bindOk ?_ (staysClean_done _) fun content => judges_readFile _ _ _
  exact judges_done ((raisesOnly_contentOf artifact).mapError fun _ h => h)

lemma staysClean_read (repository : Repository) (artifactId : String) :
    StaysClean (read repository artifactId) :=
  (staysClean_done _).bindOk fun artifactId =>
    (staysClean_requiredArtifact artifactId).bindOk fun _ =>
      (staysClean_done _).bindOk fun _ => staysClean_readFile _ _ _

/-! ## The attempt -/

lemma judges_permanent : Judges (.done (.error .permanent) : Attempt α) :=
  judges_done (raisesOnly_error (by decide))

lemma judges_deliverArtifact (setup : Setup) (delivery : DeliveryOutboxRecord)
    (artifactId : String) (sender : Sender) :
    Judges (deliverArtifact setup delivery artifactId sender) := by
  unfold deliverArtifact
  split
  · exact judges_permanent
  · refine (judges_getArtifact _ _).bindOk (staysClean_getArtifact _ _) fun artifact => ?_
    refine (judges_read _ _).bindOk (staysClean_read _ _) fun content => ?_
    refine Judges.bindOk ?_ (staysClean_done _) fun message => judges_send sender message
    exact judges_done (raisesOnly_artifactMessage _ _ _ _ _)

lemma judges_deliverPart (setup : Setup) (delivery : DeliveryOutboxRecord)
    (part : Response.ResponsePartRecord) (sender : Sender) :
    Judges (deliverPart setup delivery part sender) := by
  unfold deliverPart
  split
  · split
    · exact judges_permanent
    · refine Judges.bindOk ?_ (staysClean_done _) fun message => judges_send sender message
      exact judges_done (raisesOnly_textMessage _ _)
  · split
    · exact judges_permanent
    · exact judges_deliverArtifact _ _ _ _

lemma judges_attemptPart (setup : Setup) (delivery : DeliveryOutboxRecord)
    (sender : Option Sender) : Judges (attemptPart setup delivery sender) := by
  refine (judges_getPart _ _).bindOk (staysClean_getPart _ _) fun part => ?_
  refine (judges_openSender _ _).bindOk (staysClean_openSender _ _) fun sender => ?_
  -- nothing is raised once the part is delivered
  intro events error h
  rcases returns_bindOk_error.mp h with h | ⟨first, receipt, second, rfl, -, h⟩
  · exact judges_deliverPart setup delivery part sender events error h
  · cases (returns_done.mp h).2

/-- Uncertain means posted, and unsettled means uncertain, in exactly the attempts whose replies
are all covered. -/
theorem exactlyRecorded_iff_covered (setup : Setup) (delivery : DeliveryOutboxRecord)
    (sender : Option Sender) (worker : Worker) (attempt : DeliveryAttempt) (maxAttempts : ℕ)
    (availableAt now : Timestamp) {events : List AttemptEvent} {error : DeliveryException}
    (h : Returns (attemptPart setup delivery sender) events (.error error)) :
    ExactlyRecorded events (failureCall worker attempt error maxAttempts availableAt now) ↔
      ∀ event ∈ events, Covered event := by
  have hjudged : ExactlyClassified events error ↔ ∀ event ∈ events, Covered event :=
    judges_attemptPart setup delivery sender events error h
  rw [← hjudged, ExactlyRecorded, recordsUncertain_failureCall, recordsOther_failureCall,
    ExactlyClassified]

/-! ### An artifact that expires between its lookup and its read -/

section Example

/-- A claimed delivery of a response. -/
def claimedDelivery : DeliveryOutboxRecord :=
  { Response.newDelivery 1 "response" "key" ⟨"wechat", "account", "chat"⟩ "target" 0 with
    status := .delivering }

/-- An image that is ready. -/
def readyArtifact : Artifact where
  artifactId := "artifact"
  responseId := "response"
  kind := .image
  filename := "image.png"
  mimeType := "image/png"
  size := some 8
  sha256 := some "digest"
  storageKey := "objects/ar/artifact"
  status := .ready

/-- A worker with an artifact repository. -/
def mediaSetup : Setup where
  unicode := ⟨id, id, fun _ => "Ll"⟩
  repository := some ⟨100, fun _ => "digest"⟩

def artifactPart : Response.ResponsePartRecord :=
  Response.partRecord "response" 0 (.artifactRef "artifact")

/-- The artifact was ready when the worker looked it up and has expired when it is read. -/
def expiringEvents : List AttemptEvent :=
  [⟨.getPart "response" 0, .ok (some artifactPart)⟩,
    ⟨.openSender "account", .ok (some 100)⟩,
    ⟨.getArtifact "artifact", .ok (some readyArtifact)⟩,
    ⟨.requiredArtifact "artifact", .ok (some { readyArtifact with status := .expired })⟩]

def deliveryWorker : Worker := ⟨1, "token", .gone⟩

def firstAttempt : DeliveryAttempt where
  id := 1
  deliveryId := 1
  partOrdinal := 0
  attemptNumber := 1
  providerIdempotencyKey := "attempt"
  status := .delivering
  providerMessageId := none
  receiptPayload := none
  errorCode := none
  completedAt := none

/-- An attempt that never got near a `POST` is recorded as uncertain: `read` raises an
`ArtifactStateError`, which none of the `except` clauses around it names. -/
theorem expired_artifact_recorded_uncertain :
    Returns (attemptPart mediaSetup claimedDelivery none) expiringEvents
      (.error (readFailure (.state .expired))) ∧
    RecordsUncertain (failureCall deliveryWorker firstAttempt (readFailure (.state .expired)) 3 0 0) ∧
    ∀ event ∈ expiringEvents, ¬ IsPost event := by
  refine ⟨Runs.call (Runs.call (Runs.call (Runs.call (Runs.refl _)))), trivial, ?_⟩
  simp [expiringEvents, IsPost]

/-- A text whose `POST` times out. -/
def timedOutEvents : List AttemptEvent :=
  [⟨.getPart "response" 0, .ok (some (Response.partRecord "response" 0 (.text "hello")))⟩,
    ⟨.openSender "account", .ok none⟩,
    ⟨.getAuthStatus, .ok ⟨"logged_in", some "account"⟩⟩,
    ⟨.post (.text "chat" "hello"), .error .timeout⟩]

/-- A text whose `POST` times out is recorded as it should be. -/
theorem exactlyRecorded_timedOut :
    (∀ event ∈ timedOutEvents, Covered event) ∧
    ExactlyRecorded timedOutEvents
      (failureCall deliveryWorker firstAttempt .timeoutError 3 0 0) := by
  have hcovered : ∀ event ∈ timedOutEvents, Covered event := by
    simp [timedOutEvents, Covered]
  refine ⟨hcovered, (exactlyRecorded_iff_covered mediaSetup claimedDelivery none deliveryWorker
    firstAttempt 3 0 0 ?_).mpr hcovered⟩
  exact Runs.call (Runs.call (Runs.call (Runs.call (Runs.refl _))))

end Example

end AgentGateway.Delivery.Channel
