import AgentGateway.Lib.Python

/-!
# The WeChat sync checkpoint store

The row `WechatSyncCheckpointStore` keeps for one `(source_account_id, conversation_id)` pair.
Every write but the first is a compare-and-swap: an `UPDATE` whose `WHERE` clause names the whole
row the caller has read. A store method is therefore modelled in two parts, as the source has it:
the validation that either raises or builds the statement, and the statement itself.

* `initializeCheckpoint`: argument validation, down to the row to create,
* `advanceCas`, `enrollAnchor`, `rewind`, `rebaseLatestAfterRegression`,
  `beginLiveSuffixAfterEmptyWindow`: argument validation, down to a `CasStatement`,
* `applyCas`: the guarded `UPDATE`.

The result of the file is that every statement goes up: on the row it expects, it increases the
lexicographic order of generation, local id and presence of a fingerprint.
-/

namespace AgentGateway.Polling
namespace Checkpoint

open Lib

/-! ## The row and its validation -/

/-- `MAX_CHECKPOINT_LOCAL_ID`, the largest signed 64-bit value. -/
def maxCheckpointLocalId : Int := 2 ^ 63 - 1

/-- `CHECKPOINT_FINGERPRINT_LENGTH`. -/
def checkpointFingerprintLength : ℕ := 64

/-- The columns of a checkpoint row that the store compares or writes. -/
structure WechatSyncCheckpoint where
  lastLocalId : Int
  regressionGeneration : Int
  lastMessageFingerprint : Option String
  deriving DecidableEq, Repr

/-- The errors the checkpoint store raises. -/
inductive WechatCheckpointError
  | notFound
  | value
  | generation
  | fingerprint
  deriving DecidableEq, Repr

/-- The stable `code` of each error class. -/
def WechatCheckpointError.code : WechatCheckpointError → String
  | notFound => "wechat_checkpoint_not_found"
  | value => "wechat_checkpoint_value_error"
  | generation => "wechat_checkpoint_generation_error"
  | fingerprint => "wechat_checkpoint_fingerprint_error"

/-- An integer in the non-negative `BigInteger` range, or the given error. -/
def validatedBigInteger (error : WechatCheckpointError) (value : PyValue) :
    Except WechatCheckpointError Int :=
  match value.asInt? with
  | none => .error error
  | some n => if 0 ≤ n ∧ n ≤ maxCheckpointLocalId then .ok n else .error error

/-- `_validated_checkpoint_local_id`. -/
def validatedCheckpointLocalId : PyValue → Except WechatCheckpointError Int :=
  validatedBigInteger .value

/-- `_validated_checkpoint_generation`. -/
def validatedCheckpointGeneration : PyValue → Except WechatCheckpointError Int :=
  validatedBigInteger .generation

/-- The digits of a lowercase SHA-256 digest. -/
def hexDigits : List Char := "0123456789abcdef".toList

/-- `_validated_checkpoint_fingerprint`: `None` or a lowercase SHA-256 digest. -/
def validatedCheckpointFingerprint : PyValue → Except WechatCheckpointError (Option String)
  | .none => .ok none
  | .str value =>
    if value.length = checkpointFingerprintLength ∧ ∀ c ∈ value.toList, c ∈ hexDigits then
      .ok (some value)
    else .error .fingerprint
  | _ => .error .fingerprint

/-! ## The compare-and-swap statements -/

/-- A guarded `UPDATE` of the row: the row it expects and the columns it sets. The generation is
only ever left alone or incremented in place. -/
structure CasStatement where
  expected : WechatSyncCheckpoint
  setLocalId : Option Int
  bumpGeneration : Bool
  setFingerprint : Option String
  deriving DecidableEq, Repr

/-- The row after the `SET` clause of the statement. -/
def CasStatement.values (st : CasStatement) (row : WechatSyncCheckpoint) :
    WechatSyncCheckpoint where
  lastLocalId := st.setLocalId.getD row.lastLocalId
  regressionGeneration := row.regressionGeneration + if st.bumpGeneration then 1 else 0
  lastMessageFingerprint := st.setFingerprint

/-- `advance_cas` up to its statement. No statement means that the requested id is not ahead of
the expected one and the row is only reloaded. -/
def advanceCas (expectedLastLocalId expectedGeneration expectedMessageFingerprint lastLocalId
    lastMessageFingerprint : PyValue) : Except WechatCheckpointError (Option CasStatement) := do
  let expectedLocalId ← validatedCheckpointLocalId expectedLastLocalId
  let generation ← validatedCheckpointGeneration expectedGeneration
  let lastLocalId ← validatedCheckpointLocalId lastLocalId
  let expectedFingerprint ← validatedCheckpointFingerprint expectedMessageFingerprint
  let fingerprint ← validatedCheckpointFingerprint lastMessageFingerprint
  if lastLocalId ≤ expectedLocalId then
    return none
  return some
    { expected := ⟨expectedLocalId, generation, expectedFingerprint⟩
      setLocalId := some lastLocalId
      bumpGeneration := false
      setFingerprint := fingerprint }

/-- `enroll_anchor` up to its statement. -/
def enrollAnchor (expectedLastLocalId expectedGeneration lastMessageFingerprint : PyValue) :
    Except WechatCheckpointError (Option CasStatement) := do
  let expectedLocalId ← validatedCheckpointLocalId expectedLastLocalId
  let generation ← validatedCheckpointGeneration expectedGeneration
  let fingerprint ← validatedCheckpointFingerprint lastMessageFingerprint
  raiseIf (expectedLocalId = 0 ∨ fingerprint = none) .fingerprint
  return some
    { expected := ⟨expectedLocalId, generation, none⟩
      setLocalId := none
      bumpGeneration := false
      setFingerprint := fingerprint }

/-- `rewind` up to its statement. -/
def rewind (expectedLastLocalId expectedGeneration expectedMessageFingerprint
    lastLocalId : PyValue) : Except WechatCheckpointError (Option CasStatement) := do
  let expectedLocalId ← validatedCheckpointLocalId expectedLastLocalId
  let generation ← validatedCheckpointGeneration expectedGeneration
  let expectedFingerprint ← validatedCheckpointFingerprint expectedMessageFingerprint
  let rewindLocalId ← validatedCheckpointLocalId lastLocalId
  raiseIf (generation = maxCheckpointLocalId) .generation
  raiseIf (expectedLocalId ≤ rewindLocalId) .value
  return some
    { expected := ⟨expectedLocalId, generation, expectedFingerprint⟩
      setLocalId := some rewindLocalId
      bumpGeneration := true
      setFingerprint := none }

/-- `rebase_latest_after_regression` up to its statement. -/
def rebaseLatestAfterRegression (expectedLastLocalId expectedGeneration
    expectedMessageFingerprint remoteLatestLocalId remoteLatestMessageFingerprint : PyValue) :
    Except WechatCheckpointError (Option CasStatement) := do
  let expectedLocalId ← validatedCheckpointLocalId expectedLastLocalId
  let generation ← validatedCheckpointGeneration expectedGeneration
  let latestLocalId ← validatedCheckpointLocalId remoteLatestLocalId
  let expectedFingerprint ← validatedCheckpointFingerprint expectedMessageFingerprint
  let latestFingerprint ← validatedCheckpointFingerprint remoteLatestMessageFingerprint
  raiseIf (generation = maxCheckpointLocalId) .generation
  raiseIf (latestLocalId = 0 ∨ latestFingerprint = none) .fingerprint
  return some
    { expected := ⟨expectedLocalId, generation, expectedFingerprint⟩
      setLocalId := some latestLocalId
      bumpGeneration := true
      setFingerprint := latestFingerprint }

/-- `begin_live_suffix_after_empty_window` up to its statement. -/
def beginLiveSuffixAfterEmptyWindow (expectedLastLocalId expectedGeneration
    expectedMessageFingerprint firstLiveLocalId baselineMessageFingerprint : PyValue) :
    Except WechatCheckpointError (Option CasStatement) := do
  let expectedLocalId ← validatedCheckpointLocalId expectedLastLocalId
  let generation ← validatedCheckpointGeneration expectedGeneration
  let liveLocalId ← validatedCheckpointLocalId firstLiveLocalId
  let expectedFingerprint ← validatedCheckpointFingerprint expectedMessageFingerprint
  let baselineFingerprint ← validatedCheckpointFingerprint baselineMessageFingerprint
  raiseIf (generation = maxCheckpointLocalId) .generation
  raiseIf (liveLocalId = 0) .value
  let baselineLocalId := liveLocalId - 1
  raiseIf (¬ (baselineLocalId = 0 ↔ baselineFingerprint = none)) .fingerprint
  return some
    { expected := ⟨expectedLocalId, generation, expectedFingerprint⟩
      setLocalId := some baselineLocalId
      bumpGeneration := true
      setFingerprint := baselineFingerprint }

/-! ## The row -/

/-- The row of one `(source_account_id, conversation_id)` pair, absent before `initialize`. -/
abbrev Row := Option WechatSyncCheckpoint

/-- The `UPDATE` of `_apply_cas`: the row after it and whether it matched (`rowcount == 1`). No
statement leaves the row alone. -/
def applyCas (row : Row) : Option CasStatement → Row × Bool
  | none => (row, false)
  | some st => if row = some st.expected then (row.map st.values, true) else (row, false)

/-- `initialize` up to the row it inserts. -/
def initializeCheckpoint (lastLocalId lastMessageFingerprint : PyValue) :
    Except WechatCheckpointError WechatSyncCheckpoint := do
  let lastLocalId ← validatedCheckpointLocalId lastLocalId
  let fingerprint ← validatedCheckpointFingerprint lastMessageFingerprint
  raiseIf (lastLocalId = 0 ∧ fingerprint ≠ none) .fingerprint
  return ⟨lastLocalId, 0, fingerprint⟩

/-! ## Every statement moves the row up -/

/-- The place of a row in the order of its writes: generation first, then local id, then
whether a fingerprint is present. -/
def position (row : WechatSyncCheckpoint) : Int ×ₗ Int ×ₗ Bool :=
  toLex (row.regressionGeneration, toLex (row.lastLocalId, row.lastMessageFingerprint.isSome))

/-- The place of the stored row, below every other while there is none. -/
def rowPosition (row : Row) : WithBot (Int ×ₗ Int ×ₗ Bool) := row.map position

lemma position_lt_iff {a b : WechatSyncCheckpoint} :
    position a < position b ↔
      a.regressionGeneration < b.regressionGeneration ∨
      a.regressionGeneration = b.regressionGeneration ∧
        (a.lastLocalId < b.lastLocalId ∨
          a.lastLocalId = b.lastLocalId ∧
            a.lastMessageFingerprint = none ∧ b.lastMessageFingerprint ≠ none) := by
  simp only [position, Prod.Lex.toLex_lt_toLex, Bool.lt_iff, Option.isSome_eq_false_iff,
    Option.isNone_iff_eq_none, Option.isSome_iff_ne_none]

/-- What a checkpoint row satisfies at all times. -/
structure WechatSyncCheckpoint.WellFormed (row : WechatSyncCheckpoint) : Prop where
  localId_nonneg : 0 ≤ row.lastLocalId
  localId_le : row.lastLocalId ≤ maxCheckpointLocalId
  generation_nonneg : 0 ≤ row.regressionGeneration
  generation_le : row.regressionGeneration ≤ maxCheckpointLocalId
  no_fingerprint_at_zero : row.lastLocalId = 0 → row.lastMessageFingerprint = none

/-- A statement is forward when, on the row it expects, it goes up and leaves a well-formed
row. -/
structure CasStatement.Forward (st : CasStatement) : Prop where
  up : position st.expected < position (st.values st.expected)
  wellFormed : (st.values st.expected).WellFormed

variable {n : Int} {value : PyValue}

lemma validatedBigInteger_eq_ok {error : WechatCheckpointError} :
    validatedBigInteger error value = .ok n ↔
      value = .int n ∧ 0 ≤ n ∧ n ≤ maxCheckpointLocalId := by
  cases value with
  | int m =>
    simp only [validatedBigInteger, PyValue.asInt?, PyValue.int.injEq]
    split_ifs with h
    · simp only [Except.ok.injEq]
      exact ⟨fun hm => hm ▸ ⟨rfl, h⟩, fun hm => hm.1⟩
    · simp only [false_iff, not_and]
      rintro rfl hn
      exact fun hle => h ⟨hn, hle⟩
  | _ => simp [validatedBigInteger, PyValue.asInt?]

lemma validatedCheckpointLocalId_eq_ok :
    validatedCheckpointLocalId value = .ok n ↔
      value = .int n ∧ 0 ≤ n ∧ n ≤ maxCheckpointLocalId :=
  validatedBigInteger_eq_ok

lemma validatedCheckpointGeneration_eq_ok :
    validatedCheckpointGeneration value = .ok n ↔
      value = .int n ∧ 0 ≤ n ∧ n ≤ maxCheckpointLocalId :=
  validatedBigInteger_eq_ok

/-- A statement that opens a new generation is forward, wherever it puts the cursor. -/
lemma forward_of_bump {expected : WechatSyncCheckpoint} {fp : Option String}
    (hg : 0 ≤ expected.regressionGeneration)
    (hg' : expected.regressionGeneration ≤ maxCheckpointLocalId)
    (hmax : expected.regressionGeneration ≠ maxCheckpointLocalId) (hn : 0 ≤ n)
    (hn' : n ≤ maxCheckpointLocalId) (hzero : n = 0 → fp = none) :
    CasStatement.Forward ⟨expected, some n, true, fp⟩ := by
  have hvalues : CasStatement.values ⟨expected, some n, true, fp⟩ expected =
      ⟨n, expected.regressionGeneration + 1, fp⟩ := rfl
  refine ⟨?_, ?_⟩ <;> rw [hvalues]
  · exact position_lt_iff.mpr (Or.inl (Int.lt_succ _))
  · exact ⟨hn, hn', by dsimp only; omega, by dsimp only; omega, hzero⟩

variable {expFp expId fp gen newId : PyValue} {st : CasStatement}

lemma advanceCas_forward (h : advanceCas expId gen expFp newId fp = .ok (some st)) :
    st.Forward := by
  simp only [advanceCas, bind_eq_ok, validatedCheckpointLocalId_eq_ok,
    validatedCheckpointGeneration_eq_ok] at h
  obtain ⟨e, ⟨-, he, -⟩, g, ⟨-, hg, hg'⟩, n, ⟨-, hn, hn'⟩, ef, -, f, -, h⟩ := h
  split_ifs at h with hle
  · cases h
  · cases h
    have hvalues : CasStatement.values ⟨⟨e, g, ef⟩, some n, false, f⟩ ⟨e, g, ef⟩ = ⟨n, g, f⟩ := by
      simp [CasStatement.values]
    refine ⟨?_, ?_⟩ <;> rw [hvalues]
    · exact position_lt_iff.mpr (Or.inr ⟨rfl, Or.inl (not_le.mp hle)⟩)
    · refine ⟨hn, hn', hg, hg', ?_⟩
      intro hzero
      dsimp only at hzero
      omega

lemma enrollAnchor_forward (h : enrollAnchor expId gen fp = .ok (some st)) : st.Forward := by
  simp only [enrollAnchor, bind_eq_ok, validatedCheckpointLocalId_eq_ok,
    validatedCheckpointGeneration_eq_ok, raiseIf_eq_ok] at h
  obtain ⟨e, ⟨-, he, he'⟩, g, ⟨-, hg, hg'⟩, f, -, -, hbad, h⟩ := h
  cases h
  rw [not_or] at hbad
  have hvalues : CasStatement.values ⟨⟨e, g, none⟩, none, false, f⟩ ⟨e, g, none⟩ = ⟨e, g, f⟩ := by
    simp [CasStatement.values]
  refine ⟨?_, ?_⟩ <;> rw [hvalues]
  · exact position_lt_iff.mpr (Or.inr ⟨rfl, Or.inr ⟨rfl, rfl, hbad.2⟩⟩)
  · exact ⟨he, he', hg, hg', fun hzero => absurd hzero hbad.1⟩

lemma rewind_forward (h : rewind expId gen expFp newId = .ok (some st)) : st.Forward := by
  simp only [rewind, bind_eq_ok, validatedCheckpointLocalId_eq_ok,
    validatedCheckpointGeneration_eq_ok, raiseIf_eq_ok] at h
  obtain ⟨e, -, g, ⟨-, hg, hg'⟩, ef, -, n, ⟨-, hn, hn'⟩, -, hmax, -, -, h⟩ := h
  cases h
  exact forward_of_bump hg hg' hmax hn hn' (fun _ => rfl)

lemma rebaseLatestAfterRegression_forward
    (h : rebaseLatestAfterRegression expId gen expFp newId fp = .ok (some st)) :
    st.Forward := by
  simp only [rebaseLatestAfterRegression, bind_eq_ok, validatedCheckpointLocalId_eq_ok,
    validatedCheckpointGeneration_eq_ok, raiseIf_eq_ok] at h
  obtain ⟨e, -, g, ⟨-, hg, hg'⟩, n, ⟨-, hn, hn'⟩, ef, -, f, -, -, hmax, -, hbad, h⟩ := h
  cases h
  rw [not_or] at hbad
  exact forward_of_bump hg hg' hmax hn hn' (fun hzero => absurd hzero hbad.1)

lemma beginLiveSuffixAfterEmptyWindow_forward
    (h : beginLiveSuffixAfterEmptyWindow expId gen expFp newId fp = .ok (some st)) :
    st.Forward := by
  simp only [beginLiveSuffixAfterEmptyWindow, bind_eq_ok, validatedCheckpointLocalId_eq_ok,
    validatedCheckpointGeneration_eq_ok, raiseIf_eq_ok] at h
  obtain ⟨e, -, g, ⟨-, hg, hg'⟩, n, ⟨-, hn, hn'⟩, ef, -, f, -, -, hmax, -, hlive, -, hbaseline, h⟩ := h
  cases h
  exact forward_of_bump hg hg' hmax (by omega) (by omega) (not_not.mp hbaseline).mp

/-- The row `initialize` inserts is well formed. -/
lemma initializeCheckpoint_wellFormed {created : WechatSyncCheckpoint}
    (h : initializeCheckpoint newId fp = .ok created) : created.WellFormed := by
  simp only [initializeCheckpoint, bind_eq_ok, validatedCheckpointLocalId_eq_ok,
    raiseIf_eq_ok] at h
  obtain ⟨n, ⟨-, hn, hn'⟩, f, -, -, hbad, h⟩ := h
  cases h
  refine ⟨hn, hn', le_rfl, hn.trans hn', fun hzero => ?_⟩
  by_contra hfingerprint
  exact hbad ⟨hzero, hfingerprint⟩

end Checkpoint
end AgentGateway.Polling
