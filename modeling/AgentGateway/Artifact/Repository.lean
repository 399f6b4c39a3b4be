import AgentGateway.Artifact.Models
import AgentGateway.Lib.Run

/-!
# The artifact repository

`mark_ready`, `mark_failed` and `expire` on one artifact, from any number of sessions. A call takes
one statement, commit or file operation after the other, with other calls in between. An `UPDATE`
holds the lock of the row until its transaction ends, and other sessions see the row as it was
before. Any operation may raise, before or after it has taken effect, except those that undo one
that has raised.

Staged and quarantined files have names of their own, so they are part of the call: a staged file
is the content that the call was given, a quarantined one is what the call holds.
-/

namespace AgentGateway.Artifacts

open Lib Lib.Run

/-! ## Keys -/

/-- `_storage_key`. -/
def storageKey (artifactId : String) : String :=
  "objects/" ++ String.ofList (artifactId.toList.take 2) ++ "/" ++ artifactId

/-- `_ready_storage_key`, given the hexadecimal form of the new `uuid4`. -/
def readyStorageKey (artifactId hex : String) : String := storageKey artifactId ++ "-" ++ hex

lemma readyStorageKey_inj {artifactId hex hex' : String} :
    readyStorageKey artifactId hex = readyStorageKey artifactId hex' ↔ hex = hex' := by
  unfold readyStorageKey
  rw [← String.toList_inj, ← String.toList_inj]
  simp only [String.toList_append, List.append_cancel_left_eq]

lemma readyStorageKey_ne (artifactId hex : String) :
    readyStorageKey artifactId hex ≠ storageKey artifactId := by
  intro h
  have hlength := congrArg (·.toList.length) h
  simp [readyStorageKey] at hlength

/-- The characters of a `uuid4`. -/
def UuidChar (c : Char) : Prop := c = '-' ∨ '0' ≤ c ∧ c ≤ '9' ∨ 'a' ≤ c ∧ c ≤ 'f'

instance : DecidablePred UuidChar := fun _ => inferInstanceAs (Decidable (_ ∨ _))

/-- A key that the repository has made passes its own check. -/
lemma storageKeyParts_readyStorageKey {artifactId hex : String} (hid : artifactId ≠ "")
    (hartifact : ∀ c ∈ artifactId.toList, UuidChar c) (hhex : ∀ c ∈ hex.toList, UuidChar c) :
    ∃ parts, storageKeyParts (readyStorageKey artifactId hex) = .ok parts := by
  set two := artifactId.toList.take 2 with htwo
  set name := artifactId.toList ++ '-' :: hex.toList with hname
  have htwoChars : ∀ c ∈ two, UuidChar c := fun c hc => hartifact c (List.mem_of_mem_take hc)
  have hnameChars : ∀ c ∈ name, UuidChar c := by
    simp only [hname, List.forall_mem_append, List.forall_mem_cons]
    exact ⟨hartifact, Or.inl rfl, hhex⟩
  have hlist : (readyStorageKey artifactId hex).toList =
      ['/'].intercalate ["objects".toList, two, name] := by
    simp [readyStorageKey, storageKey, List.intercalate, two, name]
  have hsplit : (readyStorageKey artifactId hex).toList.splitOn '/' =
      ["objects".toList, two, name] := by
    rw [hlist]
    refine List.splitOn_intercalate _ ?_ (by simp)
    have hno : ∀ l : List Char, (∀ c ∈ l, UuidChar c) → '/' ∉ l :=
      fun l hl hmem => absurd (hl _ hmem) (by decide)
    simp only [List.forall_mem_cons, List.not_mem_nil, false_implies, implies_true, and_true]
    exact ⟨by decide, hno _ htwoChars, hno _ hnameChars⟩
  have hchars : ∀ c ∈ (readyStorageKey artifactId hex).toList,
      UuidChar c ∨ c ∈ "objects/".toList := by
    simp only [readyStorageKey, storageKey, String.toList_append, String.toList_ofList,
      List.forall_mem_append]
    exact ⟨⟨⟨⟨⟨by decide, fun c hc => Or.inl (htwoChars c hc)⟩, by decide⟩,
      fun c hc => Or.inl (hartifact c hc)⟩, by decide⟩, fun c hc => Or.inl (hhex c hc)⟩
  -- a part is "objects" or a nonempty text of a `uuid4`, so it is none of the three special ones
  have hpart : ∀ l : List Char, l ≠ [] → (∀ c ∈ l, UuidChar c) →
      String.ofList l ≠ "" ∧ String.ofList l ≠ "." ∧ String.ofList l ≠ ".." := by
    intro l hl hc
    refine ⟨?_, ?_, ?_⟩ <;> intro h <;> have h := congrArg String.toList h <;>
      rw [String.toList_ofList] at h <;> subst h
    · exact hl rfl
    · exact absurd (hc '.' (by decide)) (by decide)
    · exact absurd (hc '.' (by decide)) (by decide)
  have hplain : ∀ part ∈ ["objects", String.ofList two, String.ofList name],
      part ≠ "" ∧ part ≠ "." ∧ part ≠ ".." := by
    simp only [List.forall_mem_cons, List.not_mem_nil, false_implies, implies_true, and_true]
    exact ⟨by decide, hpart two (by simpa [two] using hid) htwoChars,
      hpart name (by simp [name]) hnameChars⟩
  refine ⟨_, bind_eq_ok.mpr ⟨(), raiseIf_eq_ok.mpr ?_, bind_eq_ok.mpr ⟨(), raiseIf_eq_ok.mpr ?_,
    rfl⟩⟩⟩
  · rintro (h | h)
    · have h := congrArg String.length h
      simp [readyStorageKey, storageKey] at h
    · obtain ⟨c, hc, hbad⟩ := List.any_eq_true.mp h
      rcases of_decide_eq_true hbad with rfl | rfl | rfl <;>
        exact absurd (hchars _ hc) (by decide)
  · rw [hsplit]
    rintro (h | h | h)
    · exact (hplain _ h).1 rfl
    · exact (hplain _ h).2.1 rfl
    · exact (hplain _ h).2.2 rfl

/-! ## Calls -/

/-- A call on the artifact. A stream is the bytes it gives; expected values have been checked. -/
inductive Operation
  | markReady (content : List UInt8) (expectedSize : Option ℕ) (expectedSha256 : Option String)
  | markFailed
  | expire
  deriving DecidableEq, Repr

/-- How an operation ends: it is done, or it raises, and then it may have taken effect. -/
inductive Ending
  | done
  | raised (applied : Bool)
  deriving DecidableEq, Repr

/-- What a call does next. -/
inductive Phase
  | started
  -- `mark_ready`: the row was found, the content is staged, the row is written, the file is in its
  -- place; after a failure the file is taken away and the row is marked as failed
  | loaded
  | staged
  | written
  | published
  | withdrawn
  | marking
  -- the commit has raised, and the row did not show that it took effect
  | doubtful
  | unpublishing
  -- `expire`: the row was found with this key, it is written, its content is held; after a commit
  -- that raised the content is brought back
  | found (key : String)
  | expiring (key : String)
  | moved (key : String) (held : Option (List UInt8))
  | unexpired (key : String) (held : List UInt8)
  | restoring (key : String) (held : List UInt8)
  | erasing (key : String) (held : List UInt8)
  -- `mark_failed`
  | failing (key : String)
  | removing (key : String)
  | returned
  deriving DecidableEq, Repr

/-- Whether the next statement waits for the lock of the row. -/
def Phase.locks : Phase → Bool
  | .staged | .marking | .found _ | .unexpired .. | .failing _ => true
  | _ => false

/-- What the call has taken away and not erased. -/
def Phase.held? : Phase → Option (String × List UInt8)
  | .moved key (some held) | .unexpired key held | .restoring key held | .erasing key held =>
    some (key, held)
  | _ => none

/-- One artifact: its row, the call whose transaction has written the row and not ended, the files,
and the calls. -/
structure Shelf where
  row : Artifact
  lock : Option ℕ
  files : String → Option (List UInt8)
  phases : ℕ → Phase

/-- The calls that are made on an artifact. -/
structure Workload where
  repository : Repository
  artifactId : String
  operations : ℕ → Operation
  uuids : ℕ → String
  artifactId_ne : artifactId ≠ ""
  artifactId_char : ∀ c ∈ artifactId.toList, UuidChar c
  uuids_char : ∀ call, ∀ c ∈ (uuids call).toList, UuidChar c
  uuids_injective : Function.Injective uuids

/-- The row `create` commits. -/
def newArtifact (artifactId responseId : String) (kind : ArtifactKind)
    (filename mimeType : String) : Artifact :=
  ⟨artifactId, responseId, kind, filename, mimeType, none, none, storageKey artifactId, .created⟩

/-- `read`. -/
def Repository.read (repository : Repository) (row : Artifact)
    (files : String → Option (List UInt8)) : Except ArtifactError (List UInt8) := do
  row.requireStatus .ready
  let metadata ← row.metadata
  let _ ← storageKeyParts row.storageKey
  match files row.storageKey with
  | none => .error .storage
  | some file => do
    let content ← repository.limit file
    repository.verify metadata content

namespace Workload

variable (load : Workload)

/-- The storage key that a `mark_ready` publishes under. -/
def key (call : ℕ) : String := readyStorageKey load.artifactId (load.uuids call)

/-- The content that a `mark_ready` was given. -/
def content (call : ℕ) : List UInt8 :=
  match load.operations call with
  | .markReady content _ _ => content
  | _ => []

/-- The content passes the checks of `mark_ready`. -/
def Accepts (call : ℕ) : Prop :=
  match load.operations call with
  | .markReady content expectedSize expectedSha256 =>
    content.length ≤ load.repository.maxArtifactBytes ∧
    (∀ size ∈ expectedSize, content.length = size) ∧
    ∀ digest ∈ expectedSha256, load.repository.sha256 content = digest
  | _ => False

instance : DecidablePred load.Accepts := fun call => by
  unfold Accepts
  split <;> infer_instance

/-- The row that a `mark_ready` writes. -/
def readied (call : ℕ) (row : Artifact) : Artifact :=
  { row with size := some (load.content call).length
             sha256 := some (load.repository.sha256 (load.content call))
             storageKey := load.key call
             status := .ready }

/-- Nothing has been called yet. -/
def initial (responseId : String) (kind : ArtifactKind) (filename mimeType : String) : Shelf where
  row := newArtifact load.artifactId responseId kind filename mimeType
  lock := none
  files := fun _ => none
  phases := fun _ => .started

end Workload

namespace Shelf

/-- The call goes on. -/
def goto (shelf : Shelf) (call : ℕ) (phase : Phase) : Shelf :=
  { shelf with phases := Function.update shelf.phases call phase }

/-- An `UPDATE`, which holds the lock of the row. Others see its values from the commit on, and
until then the row does not change. -/
def write (shelf : Shelf) (call : ℕ) : Shelf := { shelf with lock := some call }

/-- The transaction ends and leaves the row as it was. -/
def rollback (shelf : Shelf) : Shelf := { shelf with lock := none }

/-- The transaction ends with this row. -/
def commit (shelf : Shelf) (row : Artifact) : Shelf := { shelf with row, lock := none }

/-- A file is put in its place, or removed. -/
def put (shelf : Shelf) (key : String) (file : Option (List UInt8)) : Shelf :=
  { shelf with files := Function.update shelf.files key file }

/-- The `UPDATE` of `_mark_failed_if_created`. -/
def failIfCreated (shelf : Shelf) : Shelf :=
  if shelf.row.status = .created then shelf.commit { shelf.row with status := .failed } else shelf

end Shelf

/-- Whether the operation has taken effect. -/
def Ending.applied : Ending → Bool
  | .done => true
  | .raised applied => applied

/-- The first statement of a call looks the row up. -/
def Operation.lookup (operation : Operation) (row : Artifact) : Phase :=
  match operation, row.status with
  | .markReady .., .created => .loaded
  | .markFailed, .created => .failing row.storageKey
  | .expire, .expired => .removing row.storageKey
  | .expire, _ => .found row.storageKey
  | _, _ => .returned

/-- The next operation of a call. -/
def Workload.next (load : Workload) (shelf : Shelf) (call : ℕ) (ending : Ending) : Shelf :=
  match shelf.phases call with
  | .started =>
    shelf.goto call (if ending = .done then (load.operations call).lookup shelf.row else .returned)
  | .loaded =>
    shelf.goto call (if ending = .done ∧ load.Accepts call then .staged else .marking)
  | .staged =>
    if ending = .done ∧ shelf.row.status = .created then
      (shelf.write call).goto call .written
    else shelf.goto call .returned
  | .written =>
    let shelf := if ending.applied then shelf.put (load.key call) (some (load.content call))
      else shelf
    if ending = .done then shelf.goto call .published else shelf.rollback.goto call .withdrawn
  | .withdrawn =>
    (if ending.applied then shelf.put (load.key call) none else shelf).goto call .marking
  | .marking => (if ending.applied then shelf.failIfCreated else shelf).goto call .returned
  | .published =>
    (if ending.applied then shelf.commit (load.readied call shelf.row)
      else shelf.rollback).goto call (if ending = .done then .returned else .doubtful)
  | .doubtful =>
    shelf.goto call (if ending = .done ∧
      ¬ (shelf.row.status = .ready ∧ shelf.row.storageKey = load.key call) then .unpublishing
      else .returned)
  | .unpublishing =>
    (if ending.applied then shelf.put (load.key call) none else shelf).goto call .returned
  | .found key =>
    if ending ≠ .done then shelf.goto call .returned
    else if shelf.row.status = .expired then shelf.goto call (.removing shelf.row.storageKey)
    else (shelf.write call).goto call (.expiring key)
  | .expiring key =>
    -- a file that was moved before the exception is moved back
    if ending = .done then (shelf.put key none).goto call (.moved key (shelf.files key))
    else shelf.rollback.goto call .returned
  | .moved key held =>
    (if ending.applied then shelf.commit { shelf.row with status := .expired }
      else shelf.rollback).goto call
        (match held with
        | none => .returned
        | some held => if ending = .done then .erasing key held else .unexpired key held)
  -- the two operations of `_recover_failed_expiration`
  | .unexpired key held =>
    if shelf.row.status = .expired then shelf.goto call .returned
    else (shelf.write call).goto call (.restoring key held)
  | .restoring key held => (shelf.put key (some held)).rollback.goto call .returned
  | .erasing key held =>
    (if ending.applied then shelf else shelf.put key (some held)).goto call .returned
  | .failing key =>
    (if ending.applied then shelf.failIfCreated else shelf).goto call
      (if ending = .done ∧ shelf.row.status = .created then .removing key else .returned)
  | .removing key =>
    (if ending.applied then shelf.put key none else shelf).goto call .returned
  | .returned => shelf

/-- An action of a call: its next operation, unless it waits for the lock. -/
def Workload.step (load : Workload) (shelf : Shelf) (action : ℕ × Ending) : Shelf :=
  if (shelf.phases action.1).locks ∧ shelf.lock ≠ none then shelf
  else load.next shelf action.1 action.2

/-! ## What holds at every phase -/

section Invariant

variable {load : Workload} {shelf shelf' : Shelf} {call other : ℕ} {phase : Phase} {key : String}
  {file : List UInt8} {held : Option (String × List UInt8)}

lemma Workload.key_inj : load.key call = load.key other ↔ call = other := by
  unfold Workload.key
  rw [readyStorageKey_inj, load.uuids_injective.eq_iff]

lemma Workload.key_ne_of_ne (hne : other ≠ call) : load.key call ≠ load.key other :=
  fun heq => hne (load.key_inj.mp heq).symm

/-- Content under a key of `mark_ready` is the content that the call was given. -/
def Workload.Published (load : Workload) (key : String) (file : List UInt8) : Prop :=
  ∀ call, key = load.key call → file = load.content call

/-- What holds of the row, the lock and the files while a call is at a phase. -/
def Fits (load : Workload) (shelf : Shelf) (call : ℕ) : Phase → Prop
  | .started | .loaded | .withdrawn | .marking => shelf.row.storageKey ≠ load.key call
  | .staged => load.Accepts call ∧ shelf.row.storageKey ≠ load.key call
  | .written => load.Accepts call ∧ shelf.row.status = .created ∧ shelf.lock = some call
  | .published => load.Accepts call ∧ shelf.row.status = .created ∧ shelf.lock = some call ∧
      shelf.files (load.key call) = some (load.content call)
  | .unpublishing => ¬ (shelf.row.status = .ready ∧ shelf.row.storageKey = load.key call)
  | .expiring _ => shelf.lock = some call
  | .moved key held => shelf.lock = some call ∧ ∀ file ∈ held, load.Published key file
  | .unexpired key held => load.Published key held
  | .restoring key held => shelf.lock = some call ∧ load.Published key held
  | .erasing key held => load.Published key held ∧ shelf.row.status = .expired
  | .failing key => key = storageKey load.artifactId
  | .removing key => key = storageKey load.artifactId ∨ shelf.row.status = .expired
  | .doubtful | .found _ | .returned => True

/-- What a step leaves to a call that did not make it. -/
structure Leaves (load : Workload) (shelf shelf' : Shelf) (other : ℕ) : Prop where
  key : shelf'.row.storageKey = load.key other → shelf.row.storageKey = load.key other
  ready : shelf'.row.status = .ready → shelf'.row.storageKey = load.key other →
    shelf.row.status = .ready
  expired : shelf.row.status = .expired → shelf'.row.status = .expired
  locked : shelf.lock = some other → shelf'.row = shelf.row ∧ shelf'.lock = shelf.lock
  file : shelf.lock = some other → shelf.row.status = .created →
    shelf'.files (load.key other) = shelf.files (load.key other)

lemma Fits.of_leaves (h : Fits load shelf other phase) (hleaves : Leaves load shelf shelf' other) :
    Fits load shelf' other phase := by
  cases phase with
  | started | loaded | withdrawn | marking => exact fun hkey => h (hleaves.key hkey)
  | staged => exact ⟨h.1, fun hkey => h.2 (hleaves.key hkey)⟩
  | written =>
    obtain ⟨haccepts, hstatus, hlock⟩ := h
    obtain ⟨hrow, hlock'⟩ := hleaves.locked hlock
    exact ⟨haccepts, by rw [hrow, hstatus], hlock'.trans hlock⟩
  | published =>
    obtain ⟨haccepts, hstatus, hlock, hfile⟩ := h
    obtain ⟨hrow, hlock'⟩ := hleaves.locked hlock
    exact ⟨haccepts, by rw [hrow, hstatus], hlock'.trans hlock,
      (hleaves.file hlock hstatus).trans hfile⟩
  | unpublishing =>
    rintro ⟨hready, hkey⟩
    exact h ⟨hleaves.ready hready hkey, hleaves.key hkey⟩
  | expiring key => exact (hleaves.locked h).2.trans h
  | moved | restoring => exact ⟨(hleaves.locked h.1).2.trans h.1, h.2⟩
  | erasing key held => exact ⟨h.1, hleaves.expired h.2⟩
  | removing key => exact h.imp_right hleaves.expired
  | unexpired | failing | doubtful | found | returned => exact h

/-- The row says what the call has published. -/
structure Readied (load : Workload) (row : Artifact) (call : ℕ) : Prop where
  accepts : load.Accepts call
  key : row.storageKey = load.key call
  size : row.size = some (load.content call).length
  sha256 : row.sha256 = some (load.repository.sha256 (load.content call))

/-- What holds of a shelf, apart from the call that is at work, which holds this content: a row
that is not ready has its first key, and the content of a row that is ready is in its place or held
by an expiry. -/
structure Sound (load : Workload) (shelf : Shelf) (call : ℕ)
    (held : Option (String × List UInt8)) : Prop where
  fits : ∀ other ≠ call, Fits load shelf other (shelf.phases other)
  unready : shelf.row.status = .created ∨ shelf.row.status = .failed →
    shelf.row.storageKey = storageKey load.artifactId
  files : ∀ key file, shelf.files key = some file → load.Published key file
  ready : shelf.row.status = .ready → ∃ maker, Readied load shelf.row maker ∧
    (shelf.files (load.key maker) = some (load.content maker) ∨
      (∃ other ≠ call,
        (shelf.phases other).held? = some (load.key maker, load.content maker)) ∨
      held = some (load.key maker, load.content maker))

/-- What holds of a shelf between two actions. -/
structure Inv (load : Workload) (shelf : Shelf) : Prop where
  fits : ∀ call, Fits load shelf call (shelf.phases call)
  unready : shelf.row.status = .created ∨ shelf.row.status = .failed →
    shelf.row.storageKey = storageKey load.artifactId
  files : ∀ key file, shelf.files key = some file → load.Published key file
  ready : shelf.row.status = .ready → ∃ maker, Readied load shelf.row maker ∧
    (shelf.files (load.key maker) = some (load.content maker) ∨
      ∃ other, (shelf.phases other).held? = some (load.key maker, load.content maker))

/-- A call goes to work … -/
lemma Inv.sound (h : Inv load shelf) (call : ℕ) :
    Sound load shelf call (shelf.phases call).held? := by
  refine ⟨fun other _ => h.fits other, h.unready, h.files, fun hready => ?_⟩
  obtain ⟨maker, hmaker, hfile | ⟨holder, hholder⟩⟩ := h.ready hready
  · exact ⟨maker, hmaker, Or.inl hfile⟩
  · by_cases heq : holder = call
    · exact ⟨maker, hmaker, Or.inr (Or.inr (heq ▸ hholder))⟩
    · exact ⟨maker, hmaker, Or.inr (Or.inl ⟨holder, heq, hholder⟩)⟩

/-- … and comes to its next phase. -/
lemma Sound.goto (h : Sound load shelf call phase.held?) (hfits : Fits load shelf call phase) :
    Inv load (shelf.goto call phase) := by
  have hself : (shelf.goto call phase).phases call = phase := Function.update_self ..
  have hothers : ∀ other ≠ call, (shelf.goto call phase).phases other = shelf.phases other :=
    fun other hne => Function.update_of_ne hne ..
  refine ⟨fun other => ?_, h.unready, h.files, fun hready => ?_⟩
  · have hsame : Leaves load shelf (shelf.goto call phase) other :=
      ⟨id, fun hready _ => hready, id, fun _ => ⟨rfl, rfl⟩, fun _ _ => rfl⟩
    by_cases heq : other = call
    · rw [heq, hself]
      exact hfits.of_leaves (heq ▸ hsame)
    · rw [hothers other heq]
      exact (h.fits other heq).of_leaves hsame
  · obtain ⟨maker, hmaker, hfile | ⟨holder, hne, hholder⟩ | hheld⟩ := h.ready hready
    · exact ⟨maker, hmaker, Or.inl hfile⟩
    · exact ⟨maker, hmaker, Or.inr ⟨holder, (hothers holder hne).symm ▸ hholder⟩⟩
    · exact ⟨maker, hmaker, Or.inr ⟨call, hself.symm ▸ hheld⟩⟩

/-- A step of a call that has the lock, or takes it while it is free, leaves the others all that
it leaves of the row. -/
lemma Leaves.of_lock (hfree : shelf.lock = none ∨ shelf.lock = some call) (hne : other ≠ call)
    (hkey : shelf'.row.storageKey = load.key other → shelf.row.storageKey = load.key other)
    (hready : shelf'.row.status = .ready → shelf'.row.storageKey = load.key other →
      shelf.row.status = .ready)
    (hexpired : shelf.row.status = .expired → shelf'.row.status = .expired) :
    Leaves load shelf shelf' other := by
  have hlock : shelf.lock ≠ some other := by
    rcases hfree with hfree | hfree <;> rw [hfree]
    · exact (Option.some_ne_none other).symm
    · exact fun h => hne (Option.some.inj h).symm
  exact ⟨hkey, hready, hexpired, fun h => absurd h hlock, fun h => absurd h hlock⟩

section Sound

variable (h : Sound load shelf call held)

include h

/-- The lock is taken or given back. -/
lemma Sound.relock (hfree : shelf.lock = none ∨ shelf.lock = some call) (lock : Option ℕ) :
    Sound load { shelf with lock } call held :=
  ⟨fun other hne => (h.fits other hne).of_leaves (.of_lock hfree hne id (fun h _ => h) id),
    h.unready, h.files, h.ready⟩

/-- A file is put or removed: the content of a row that is ready must not get lost. -/
lemma Sound.put {new : Option (List UInt8)} {held' : Option (String × List UInt8)}
    (hnew : ∀ file ∈ new, load.Published key file)
    (hothers : ∀ other ≠ call, shelf.lock = some other → shelf.row.status = .created →
      key ≠ load.key other)
    (hready : shelf.row.status = .ready → shelf.row.storageKey = key → ∀ maker,
      key = load.key maker →
      shelf.files key = some (load.content maker) ∨ held = some (key, load.content maker) →
      new = some (load.content maker) ∨ held' = some (key, load.content maker))
    (hheld : ∀ other file, other ≠ key → held = some (other, file) → held' = some (other, file)) :
    Sound load (shelf.put key new) call held' := by
  have hself : (shelf.put key new).files key = new := Function.update_self ..
  have hrest : ∀ other ≠ key, (shelf.put key new).files other = shelf.files other :=
    fun other hne => Function.update_of_ne hne ..
  refine ⟨fun other hne => (h.fits other hne).of_leaves ⟨id, fun h _ => h, id,
    fun _ => ⟨rfl, rfl⟩, fun hlock hstatus => hrest _ (hothers other hne hlock hstatus).symm⟩,
    h.unready, fun other file hfile => ?_, fun hstatus => ?_⟩
  · by_cases heq : other = key
    · rw [heq, hself] at hfile
      exact heq ▸ hnew file hfile
    · exact h.files other file ((hrest other heq).symm.trans hfile)
  · obtain ⟨maker, hmaker, hstored⟩ := h.ready hstatus
    refine ⟨maker, hmaker, ?_⟩
    by_cases heq : load.key maker = key
    · have hkept := hready hstatus (hmaker.key.trans heq) maker heq.symm
      rw [heq, hself]
      rw [heq] at hstored
      rcases hstored with hfile | hother | hmine
      · exact (hkept (Or.inl hfile)).imp_right Or.inr
      · exact Or.inr (Or.inl hother)
      · exact (hkept (Or.inr hmine)).imp_right Or.inr
    · rw [hrest _ heq]
      exact hstored.imp_right (Or.imp_right (hheld _ _ heq))

/-- The commit of `mark_ready` … -/
lemma Sound.commit_readied (hfits : Fits load shelf call .published) :
    Sound load (shelf.commit (load.readied call shelf.row)) call none := by
  obtain ⟨haccepts, hstatus, hlock, hfile⟩ := hfits
  refine ⟨fun other hne => (h.fits other hne).of_leaves ?_, ?_, h.files,
    fun _ => ⟨call, ⟨haccepts, rfl, rfl, rfl⟩, Or.inl hfile⟩⟩
  · have hkey : load.key call ≠ load.key other := Workload.key_ne_of_ne hne
    refine .of_lock (Or.inr hlock) hne (fun heq => absurd heq hkey)
      (fun _ heq => absurd heq hkey) (fun hexpired => ?_)
    rw [hstatus] at hexpired
    cases hexpired
  · rintro (h | h) <;> cases h

/-- … and of `expire`. -/
lemma Sound.commit_expired (hlock : shelf.lock = some call) (held' : Option (String × List UInt8)) :
    Sound load (shelf.commit { shelf.row with status := .expired }) call held' := by
  refine ⟨fun other hne => (h.fits other hne).of_leaves ?_, ?_, h.files, fun h => by cases h⟩
  · exact .of_lock (Or.inr hlock) hne id (fun h => by cases h) (fun _ => rfl)
  · rintro (h | h) <;> cases h

lemma Sound.failIfCreated (hfree : shelf.lock = none) :
    Sound load shelf.failIfCreated call held := by
  unfold Shelf.failIfCreated
  split
  · rename_i hcreated
    refine ⟨fun other hne => (h.fits other hne).of_leaves ?_,
      fun _ => h.unready (Or.inl hcreated), h.files, fun h => by cases h⟩
    refine .of_lock (Or.inl hfree) hne id (fun h => by cases h) (fun hexpired => ?_)
    rw [hcreated] at hexpired
    cases hexpired
  · exact h

/-- An expired row needs no content. -/
lemma Sound.of_expired (hexpired : shelf.row.status = .expired)
    (held' : Option (String × List UInt8)) : Sound load shelf call held' := by
  refine ⟨h.fits, h.unready, h.files, fun hready => ?_⟩
  rw [hexpired] at hready
  cases hready

end Sound

/-- The removal of a file that no row leads to. -/
lemma Sound.remove (h : Sound load shelf call none)
    (hothers : ∀ other ≠ call, shelf.lock = some other → shelf.row.status = .created →
      key ≠ load.key other)
    (hready : ¬ (shelf.row.status = .ready ∧ shelf.row.storageKey = key)) :
    Sound load (shelf.put key none) call none :=
  h.put (fun _ h => by cases h) hothers (fun hstatus hkey => absurd ⟨hstatus, hkey⟩ hready)
    (fun _ _ _ h => h)

lemma Operation.lookup_fits (hinv : Inv load shelf) (hkey : shelf.row.storageKey ≠ load.key call) :
    Fits load shelf call ((load.operations call).lookup shelf.row) ∧
      ((load.operations call).lookup shelf.row).held? = none := by
  unfold Operation.lookup
  split
  · exact ⟨hkey, rfl⟩
  · rename_i hcreated
    exact ⟨hinv.unready (Or.inl hcreated), rfl⟩
  · rename_i hexpired
    exact ⟨Or.inr hexpired, rfl⟩
  · exact ⟨trivial, rfl⟩
  · exact ⟨trivial, rfl⟩

/-- Every operation of a call keeps the invariant, unless the call would have to wait. -/
lemma Inv.next (h : Inv load shelf) (hfree : (shelf.phases call).locks → shelf.lock = none)
    (ending : Ending) : Inv load (load.next shelf call ending) := by
  have hsound := h.sound call
  have hfits := h.fits call
  unfold Workload.next
  generalize shelf.phases call = phase at hsound hfits hfree ⊢
  cases phase <;> dsimp only
  case started =>
    obtain ⟨hlookup, hheld⟩ := Operation.lookup_fits h hfits
    split
    · exact Sound.goto (hheld.symm ▸ hsound) hlookup
    · exact Sound.goto hsound trivial
  case loaded =>
    split
    · rename_i haccepts
      exact Sound.goto hsound ⟨haccepts.2, hfits⟩
    · exact Sound.goto hsound hfits
  case staged =>
    split
    · rename_i hcreated
      exact Sound.goto (hsound.relock (Or.inl (hfree rfl)) _) ⟨hfits.1, hcreated.2, rfl⟩
    · exact Sound.goto hsound trivial
  -- the file is put in its place, which is not where an unready row says
  case written =>
    obtain ⟨haccepts, hstatus, hlock⟩ := hfits
    have hkey : shelf.row.storageKey ≠ load.key call :=
      h.unready (Or.inl hstatus) ▸ (readyStorageKey_ne load.artifactId (load.uuids call)).symm
    have hput : Sound load (shelf.put (load.key call) (some (load.content call))) call none :=
      hsound.put (fun file hfile other hother => by
          rw [← Option.some.inj hfile, load.key_inj.mp hother])
        (fun _ hne _ _ => Workload.key_ne_of_ne hne)
        (fun hready => by rw [hstatus] at hready; cases hready) (fun _ _ _ h => h)
    cases ending with
    | done => exact Sound.goto hput ⟨haccepts, hstatus, hlock, Function.update_self ..⟩
    | raised applied =>
      cases applied with
      | false => exact Sound.goto (hsound.relock (Or.inr hlock) none) hkey
      | true => exact Sound.goto (hput.relock (Or.inr hlock) none) hkey
  case withdrawn =>
    split
    · exact Sound.goto (hsound.remove (fun _ hne _ _ => Workload.key_ne_of_ne hne)
        (fun h => hfits h.2)) hfits
    · exact Sound.goto hsound hfits
  case marking =>
    split
    · exact Sound.goto (hsound.failIfCreated (hfree rfl)) trivial
    · exact Sound.goto hsound trivial
  -- `mark_ready` may be committed even if it raises
  case published =>
    cases ending with
    | done => exact Sound.goto (hsound.commit_readied hfits) trivial
    | raised applied =>
      cases applied with
      | false => exact Sound.goto (hsound.relock (Or.inr hfits.2.2.1) none) trivial
      | true => exact Sound.goto (hsound.commit_readied hfits) trivial
  case doubtful =>
    split
    · rename_i hnot
      exact Sound.goto hsound hnot.2
    · exact Sound.goto hsound trivial
  case unpublishing =>
    split
    · exact Sound.goto (hsound.remove (fun _ hne _ _ => Workload.key_ne_of_ne hne) hfits) trivial
    · exact Sound.goto hsound trivial
  case found key =>
    split
    · exact Sound.goto hsound trivial
    · split
      · rename_i hexpired
        exact Sound.goto hsound (Or.inr hexpired)
      · exact Sound.goto (hsound.relock (Or.inl (hfree rfl)) _) rfl
  -- the file is moved away, and the call holds its content from here on
  case expiring key =>
    split
    · refine Sound.goto (hsound.put (fun _ h => by cases h) ?_ ?_ (fun _ _ _ h => by cases h))
        ⟨hfits, fun file hfile => h.files key file hfile⟩
      · exact fun other hne hlock => absurd (Option.some.inj (hfits.symm.trans hlock)).symm hne
      · rintro - - maker - (hfile | hheld)
        · exact Or.inr (by rw [hfile]; rfl)
        · cases hheld
    · exact Sound.goto (hsound.relock (Or.inr hfits) none) trivial
  case moved key held =>
    cases ending with
    | done =>
      cases held with
      | none => exact Sound.goto (hsound.commit_expired hfits.1 none) trivial
      | some held =>
        exact Sound.goto (hsound.commit_expired hfits.1 _) ⟨hfits.2 held rfl, rfl⟩
    | raised applied =>
      have hthen : Sound load (if applied then
          shelf.commit { shelf.row with status := .expired } else shelf.rollback) call
          (Phase.moved key held).held? := by
        split
        · exact hsound.commit_expired hfits.1 _
        · exact hsound.relock (Or.inr hfits.1) none
      cases held with
      | none => exact Sound.goto hthen trivial
      | some held => exact Sound.goto hthen (hfits.2 held rfl)
  case unexpired key held =>
    split
    · rename_i hexpired
      exact Sound.goto (hsound.of_expired hexpired none) trivial
    · exact Sound.goto (hsound.relock (Or.inl (hfree rfl)) _) ⟨rfl, hfits⟩
  -- the content goes back to where it was
  case restoring key held =>
    refine Sound.goto (Sound.relock (hsound.put ?_ ?_ ?_ ?_) (Or.inr hfits.1) none) trivial
    · rintro file hfile
      exact Option.some.inj hfile ▸ hfits.2
    · exact fun other hne hlock => absurd (Option.some.inj (hfits.1.symm.trans hlock)).symm hne
    · rintro - - maker hkey -
      exact Or.inl (congrArg some (hfits.2 maker hkey))
    · rintro other file hne hheld
      cases hheld
      exact absurd rfl hne
  case erasing key held =>
    have hnone := hsound.of_expired hfits.2 none
    split
    · exact Sound.goto hnone trivial
    · refine Sound.goto (hnone.put ?_ ?_ ?_ (fun _ _ _ h => h)) trivial
      · rintro file hfile
        exact Option.some.inj hfile ▸ hfits.1
      · exact fun _ _ _ h => by rw [hfits.2] at h; cases h
      · exact fun h => by rw [hfits.2] at h; cases h
  case failing key =>
    have hthen : Sound load (if ending.applied then shelf.failIfCreated else shelf) call none := by
      split
      · exact hsound.failIfCreated (hfree rfl)
      · exact hsound
    by_cases hdone : ending = .done ∧ shelf.row.status = .created
    · rw [if_pos hdone]
      exact Sound.goto hthen (Or.inl hfits)
    · rw [if_neg hdone]
      exact Sound.goto hthen trivial
  -- no ready row has this key
  case removing key =>
    split
    · refine Sound.goto (hsound.remove (fun other _ _ hcreated => ?_) ?_) trivial
      · rcases hfits with rfl | hexpired
        · exact (readyStorageKey_ne _ _).symm
        · rw [hexpired] at hcreated
          cases hcreated
      · rintro ⟨hready, hkey⟩
        rcases hfits with rfl | hexpired
        · obtain ⟨maker, hmaker, -⟩ := h.ready hready
          exact readyStorageKey_ne _ _ (hmaker.key.symm.trans hkey)
        · rw [hready] at hexpired
          cases hexpired
    · exact Sound.goto hsound trivial
  case returned => exact h

lemma Inv.step (h : Inv load shelf) (action : ℕ × Ending) : Inv load (load.step shelf action) := by
  unfold Workload.step
  split
  · exact h
  · rename_i hfree
    refine h.next (fun hlocks => ?_) action.2
    by_contra hlock
    exact hfree ⟨hlocks, hlock⟩

/-! ## Every run -/

/-- How a row can go on: a new one gets any status, any other one only expires, and what a row says
about its content stays. -/
structure Continues (row row' : Artifact) : Prop where
  status : row.status = .created ∨ row'.status = row.status ∨ row'.status = .expired
  kept : row.status ≠ .created → row' = { row with status := row'.status }

lemma Continues.refl (row : Artifact) : Continues row row :=
  ⟨Or.inr (Or.inl rfl), fun _ => rfl⟩

lemma Continues.trans {row row' row'' : Artifact} (h : Continues row row')
    (h' : Continues row' row'') : Continues row row'' := by
  by_cases hcreated : row.status = .created
  · exact ⟨Or.inl hcreated, fun h => absurd hcreated h⟩
  · have hcreated' : row'.status ≠ .created := by
      rcases h.status.resolve_left hcreated with hsame | hexpired
      · exact hsame ▸ hcreated
      · rw [hexpired]
        decide
    refine ⟨Or.inr ?_, fun _ => ?_⟩
    · rcases h'.status.resolve_left hcreated' with hsame | hexpired
      · rw [hsame]
        exact h.status.resolve_left hcreated
      · exact Or.inr hexpired
    · rw [h'.kept hcreated', h.kept hcreated]

lemma Inv.next_continues (h : Inv load shelf) (ending : Ending) :
    Continues shelf.row (load.next shelf call ending).row := by
  have hfits := h.fits call
  have hfail : Continues shelf.row shelf.failIfCreated.row := by
    unfold Shelf.failIfCreated
    split
    · rename_i hcreated
      exact ⟨Or.inl hcreated, fun h => absurd hcreated h⟩
    · exact .refl _
  unfold Workload.next
  generalize shelf.phases call = phase at hfits ⊢
  cases phase <;> dsimp only
  case published =>
    split
    · exact ⟨Or.inl hfits.2.1, fun h => absurd hfits.2.1 h⟩
    · exact .refl _
  case moved =>
    split
    · exact ⟨Or.inr (Or.inr rfl), fun _ => rfl⟩
    · exact .refl _
  case marking | failing =>
    split
    · exact hfail
    · exact .refl _
  all_goals
    repeat' split
    all_goals exact .refl _

lemma Workload.Accepts.length_le (h : load.Accepts call) :
    (load.content call).length ≤ load.repository.maxArtifactBytes := by
  unfold Workload.Accepts at h
  unfold Workload.content
  split at h
  · exact h.1
  · exact h.elim

/-- `read` on a row that is ready goes as far as its file. -/
lemma Readied.read_eq {row : Artifact} {files : String → Option (List UInt8)} {maker : ℕ}
    (h : Readied load row maker) (hready : row.status = .ready)
    (hfile : ∀ file, files (load.key maker) = some file → file = load.content maker) :
    load.repository.read row files = if files (load.key maker) = none then .error .storage
      else .ok (load.content maker) := by
  obtain ⟨parts, hparts⟩ := storageKeyParts_readyStorageKey load.artifactId_ne load.artifactId_char
    (load.uuids_char maker)
  have hkey : storageKeyParts (load.key maker) = .ok parts := hparts
  have hlimit : load.repository.limit (load.content maker) = .ok (load.content maker) := by
    rw [Repository.limit, List.take_of_length_le (h.accepts.length_le.trans (Nat.le_succ _))]
    exact bind_eq_ok.mpr ⟨(), raiseIf_eq_ok.mpr (not_lt.mpr h.accepts.length_le), rfl⟩
  have hverify : load.repository.verify ((load.content maker).length,
      load.repository.sha256 (load.content maker)) (load.content maker) =
        .ok (load.content maker) :=
    bind_eq_ok.mpr ⟨(), raiseIf_eq_ok.mpr fun h => h rfl,
      bind_eq_ok.mpr ⟨(), raiseIf_eq_ok.mpr fun h => h rfl, rfl⟩⟩
  have hrequire : row.requireStatus .ready = .ok () := raiseIf_eq_ok.mpr fun h => h hready
  cases hplace : files (load.key maker) with
  | none =>
    simp [Repository.read, hrequire, Artifact.metadata, h.size, h.sha256, h.key, hkey, hplace, bind,
      Except.bind]
  | some file =>
    rw [hfile file hplace] at hplace
    simp [Repository.read, hrequire, Artifact.metadata, h.size, h.sha256, h.key, hkey, hplace, bind,
      Except.bind, hlimit, hverify]

variable (load) (responseId : String) (kind : ArtifactKind) (filename mimeType : String)

lemma Workload.run_inv (actions : List (ℕ × Ending)) :
    Inv load (run load.step (load.initial responseId kind filename mimeType) actions) := by
  refine run_invariant (fun _ action h => h.step action) ?_ actions
  exact ⟨fun call => (readyStorageKey_ne load.artifactId (load.uuids call)).symm, fun _ => rfl,
    fun _ _ h => absurd h.symm (Option.some_ne_none _), (ArtifactStatus.noConfusion ·)⟩

/-- **The life of an artifact.** Whatever the calls on it, whatever fails in them and in whichever
order their operations take place, the row that a reader sees only goes from created to ready or
failed, and to expired, and once it is ready neither its content's size, digest nor key change. -/
theorem row_continues (earlier later : List (ℕ × Ending)) :
    Continues (run load.step (load.initial responseId kind filename mimeType) earlier).row
      (run load.step (load.initial responseId kind filename mimeType) (earlier ++ later)).row := by
  induction later using List.reverseRecOn with
  | nil => rw [List.append_nil]; exact .refl _
  | append_singleton later action ih =>
    rw [← List.append_assoc, run_concat]
    refine ih.trans ?_
    unfold Workload.step
    split
    · exact .refl _
    · exact (load.run_inv ..).next_continues action.2

/-- **A ready artifact has the content of a call that was accepted**: that is what `read` returns,
unless an expiry in progress holds it, and then `read` reports that it is not there. -/
theorem ready_read (actions : List (ℕ × Ending)) {shelf : Shelf}
    (hrun : shelf = run load.step (load.initial responseId kind filename mimeType) actions)
    (hready : shelf.row.status = .ready) :
    ∃ call, load.Accepts call ∧
      (load.repository.read shelf.row shelf.files = .ok (load.content call) ∨
        load.repository.read shelf.row shelf.files = .error .storage ∧
          ∃ other, (shelf.phases other).held? = some (load.key call, load.content call)) := by
  have hinv := hrun ▸ load.run_inv responseId kind filename mimeType actions
  obtain ⟨maker, hmaker, hstored⟩ := hinv.ready hready
  refine ⟨maker, hmaker.accepts, ?_⟩
  rw [hmaker.read_eq hready fun file hfile => hinv.files _ file hfile maker rfl]
  split
  · rename_i hnone
    rw [hnone] at hstored
    exact Or.inr ⟨rfl, hstored.resolve_left (Option.some_ne_none _).symm⟩
  · exact Or.inl rfl

/-- Uploads of one byte each. -/
def sampleLoad : Workload where
  repository := ⟨4, fun _ => "digest"⟩
  artifactId := "a"
  operations := fun call => .markReady [call.toUInt8] (some 1) none
  uuids := fun call => String.ofList (List.replicate call 'b')
  artifactId_ne := by decide
  artifactId_char := by decide
  uuids_char := fun call c hc => by
    rw [String.toList_ofList] at hc
    exact List.eq_of_mem_replicate hc ▸ by decide
  uuids_injective := fun call other h => by
    simpa using congrArg List.length (String.ofList_injective h)

/-- One of them, whose commit raises after it has taken effect. -/
theorem ready_read_sample :
    let shelf := run sampleLoad.step (sampleLoad.initial "r" .file "f" "m")
      (List.replicate 4 (0, .done) ++ [(0, .raised true), (0, .done)])
    let read := sampleLoad.repository.read shelf.row shelf.files
    shelf.row.status = .ready ∧ ∃ call, sampleLoad.Accepts call ∧
      (read = .ok (sampleLoad.content call) ∨ read = .error .storage ∧ ∃ other,
        (shelf.phases other).held? = some (sampleLoad.key call, sampleLoad.content call)) := by
  intro shelf
  have hready : shelf.row.status = .ready := by decide +kernel
  exact ⟨hready, ready_read sampleLoad "r" .file "f" "m" _ rfl hready⟩

end Invariant

end AgentGateway.Artifacts
