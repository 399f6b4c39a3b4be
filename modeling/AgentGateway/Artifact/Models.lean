import AgentGateway.Lib.Python

/-!
# Artifacts

The rows of the artifact table, the errors of the repository, and the checks `read` makes on a row
and on the content that its storage key leads to. The repository's own steps, which look rows and
files up, are part of the programs that use it.
-/

namespace AgentGateway.Artifacts

open AgentGateway.Lib

/-- `ArtifactKind`. -/
inductive ArtifactKind
  | image
  | file
  deriving DecidableEq, Repr

/-- `ArtifactStatus`. -/
inductive ArtifactStatus
  | created
  | ready
  | failed
  | expired
  deriving DecidableEq, Repr

/-- A row of the artifact table. -/
structure Artifact where
  artifactId : String
  responseId : String
  kind : ArtifactKind
  filename : String
  mimeType : String
  size : Option ℕ
  sha256 : Option String
  storageKey : String
  status : ArtifactStatus
  deriving DecidableEq, Repr

/-- The errors `read` raises. `storageKey` and `integrity` are subclasses of `storage`, and
`storageKey` and `validation` are `ValueError`s too. -/
inductive ArtifactError
  | validation
  | notFound
  | state (status : ArtifactStatus)
  | storage
  | storageKey
  | integrity
  deriving DecidableEq, Repr

/-- The `code` of an error. -/
def ArtifactError.code : ArtifactError → String
  | .validation => "artifact_validation_error"
  | .notFound => "artifact_not_found"
  | .state _ => "artifact_state_error"
  | .storage => "artifact_storage_error"
  | .storageKey => "artifact_storage_key_error"
  | .integrity => "artifact_integrity_error"

/-- `_required_string`. -/
def requiredString (maxLength : ℕ) (value : String) : Except ArtifactError String := do
  raiseIf (IsBlank value) .validation
  raiseIf (maxLength < (strip value).length) .validation
  raiseIf ((strip value).toList.any (fun c => c.toNat < 0x20) = true) .validation
  return strip value

/-- `_require_status`. -/
def Artifact.requireStatus (artifact : Artifact) (expected : ArtifactStatus) :
    Except ArtifactError Unit :=
  raiseIf (artifact.status ≠ expected) (.state artifact.status)

/-- `_storage_key_parts`. A key with these properties is neither absolute nor has it a drive, so
the checks on `PurePosixPath` and `PureWindowsPath` say nothing new. -/
def storageKeyParts (value : String) : Except ArtifactError (List String) := do
  raiseIf (value = "" ∨ value.toList.any (fun c => c = '\x00' ∨ c = '\\' ∨ c = ':') = true)
    .storageKey
  let parts := (value.toList.splitOn '/').map String.ofList
  raiseIf ("" ∈ parts ∨ "." ∈ parts ∨ ".." ∈ parts) .storageKey
  return parts

/-- `ArtifactRepository`, as far as `read` uses it. SHA-256 is a parameter. -/
structure Repository where
  maxArtifactBytes : ℕ
  sha256 : List UInt8 → String

/-- The end of `_read_content`, which reads at most one byte more than an artifact may have. -/
def Repository.limit (repository : Repository) (file : List UInt8) :
    Except ArtifactError (List UInt8) := do
  let content := file.take (repository.maxArtifactBytes + 1)
  raiseIf (repository.maxArtifactBytes < content.length) .integrity
  return content

/-- The size and the digest that `read` compares the content with. -/
def Artifact.metadata (artifact : Artifact) : Except ArtifactError (ℕ × String) :=
  match artifact.size, artifact.sha256 with
  | some size, some sha256 => .ok (size, sha256)
  | _, _ => .error .integrity

/-- The end of `read`. -/
def Repository.verify (repository : Repository) (metadata : ℕ × String) (content : List UInt8) :
    Except ArtifactError (List UInt8) := do
  raiseIf (content.length ≠ metadata.1) .integrity
  raiseIf (repository.sha256 content ≠ metadata.2) .integrity
  return content

end AgentGateway.Artifacts
