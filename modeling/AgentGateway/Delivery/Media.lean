import AgentGateway.Delivery.Worker
import AgentGateway.Hermes.Payload

/-!
# The body of a send

What `send_text` and `send_media` check before they send anything, and the body they then post. All
of it raises `ValueError`s. Case mapping and the categories of Unicode are parameters.
-/

namespace AgentGateway.Delivery.Channel

open Lib Hermes

/-- `str.lower`, `str.upper` and `unicodedata.category`. -/
structure Unicode where
  lower : String → String
  upper : String → String
  category : Char → String

/-- A `ValueError`, which has no code. -/
def invalid : DeliveryException := .valueError none

/-- `_required_string`. -/
def requiredString (value : String) : Except DeliveryException String := do
  raiseIf (IsBlank value) invalid
  return strip value

/-- `WechatMediaType`. -/
inductive WechatMediaType
  | image
  | file
  deriving DecidableEq, Repr

/-- The JSON body of a `POST` to `api/messages/send`. The bytes of media are written in Base64. -/
inductive Message
  | text (chatId text : String)
  | image (chatId : String) (data : List UInt8) (mimeType : String)
  | file (chatId : String) (data : List UInt8) (filename : String)
  deriving DecidableEq, Repr

/-- The first lines of `send_text`. -/
def textMessage (conversationId content : String) : Except DeliveryException Message := do
  let chatId ← requiredString conversationId
  raiseIf (content = "") invalid
  return .text chatId content

/-! ## Media types -/

def isAlphanumeric (c : Char) : Bool :=
  ('A' ≤ c && c ≤ 'Z') || ('a' ≤ c && c ≤ 'z') || ('0' ≤ c && c ≤ '9')

/-- `[A-Za-z0-9][A-Za-z0-9!#$&^_.+-]{0,126}`. -/
def isMimeToken : List Char → Bool
  | [] => false
  | c :: rest => isAlphanumeric c && rest.length ≤ 126 &&
    rest.all fun c => isAlphanumeric c || "!#$&^_.+-".toList.contains c

/-- `_MIME_TYPE_PATTERN.fullmatch`: two tokens with a slash between them. -/
def isMimeType (value : String) : Bool :=
  match value.toList.dropWhile (· ≠ '/') with
  | [] => false
  | _ :: subtype => isMimeToken (value.toList.takeWhile (· ≠ '/')) && isMimeToken subtype

/-- `_mime_type`. -/
def Unicode.mimeType (unicode : Unicode) (value : String) : Except DeliveryException String := do
  raiseIf (value = "" ∨ value ≠ strip value) invalid
  raiseIf (isMimeType (unicode.lower value) = false) invalid
  return unicode.lower value

/-- `IMAGE_MIME_TYPES`. -/
def imageMimeTypes : List String := ["image/gif", "image/jpeg", "image/png"]

/-- `_FILE_MIME_TYPES_BY_SUFFIX`. -/
def fileMimeTypesBySuffix : List (String × List String) :=
  [(".7z", ["application/x-7z-compressed"]),
    (".csv", ["text/csv"]),
    (".doc", ["application/msword"]),
    (".docx", ["application/vnd.openxmlformats-officedocument.wordprocessingml.document"]),
    (".json", ["application/json"]),
    (".gz", ["application/gzip"]),
    (".html", ["text/html"]),
    (".md", ["text/markdown", "text/plain"]),
    (".pdf", ["application/pdf"]),
    (".ppt", ["application/vnd.ms-powerpoint"]),
    (".pptx", ["application/vnd.openxmlformats-officedocument.presentationml.presentation"]),
    (".rar", ["application/vnd.rar", "application/x-rar-compressed"]),
    (".rtf", ["application/rtf", "text/rtf"]),
    (".tar", ["application/x-tar"]),
    (".txt", ["text/plain"]),
    (".xls", ["application/vnd.ms-excel"]),
    (".xlsx", ["application/vnd.openxmlformats-officedocument.spreadsheetml.sheet"]),
    (".xml", ["application/xml", "text/xml"]),
    (".zip", ["application/zip", "application/x-zip-compressed"])]

/-- `PurePath(filename).suffix`: from the last dot on, unless that is the first or the last
character. -/
def suffix (filename : String) : String :=
  let extension := filename.toList.rtakeWhile (· ≠ '.')
  let stem := (filename.toList.rdropWhile (· ≠ '.')).dropLast
  if extension ≠ [] ∧ stem ≠ [] then String.ofList ('.' :: extension) else ""

/-- `_validate_file_mime`. -/
def Unicode.validateFileMime (unicode : Unicode) (filename mimeType : String) :
    Except DeliveryException Unit :=
  match fileMimeTypesBySuffix.find? fun entry => entry.1 = unicode.lower (suffix filename) with
  | none => raiseIf (mimeType ≠ "application/octet-stream") invalid
  | some entry => raiseIf (mimeType ∉ entry.2) invalid

/-! ## File names -/

/-- `_WINDOWS_INVALID_FILENAME_CHARACTERS`. -/
def windowsInvalidFilenameCharacters : List Char := "<>:\"/\\|?*".toList

/-- `_WINDOWS_RESERVED_FILENAMES`. -/
def windowsReservedFilenames : List String :=
  ["AUX", "CON", "CONIN$", "CONOUT$", "NUL", "PRN"] ++
    ["COM", "LPT"].flatMap fun port =>
      "123456789¹²³".toList.map fun digit => port.push digit

/-- The name a device would be opened under. -/
def Unicode.deviceName (unicode : Unicode) (filename : String) : String :=
  unicode.upper (String.ofList
    ((filename.toList.takeWhile (· ≠ '.')).rdropWhile fun c => c = ' ' || c = '.'))

/-- A control, format, surrogate, private or unassigned character, or a separator of lines or
paragraphs. -/
def Unicode.isUnsafe (unicode : Unicode) (c : Char) : Bool :=
  (unicode.category c).toList.head? = some 'C' || ["Zl", "Zp"].contains (unicode.category c)

/-- `_filename`. -/
def Unicode.filename (unicode : Unicode) (value : String) : Except DeliveryException String := do
  raiseIf (value = "" ∨ value ≠ strip value) invalid
  raiseIf (value = "." ∨ value = ".." ∨
    value.toList.getLast? = some '.' ∨ value.toList.getLast? = some ' ' ∨
    value.toList.any windowsInvalidFilenameCharacters.contains = true ∨
    unicode.deviceName value ∈ windowsReservedFilenames ∨
    value.toList.any unicode.isUnsafe = true) invalid
  raiseIf (255 < value.utf8ByteSize) invalid
  return value

/-! ## Content -/

/-- `_media_data`, for bytes. -/
def mediaData (maxBytes : ℕ) (data : List UInt8) : Except DeliveryException (List UInt8) := do
  raiseIf (data = []) invalid
  raiseIf (maxBytes < data.length) invalid
  return data

/-- `_validate_image_mime`. -/
def validateImageMime (mimeType : String) : Except DeliveryException Unit :=
  raiseIf (mimeType ∉ imageMimeTypes) invalid

/-- The signatures of `_validate_image_signature`. -/
def signatures (mimeType : String) : List (List UInt8) :=
  if mimeType = "image/png" then [[0x89, 0x50, 0x4E, 0x47, 0x0D, 0x0A, 0x1A, 0x0A]]
  else if mimeType = "image/jpeg" then [[0xFF, 0xD8, 0xFF]]
  else if mimeType = "image/gif" then
    [[0x47, 0x49, 0x46, 0x38, 0x37, 0x61], [0x47, 0x49, 0x46, 0x38, 0x39, 0x61]]
  else []

/-- `_validate_image_signature`. -/
def validateImageSignature (data : List UInt8) (mimeType : String) :
    Except DeliveryException Unit :=
  raiseIf ((signatures mimeType).any (fun signature => signature.isPrefixOf data) = false) invalid

/-- `send_media` up to the send. -/
def Unicode.mediaMessage (unicode : Unicode) (maxBytes : ℕ) (conversationId : String)
    (mediaType : WechatMediaType) (data : List UInt8) (mimeType : String)
    (filename : Option String) : Except DeliveryException Message := do
  let chatId ← requiredString conversationId
  let mimeType ← unicode.mimeType mimeType
  match mediaType with
  | .image =>
    raiseIf (filename ≠ none) invalid
    validateImageMime mimeType
    let data ← mediaData maxBytes data
    validateImageSignature data mimeType
    return .image chatId data mimeType
  | .file =>
    match filename with
    | none => .error invalid
    | some filename =>
      let filename ← unicode.filename filename
      unicode.validateFileMime filename mimeType
      let data ← mediaData maxBytes data
      return .file chatId data filename

end AgentGateway.Delivery.Channel
