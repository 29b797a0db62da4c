import BattleAdvisor.Json.Writer
import BattleAdvisor.Remote.Call

/-!
# What requests carry

The objects that are sent to the remote service, with their members in a fixed order, and the
records that it returns around files and caches.
-/

namespace BattleAdvisor.Http.Body

open Json (Value RecordFormat)

/-- The media type of files of which it is not known. -/
def unknownMediaType : String := "application/octet-stream"

/-- A part that is a text. -/
def textPart (text : String) : Value :=
  .object [("text", .string text)]

/-- A part that refers to an uploaded file. -/
def filePart (file : UploadedFile) : Value :=
  .object [("fileData", .object [
    ("mimeType", .string (file.mimeType?.getD unknownMediaType)),
    ("fileUri", .string file.uri)])]

/-- An instruction. -/
def instruction (text : String) : Value :=
  .object [("parts", .array [textPart text])]

/-- A turn of the user. -/
def userTurn (parts : List Value) : Value :=
  .object [("role", .string "user"), ("parts", .array parts)]

/-- The body that starts an upload. -/
def ofUpload (upload : Upload) : Value :=
  .object [("file", .object [("displayName", .string upload.displayName)])]

/-- The body that creates a cache. The files are left out if there are none. -/
def ofCacheRequest (request : CacheRequest) : Value :=
  let contents := match request.files with
    | [] => []
    | files => [("contents", .array [userTurn (files.map filePart)])]
  .object <|
    [("model", .string request.model),
      ("displayName", .string request.displayName),
      ("systemInstruction", instruction request.systemInstruction)] ++
    contents ++
    [("ttl", .string s!"{request.lifetime / 1000}s")]

/-- The body that has the model generate: the prompt comes behind the files, and either the
instruction or the cache goes with it. -/
def ofModelRequest (request : ModelRequest) : Value :=
  let prompt := textPart request.prompt
  match request.config with
  | .inline systemInstruction files =>
    .object [
      ("contents", .array [userTurn (files.map filePart ++ [prompt])]),
      ("systemInstruction", instruction systemInstruction)]
  | .cached cacheName =>
    .object [
      ("contents", .array [userTurn [prompt]]),
      ("cachedContent", .string cacheName)]

/-! ## Returned records -/

/-- A page of a listing. -/
structure Page (α : Type) where
  items : List α
  nextToken? : Option String

/-- The format of pages. -/
def Page.format {α : Type} (name key : String) (item : RecordFormat α) :
    RecordFormat (Page α) where
  name := name
  blank := ⟨[], none⟩
  fields := [
    { key := key
      presence := .optional
      Content := List α
      read := fun bound => Json.readList bound (item.read bound)
      write := fun items => .array (items.map item.toValue)
      get := (·.items)
      set := fun items page => { page with items := items } },
    .optionalText "nextPageToken" .reached (·.nextToken?)
      fun token page => { page with nextToken? := token }]

/-- The token of the page behind a page. An empty one means that there is none. -/
def Page.next? {α : Type} (page : Page α) : Option String :=
  page.nextToken?.filter (· ≠ "")

/-- Pages of uploaded files. -/
def filePage : RecordFormat (Page UploadedFile) :=
  Page.format "ListFilesResponse" "files" UploadedFile.format

/-- Pages of caches. -/
def cachePage : RecordFormat (Page ContentCache) :=
  Page.format "ListCachedContentsResponse" "cachedContents" ContentCache.format

/-- The record around an uploaded file. -/
def uploaded : RecordFormat UploadedFile where
  name := "UploadFileResponse"
  blank := UploadedFile.format.blank
  fields := [
    { key := "file"
      presence := .required
      Content := UploadedFile
      read := UploadedFile.format.read
      write := UploadedFile.format.toValue
      get := id
      set := fun file _ => file }]

/-- The texts of a part. -/
def partText? (part : Value) : Option String :=
  (part.member? "text").bind Value.text?

/-- The parts of the first candidate of a reply. -/
def replyParts? (reply : Value) : Option (List Value) := do
  let candidates ← (← reply.member? "candidates").items?
  let first ← candidates.head?
  let content ← first.member? "content"
  let parts ← content.member? "parts"
  parts.items?

/-- The texts of the first candidate of a reply, joined, if they are not empty. -/
def replyText? (reply : Value) : Option String := do
  let parts ← replyParts? reply
  let text := String.join (parts.filterMap partText?)
  if text = "" then none else some text

end BattleAdvisor.Http.Body
