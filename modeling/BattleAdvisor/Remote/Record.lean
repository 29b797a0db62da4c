import BattleAdvisor.Json.Record

/-!
# What the remote service keeps

Files that were uploaded, caches of content, and models, with the formats of their records.
-/

namespace BattleAdvisor

/-- An uploaded file. -/
structure UploadedFile where
  /-- The name that the service gave it. -/
  name : String
  displayName? : Option String := none
  uri : String := ""
  mimeType? : Option String := none
  deriving DecidableEq, Repr

/-- A cache of content that requests can refer to. -/
structure ContentCache where
  /-- The name that the service gave it. -/
  name : String
  displayName? : Option String := none
  model? : Option String := none
  expireTime? : Option String := none
  deriving DecidableEq, Repr

/-- A model. -/
structure ModelCard where
  name : String
  inputTokenLimit? : Option Nat := none
  outputTokenLimit? : Option Nat := none
  deriving DecidableEq, Repr

open Json (RecordFormat Field)

/-- The format of uploaded files. -/
def UploadedFile.format : RecordFormat UploadedFile where
  name := "RemoteFile"
  blank := ⟨"", none, "", none⟩
  fields := [
    .text "name" .required (·.name) fun s r => { r with name := s },
    .optionalText "displayName" .optional (·.displayName?) fun s r => { r with displayName? := s },
    .text "uri" .optional (·.uri) fun s r => { r with uri := s },
    .optionalText "mimeType" .optional (·.mimeType?) fun s r => { r with mimeType? := s }]

/-- The format of caches. -/
def ContentCache.format : RecordFormat ContentCache where
  name := "CachedContent"
  blank := ⟨"", none, none, none⟩
  fields := [
    .text "name" .required (·.name) fun s r => { r with name := s },
    .optionalText "displayName" .optional (·.displayName?) fun s r => { r with displayName? := s },
    .optionalText "model" .optional (·.model?) fun s r => { r with model? := s },
    .optionalText "expireTime" .optional (·.expireTime?) fun s r => { r with expireTime? := s }]

/-- The format of models. -/
def ModelCard.format : RecordFormat ModelCard where
  name := "ModelInfo"
  blank := ⟨"", none, none⟩
  fields := [
    .text "name" .required (·.name) fun s r => { r with name := s },
    .optionalCount "inputTokenLimit" .optional (·.inputTokenLimit?)
      fun n r => { r with inputTokenLimit? := n },
    .optionalCount "outputTokenLimit" .optional (·.outputTokenLimit?)
      fun n r => { r with outputTokenLimit? := n }]

end BattleAdvisor
