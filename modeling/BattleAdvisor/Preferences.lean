import BattleAdvisor.FileSystem.Resolve
import BattleAdvisor.Json.Record

/-!
# Preferences

Names and addresses that a run uses. They are read from a file; fields that it leaves out keep
their usual contents.
-/

namespace BattleAdvisor

/-- The preferences of a run. -/
structure Preferences where
  model : String
  /-- The environment variable that holds the key. -/
  keyVariable : String
  address : String
  cacheName : String
  filePrefix : String
  fileExtension : String
  deriving DecidableEq, Repr

namespace Preferences

/-- The usual preferences. -/
def usual : Preferences where
  model := "models/gemini-2.5-flash"
  keyVariable := "GEMINI_API_KEY"
  address := "https://generativelanguage.googleapis.com"
  cacheName := "battler"
  filePrefix := "data"
  fileExtension := "json"

open Json (RecordFormat Field)

/-- The format of preferences. -/
def format : RecordFormat Preferences where
  name := "Settings"
  blank := usual
  fields := [
    .text "model" .optional (·.model) fun s r => { r with model := s },
    .text "api_key_env" .optional (·.keyVariable) fun s r => { r with keyVariable := s },
    .text "base_url" .optional (·.address) fun s r => { r with address := s },
    .text "cache_display_name" .optional (·.cacheName)
      fun s r => { r with cacheName := s },
    .text "data_file_prefix" .optional (·.filePrefix) fun s r => { r with filePrefix := s },
    .text "data_file_extension" .optional (·.fileExtension)
      fun s r => { r with fileExtension := s }]

/-- The preferences that a file holds. -/
def ofFile (fs : FileSystem) (path : Path) : Except IoError Preferences :=
  match fs.readText path with
  | .error error => .error error
  | .ok text => (format.parse text).mapError .malformed

/-- Whether a path has the extension of data files. -/
def selects (preferences : Preferences) (path : Path) : Bool :=
  path.extension?.bind Utf8.decode? = some preferences.fileExtension

end Preferences

end BattleAdvisor
