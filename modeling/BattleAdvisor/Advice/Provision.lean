import BattleAdvisor.Advice.MediaType
import BattleAdvisor.Advice.World
import BattleAdvisor.FileSystem.Walk
import BattleAdvisor.Text.Collapse

/-!
# Provision

What the model is to know besides the prompt is kept on the remote service under display names. A
file or a cache is made only if the service lists none of its display name; one that is there is
taken as it is.
-/

namespace BattleAdvisor.Provision

variable [MediaTypes] {σ : Type}

/-- How long a new cache is kept, in milliseconds. -/
def cacheLifetime : Nat := 300000

/-- The display name of a file of a directory: the path from there, in which each run of characters
that are no word characters is an underscore. -/
def displayName (start : String) (dir path : Path) : String :=
  start ++ "_" ++ String.ofList (Text.collapse (path.relativeTo dir).display.toList)

/-- The uploaded file of a display name; uploads a file if there is none. -/
def obtainFile (service : Service σ) (displayName : String) (path : Path) :
    Action σ UploadedFile := do
  let existing : List UploadedFile ← Action.call service .listFiles
  match existing.find? fun file => file.displayName? = some displayName with
  | some file =>
    Action.report .info s!"File {path.display} is already uploaded"
    return file
  | none =>
    Action.report .info s!"Uploading {path.display}"
    let files ← Action.files
    let bytes ← Action.ofExcept ((files.read path).mapError .io)
    Action.call service (.uploadFile ⟨displayName, path.mediaType?, bytes⟩)

/-- Ensures that the files which a walk meets are uploaded, as far as they are accepted. -/
def obtainVisits (service : Service σ) (start : String) (dir : Path) (accepts : Path → Bool) :
    List Visit → Action σ (List UploadedFile)
  | [] => return []
  | .error error :: _ => throw (.io error)
  | .ok path :: rest => do
    let files ← Action.files
    if files.isFile path && accepts path then
      let file ← obtainFile service (displayName start dir path) path
      let others ← obtainVisits service start dir accepts rest
      return file :: others
    else obtainVisits service start dir accepts rest

/-- Ensures that all accepted files of a directory and of those below it are uploaded. -/
def obtainDirectory (service : Service σ) (start : String) (dir : Path) (accepts : Path → Bool) :
    Action σ (List UploadedFile) := do
  Action.report .info s!"Ensuring all files in {dir.display} are uploaded"
  let files ← Action.files
  obtainVisits service start dir accepts (files.walk dir)

/-- The cache of a display name; creates one if there is none. -/
def obtainCache (service : Service σ) (model displayName systemInstruction : String)
    (files : List UploadedFile) : Action σ ContentCache := do
  let existing : List ContentCache ← Action.call service .listCaches
  match existing.find? fun cache => cache.displayName? = some displayName with
  | some cache =>
    Action.report .info s!"Context cache {displayName} already exists"
    return cache
  | none =>
    Action.report .info s!"Creating context cache {displayName}"
    Action.call service
      (.createCache ⟨model, displayName, systemInstruction, files, cacheLifetime⟩)

end BattleAdvisor.Provision
