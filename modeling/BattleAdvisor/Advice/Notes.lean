import BattleAdvisor.Advice.World
import BattleAdvisor.FileSystem.Write

/-!
# Notes

For later inspection a run notes what it sends to the model and what it gets back, each in a file of
a directory that is made when it is needed. A note that cannot be written is reported and otherwise
passed over.
-/

namespace BattleAdvisor

/-- Where notes go; nowhere if the directory is absent. -/
structure Notes where
  dir? : Option Path
  deriving DecidableEq

namespace Notes

/-- No notes are taken. -/
def off : Notes := ⟨none⟩

/-- Notes in a directory. -/
def inDirectory (dir : Path) : Notes := ⟨some dir⟩

/-- Notes in the directory `.debug` of a directory. -/
def below (base : Path) : Notes :=
  .inDirectory (base.join (.ofString ".debug"))

/-- Writes a file of a directory. The file system may have changed even where this fails. -/
def writeFile (fs : FileSystem) (dir : Path) (name content : String) :
    Except Fault Unit × FileSystem :=
  match fs.makeDirectories dir with
  | (.error fault, fs) => (.error fault, fs)
  | (.ok (), fs) =>
    match fs.write (dir.join (.ofString name)) (Utf8.encode content) with
    | .error fault => (.error fault, fs)
    | .ok fs => (.ok (), fs)

/-- Takes a note: the files after it, and what is to be reported. -/
def write (notes : Notes) (name content : String) (fs : FileSystem) : FileSystem × List LogLine :=
  match notes.dir? with
  | none => (fs, [])
  | some dir =>
    match writeFile fs dir name content with
    | (.ok (), fs) => (fs, [])
    | (.error fault, fs) =>
      (fs, [⟨.warn, s!"Failed to write debug file {name}: {fault.message}"⟩])

/-- Takes a note. -/
def take {σ : Type} (notes : Notes) (name content : String) : Action σ Unit :=
  modify fun world =>
    let (files, log) := notes.write name content world.files
    { world with files := files, log := world.log ++ log }

@[simp] theorem start_take {σ : Type} (notes : Notes) (name content : String) (world : World σ) :
    (notes.take name content : Action σ Unit).start world =
      (.ok (), { world with
        files := (notes.write name content world.files).1
        log := world.log ++ (notes.write name content world.files).2 }) := rfl

end Notes

end BattleAdvisor
