import BattleAdvisor.FileSystem.Path
import BattleAdvisor.Json.Failure

/-!
# Files, directories and links

A file system is a tree of nodes and the location of the current directory. The entries of a
directory are in ascending order of their names' bytes, each name once; `Node.put` keeps that.

Operations fail for the causes of `Fault`; what reading adds to them is in `IoError`.
-/

namespace BattleAdvisor

/-- A file, a directory with its entries, or a link with the path it leads to. -/
inductive Node where
  | file (content : Bytes)
  | directory (entries : List (Name × Node))
  | link (target : Path)

instance : Inhabited Node := ⟨.directory []⟩

/-- The entries of a directory. -/
abbrev Entries := List (Name × Node)

/-- Sets the entry of a name. The names stay in ascending order. -/
def Entries.put (name : Name) (node : Node) : Entries → Entries
  | [] => [(name, node)]
  | (n, old) :: rest =>
    if name < n then (name, node) :: (n, old) :: rest
    else if name = n then (name, node) :: rest
    else (n, old) :: Entries.put name node rest

/-- The names from the top directory down to a node. -/
abbrev Location := List Name

namespace Node

/-- The entries of a directory; no other node has any. -/
def entries : Node → Entries
  | .directory entries => entries
  | _ => []

/-- The node at a location, if there is one. -/
def at? : Node → Location → Option Node
  | node, [] => some node
  | .directory entries, name :: rest =>
    match entries.lookup name with
    | some node => node.at? rest
    | none => none
  | _, _ :: _ => none

/-- Sets the node at a location whose directory is there. -/
def put (new : Node) : Location → Node → Node
  | [], _ => new
  | name :: rest, .directory entries =>
    .directory
      (Entries.put name (put new rest ((entries.lookup name).getD (.directory []))) entries)
  | _ :: _, node => node

/-- Removes the node at a location, with everything below it. -/
def remove : Location → Node → Node
  | [], node => node
  | [name], .directory entries => .directory (entries.filter (·.1 ≠ name))
  | name :: rest, .directory entries =>
    match entries.lookup name with
    | some inner => .directory (Entries.put name (remove rest inner) entries)
    | none => .directory entries
  | _ :: _, node => node

end Node

/-- A tree of nodes, and the location of the current directory in it. -/
structure FileSystem where
  top : Node
  current : Location

/-! ## Causes of failure -/

/-- Why the system refuses an operation. -/
inductive Fault where
  | noEntry
  | exists
  | notDirectory
  | isDirectory
  | nameTooLong
  | tooManyLinks
  /-- A path holds a zero byte. -/
  | zeroByte
  deriving DecidableEq, Repr

/-- The wording of a refusal. -/
def Fault.message : Fault → String
  | .noEntry => "No such file or directory (os error 2)"
  | .exists => "File exists (os error 17)"
  | .notDirectory => "Not a directory (os error 20)"
  | .isDirectory => "Is a directory (os error 21)"
  | .nameTooLong => "File name too long (os error 36)"
  | .tooManyLinks => "Too many levels of symbolic links (os error 40)"
  | .zeroByte => "file name contained an unexpected NUL byte"

/-- Why a file or a directory cannot be read. -/
inductive IoError where
  /-- The system refuses. -/
  | refused (fault : Fault)
  /-- The content is no text. -/
  | notText
  /-- The content is no record of the wanted kind. -/
  | malformed (error : Json.ReadError)
  /-- A walk through a directory stops at a path. -/
  | unwalkable (path : Path) (fault : Fault)

/-- The wording of a failure to read. -/
def IoError.message : IoError → String
  | .refused fault => fault.message
  | .notText => "stream did not contain valid UTF-8"
  | .malformed error => error.message
  | .unwalkable path fault =>
    "IO error for operation on " ++ path.display ++ ": " ++ fault.message

/-- What lies behind a failure to read, outermost first. -/
def IoError.causes : IoError → List String
  | .unwalkable _ fault => [fault.message]
  | _ => []

end BattleAdvisor
