import BattleAdvisor.FileSystem.Resolve

/-!
# Walks through directories

`walk` lists a directory and everything below it, each directory in front of its entries, entries
in ascending order of their names' bytes. Links are listed and not entered, except the directory
itself. Where the walk cannot go on, the list has the failure in place of the entries.

`listing` shows a directory's content as far as its paths lead to it, through links as well.
-/

namespace BattleAdvisor

/-- A path that a walk meets, or the failure that it meets instead. -/
abbrev Visit := Except IoError Path

mutual

/-- What a walk meets below a node with the given path. -/
def Node.visitsBelow (path : Path) : Node → List Visit
  | .directory entries =>
    if pathLimit < path.bytes.length then [.error (.unwalkable path .nameTooLong)]
    else Node.visitsOfEntries path entries
  | _ => []

/-- What a walk meets at the given entries of the directory with the given path. -/
def Node.visitsOfEntries (path : Path) : List (Name × Node) → List Visit
  | [] => []
  | (name, node) :: rest =>
    .ok (path.join ⟨name⟩) ::
      (node.visitsBelow (path.join ⟨name⟩) ++ Node.visitsOfEntries path rest)

end

namespace FileSystem

/-- What a walk through a directory meets. -/
def walk (fs : FileSystem) (dir : Path) : List Visit :=
  match fs.linkStat dir with
  | .error fault => [.error (.unwalkable dir fault)]
  | .ok (.link _) =>
    match fs.stat dir with
    | .error fault => [.error (.unwalkable dir fault)]
    | .ok node => .ok dir :: node.visitsBelow dir
  | .ok node => .ok dir :: node.visitsBelow dir

/-- The content that a path shows: that of a file, and none of a directory or of a link that leads
nowhere. -/
def shown (fs : FileSystem) (p : Path) : Option Bytes :=
  match fs.read p with
  | .ok content => some content
  | .error _ => none

/-- The entries of a directory and of those below it, with the content that each shows. Directories
are entered through links too; `depth` bounds how far. -/
def listingFrom (fs : FileSystem) : (depth : Nat) → Path → List (Path × Option Bytes)
  | 0, _ => []
  | depth + 1, dir =>
    match fs.stat dir with
    | .ok (.directory entries) =>
      entries.flatMap fun (name, _) =>
        (dir.join ⟨name⟩, fs.shown (dir.join ⟨name⟩)) :: listingFrom fs depth (dir.join ⟨name⟩)
    | _ => []

/-- The entries of a directory and of those below it, with the content that each shows. A path that
can be followed has fewer pieces than bytes. -/
def listing (fs : FileSystem) (dir : Path) : List (Path × Option Bytes) :=
  fs.listingFrom pathLimit dir

end FileSystem

end BattleAdvisor
