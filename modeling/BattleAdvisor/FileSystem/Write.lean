import BattleAdvisor.FileSystem.Resolve

/-!
# Making and changing nodes

Making a directory needs the directory around it; `makeDirectories` makes that first where it is
missing. It may fail after it has made some of them, so it returns the file system in every case.
-/

namespace BattleAdvisor.FileSystem

/-- Sets the node at a location. -/
def put (fs : FileSystem) (location : Location) (node : Node) : FileSystem :=
  { fs with top := node.put location fs.top }

/-- Makes an empty directory. A link at the end of the path is in the way. -/
def makeDirectory (fs : FileSystem) (p : Path) : Except Fault FileSystem :=
  match fs.place false p (p.pieces.filter (· ≠ [])) with
  | .error fault => .error fault
  | .ok (.found _) => .error .exists
  | .ok (.vacant directory name) => .ok (fs.put (directory ++ [name]) (.directory []))

/-- Makes a directory, and those around it where they are missing; `depth` bounds their number. -/
def makeDirectoriesFrom : (depth : Nat) → Path → FileSystem → Except Fault Unit × FileSystem
  | 0, _, fs => (.ok (), fs)
  | depth + 1, p, fs =>
    if p.bytes = [] then (.ok (), fs)
    else match fs.makeDirectory p with
      | .ok fs => (.ok (), fs)
      | .error .noEntry =>
        let (around, fs) := match p.parent? with
          | some dir => makeDirectoriesFrom depth dir fs
          | none => (.ok (), fs)
        match around with
        | .error fault => (.error fault, fs)
        | .ok () =>
          match fs.makeDirectory p with
          | .ok fs => (.ok (), fs)
          | .error fault => (if fs.isDirectory p then .ok () else .error fault, fs)
      | .error fault => (if fs.isDirectory p then .ok () else .error fault, fs)

/-- Makes a directory, and those around it where they are missing. A path has at most one directory
for each of its components. -/
def makeDirectories (fs : FileSystem) (p : Path) : Except Fault Unit × FileSystem :=
  makeDirectoriesFrom (p.components.length + 1) p fs

/-- Makes the file that a path leads to, or replaces its content. -/
def write (fs : FileSystem) (p : Path) (content : Bytes) : Except Fault FileSystem :=
  let pieces := p.pieces.filter (· ≠ [])
  if p.endsInSlash then
    match fs.place true p (pieces.dropLast ++ [Path.here]) with
    | .error fault => .error fault
    | .ok _ => .error .isDirectory
  else match fs.place true p pieces with
    | .error fault => .error fault
    | .ok (.vacant directory name) => .ok (fs.put (directory ++ [name]) (.file content))
    | .ok (.found location) =>
      match fs.top.at? location with
      | some (.file _) => .ok (fs.put location (.file content))
      | _ => .error .isDirectory

/-- Makes a link. -/
def makeLink (fs : FileSystem) (p target : Path) : Except Fault FileSystem :=
  match checkPath target, fs.place false p (p.pieces.filter (· ≠ [])) with
  | .error fault, _ => .error fault
  | .ok (), .error fault => .error fault
  | .ok (), .ok (.found _) => .error .exists
  | .ok (), .ok (.vacant directory name) => .ok (fs.put (directory ++ [name]) (.link target))

/-- Removes a node with everything below it; a link at the end of the path is itself removed. -/
def remove (fs : FileSystem) (p : Path) : Except Fault FileSystem :=
  match fs.find false p with
  | .error fault => .error fault
  | .ok (location, _) => .ok { fs with top := fs.top.remove location }

end BattleAdvisor.FileSystem
