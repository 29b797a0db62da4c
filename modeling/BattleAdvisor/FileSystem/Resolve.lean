import BattleAdvisor.FileSystem.Basic

/-!
# Finding nodes by path

A path is followed from directory to directory, through links, to a node or to a place in a
directory where a node could be made. A link in the middle of a path is always followed; one at its
end only on demand. The number of links on the way is limited, so that following ends; the function
recurses on the links left, and between two links on the pieces of the path.
-/

namespace BattleAdvisor

/-- The greatest number of links that following a path may meet. -/
def linkLimit : Nat := 40

/-- The greatest number of bytes of a name. -/
def nameLimit : Nat := 255

/-- The greatest number of bytes of a path. -/
def pathLimit : Nat := 4095

/-- Where a path leads. -/
inductive Place where
  /-- To the node at a location. -/
  | found (location : Location)
  /-- To a directory without an entry of that name. -/
  | vacant (directory : Location) (name : Name)
  deriving DecidableEq, Repr

/-- Follows pieces from a location; `afterLink` follows what remains when a link is met. -/
def followFrom (top : Node) (followLast : Bool)
    (afterLink : Location → List Name → Except Fault Place) :
    Location → List Name → Except Fault Place
  | location, [] => .ok (.found location)
  | location, piece :: rest =>
    match top.at? location with
    | some (.directory entries) =>
      if piece = Path.here then followFrom top followLast afterLink location rest
      else if piece = Path.above then followFrom top followLast afterLink location.dropLast rest
      else if nameLimit < piece.length then .error .nameTooLong
      else match entries.lookup piece with
        | none => if rest = [] then .ok (.vacant location piece) else .error .noEntry
        | some (.link target) =>
          if rest = [] ∧ followLast = false then .ok (.found (location ++ [piece]))
          else afterLink (if target.isAbsolute then [] else location) (target.steps ++ rest)
        | some _ => followFrom top followLast afterLink (location ++ [piece]) rest
    | _ => .error .notDirectory

/-- Follows pieces from a location through at most `links` links. -/
def follow (top : Node) (followLast : Bool) :
    (links : Nat) → Location → List Name → Except Fault Place
  | 0 => followFrom top followLast fun _ _ => .error .tooManyLinks
  | links + 1 => followFrom top followLast (follow top followLast links)

namespace FileSystem

/-- Where following starts. -/
def origin (fs : FileSystem) (p : Path) : Location :=
  if p.isAbsolute then [] else fs.current

/-- What the system refuses in a path before it follows it. -/
def checkPath (p : Path) : Except Fault Unit :=
  if p.bytes.contains 0 then .error .zeroByte
  else if p.bytes = [] then .error .noEntry
  else if pathLimit < p.bytes.length then .error .nameTooLong
  else .ok ()

/-- Where a path leads, following the pieces that are given for it. -/
def place (fs : FileSystem) (followLast : Bool) (p : Path) (steps : List Name) :
    Except Fault Place :=
  match checkPath p with
  | .error fault => .error fault
  | .ok () => follow fs.top followLast linkLimit (fs.origin p) steps

/-- The node that a path leads to; with its location. -/
def find (fs : FileSystem) (followLast : Bool) (p : Path) : Except Fault (Location × Node) :=
  match fs.place followLast p p.steps with
  | .error fault => .error fault
  | .ok (.vacant ..) => .error .noEntry
  | .ok (.found location) =>
    match fs.top.at? location with
    | some node => .ok (location, node)
    | none => .error .noEntry

/-- The node that a path leads to through all links. -/
def stat (fs : FileSystem) (p : Path) : Except Fault Node :=
  (fs.find true p).map (·.2)

/-- The node that a path leads to, a link at its end not followed. -/
def linkStat (fs : FileSystem) (p : Path) : Except Fault Node :=
  (fs.find false p).map (·.2)

/-- Whether a path leads to a node. -/
def exists? (fs : FileSystem) (p : Path) : Bool :=
  match fs.stat p with
  | .ok _ => true
  | .error _ => false

/-- Whether a path leads to a directory. -/
def isDirectory (fs : FileSystem) (p : Path) : Bool :=
  match fs.stat p with
  | .ok (.directory _) => true
  | _ => false

/-- Whether a path leads to a file. -/
def isFile (fs : FileSystem) (p : Path) : Bool :=
  match fs.stat p with
  | .ok (.file _) => true
  | _ => false

/-- The content of the file that a path leads to. -/
def read (fs : FileSystem) (p : Path) : Except IoError Bytes :=
  match fs.stat p with
  | .error fault => .error (.refused fault)
  | .ok (.file content) => .ok content
  | .ok _ => .error (.refused .isDirectory)

/-- The content, as a text, of the file that a path leads to. -/
def readText (fs : FileSystem) (p : Path) : Except IoError String :=
  match fs.read p with
  | .error error => .error error
  | .ok content =>
    match Utf8.decode? content with
    | some text => .ok text
    | none => .error .notText

end FileSystem

end BattleAdvisor
