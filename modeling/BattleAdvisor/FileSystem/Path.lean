import BattleAdvisor.Text.Split
import BattleAdvisor.Text.Utf8

/-!
# Paths

A path is a sequence of bytes; a slash separates its pieces. Its *components* are what it means:
repeated and trailing slashes vanish, and so do pieces `.`, except one at the front of a relative
path. A path relative to another keeps the spelling of its inner pieces.
-/

namespace BattleAdvisor

/-- The name of a file, a directory or a link. -/
abbrev Name := Bytes

/-- A path. -/
structure Path where
  bytes : Bytes
  deriving DecidableEq, Repr

namespace Path

/-- The byte that separates the pieces of a path. -/
def slash : UInt8 := 0x2F

/-- The byte that separates a name from its extension. -/
def dot : UInt8 := 0x2E

/-- The piece that means the directory itself. -/
def here : Name := [dot]

/-- The piece that means the directory above. -/
def above : Name := [dot, dot]

/-- The path that a text spells. -/
def ofString (text : String) : Path :=
  ⟨Utf8.encode text⟩

/-- The path as a text. -/
def display (p : Path) : String :=
  Utf8.lossy p.bytes

/-- The pieces between slashes, empty ones included. -/
def pieces (p : Path) : List Name :=
  Text.split (· = slash) p.bytes

/-- The path with the given pieces. -/
def ofPieces (pieces : List Name) : Path :=
  ⟨(pieces.intersperse [slash]).flatten⟩

/-- Whether a path starts at the top directory. -/
def isAbsolute (p : Path) : Bool :=
  p.bytes.head? = some slash

/-- Whether a path ends with a slash. -/
def endsInSlash (p : Path) : Bool :=
  p.bytes.getLast? = some slash

/-! ## Components -/

/-- A part of the meaning of a path. -/
inductive Component where
  | root
  | here
  | above
  | name (name : Name)
  deriving DecidableEq, Repr

/-- Whether a piece means nothing behind another one. -/
def isIdle (piece : Name) : Bool :=
  piece = [] || piece = Path.here

/-- The component that a piece means. -/
def Component.ofPiece (piece : Name) : Component :=
  if piece = Path.above then .above else .name piece

/-- How a path begins, and the pieces behind that. -/
def parts (p : Path) : Option Component × List Name :=
  match p.pieces with
  | [] => (none, [])
  | first :: rest =>
    if p.isAbsolute then (some .root, rest)
    else if first = Path.here then (some .here, rest)
    else (none, first :: rest)

/-- The components of a path. -/
def components (p : Path) : List Component :=
  let (front, body) := p.parts
  front.toList ++ (body.filter fun piece => !isIdle piece).map Component.ofPiece

/-- Leaves out the idle pieces at the end. -/
def trimPieces (pieces : List Name) : List Name :=
  (pieces.reverse.dropWhile isIdle).reverse

/-- The path that begins as told and goes on with the given pieces. -/
def ofParts (front : Option Component) (body : List Name) : Path :=
  match front with
  | some .root => ⟨slash :: (ofPieces body).bytes⟩
  | some .here => if body = [] then ⟨Path.here⟩ else ofPieces (Path.here :: body)
  | _ => ofPieces body

/-! ## Operations -/

/-- A path below a directory. An absolute path stays as it is. -/
def join (p q : Path) : Path :=
  if q.isAbsolute ∨ p.bytes = [] then q
  else if p.endsInSlash then ⟨p.bytes ++ q.bytes⟩
  else ⟨p.bytes ++ slash :: q.bytes⟩

/-- The pieces behind the first `count` ones that are not idle, from the next one that is not
idle. -/
def dropPieces : (count : Nat) → List Name → List Name
  | _, [] => []
  | count, piece :: rest =>
    if isIdle piece then dropPieces count rest
    else match count with
      | 0 => piece :: rest
      | count + 1 => dropPieces count rest

/-- What follows the first components of a path, in its own spelling. -/
def afterComponents (p : Path) (count : Nat) : Path :=
  let (front, body) := p.parts
  match count, front with
  | 0, front => ofParts front (trimPieces body)
  | count + 1, some _ => ofPieces (trimPieces (dropPieces count body))
  | count + 1, none => ofPieces (trimPieces (dropPieces (count + 1) body))

/-- A path below a directory, relative to it; a path that is not below it stays as it is. -/
def relativeTo (p base : Path) : Path :=
  if base.components.isPrefixOf p.components then p.afterComponents base.components.length else p

/-- The last component, if it is a name. -/
def fileName? (p : Path) : Option Name :=
  match p.components.getLast? with
  | some (.name name) => some name
  | _ => none

/-- What follows the last dot of a name, unless the name begins with that dot or has none. -/
def nameExtension? (name : Name) : Option Bytes :=
  let extension := (name.reverse.takeWhile (· ≠ dot)).reverse
  if extension.length + 1 < name.length then some extension else none

/-- The extension of the last component. -/
def extension? (p : Path) : Option Bytes :=
  p.fileName?.bind nameExtension?

/-- The path of the directory around the last component. -/
def parent? (p : Path) : Option Path :=
  let (front, body) := p.parts
  match trimPieces body, front with
  | [], some .here => some ⟨[]⟩
  | [], _ => none
  | body, front => some (ofParts front (trimPieces body.dropLast))

/-- The pieces to follow from directory to directory. A slash at the end asks for a directory. -/
def steps (p : Path) : List Name :=
  (p.pieces.filter (· ≠ [])) ++ if p.endsInSlash then [Path.here] else []

end Path

end BattleAdvisor
