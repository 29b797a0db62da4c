import BattleAdvisor.CommandLine.Program

/-!
# Described surroundings

The surroundings of a run can be described by a value of the data format, so that a run can be
repeated anywhere: an object with the members

* `environment`, an object that has the value of each variable,
* `files`, an array of objects with a `path` and either a `content`, a `link` or nothing, which
  describe a file, a link and a directory,
* `executable`, the path of the program's own file, and
* `responses`, an array of objects with a `status`, the `headers` and a `body`, which are the
  responses that the network gives in turn. Without this member the network leads nowhere.

All of them may be left out. Relative paths start from the directory `/run`.
-/

namespace BattleAdvisor.CommandLine.Description

open Json (Value)

/-- The text of a member; an absent one is empty. -/
def textOf (key : String) (value : Value) : String :=
  ((value.member? key).bind Value.text?).getD ""

/-- The items of a member; an absent one has none. -/
def itemsOf (key : String) (value : Value) : List Value :=
  ((value.member? key).bind Value.items?).getD []

/-- The members of a member, with the texts that they hold. -/
def textsOf (key : String) (value : Value) : List (String × String) :=
  match value.member? key with
  | some (.object members) => members.map fun (name, content) => (name, content.text?.getD "")
  | _ => []

/-- The directory from which relative paths start. -/
def start : Name := Utf8.encode "run"

/-- Only the directory from which relative paths start. -/
def noFiles : FileSystem :=
  ⟨.directory [(start, .directory [])], [start]⟩

/-- Adds what an object describes, with the directories around it. What cannot be added is left
out. -/
def addFile (fs : FileSystem) (entry : Value) : FileSystem :=
  let path := Path.ofString (textOf "path" entry)
  let around := match path.parent? with
    | some dir => (fs.makeDirectories dir).2
    | none => fs
  match entry.member? "content", entry.member? "link" with
  | some content, _ =>
    (around.write path (Utf8.encode (content.text?.getD ""))).toOption.getD around
  | none, some target =>
    (around.makeLink path (.ofString (target.text?.getD ""))).toOption.getD around
  | none, none => (around.makeDirectories path).2

/-- The response that an object describes. -/
def response (value : Value) : Http.Response where
  status := match value.member? "status" with
    | some (.number (.integer n)) => n.toNat
    | _ => 200
  headers := (textsOf "headers" value).map fun (name, content) => (name, Utf8.encode content)
  body := Utf8.encode (textOf "body" value)

/-- The network that an object describes. -/
def network (value : Value) : Http.Network :=
  match value.member? "responses" with
  | some (.array responses) => .scripted (responses.map fun r => .respond (response r))
  | _ => .unreachable

/-- The surroundings that a value describes. -/
def surroundings (value : Value) : Surroundings where
  environment := ⟨textsOf "environment" value⟩
  files := (itemsOf "files" value).foldl addFile noFiles
  executable := .ofString (textOf "executable" value)
  network := network value

/-- The surroundings that a text describes. -/
def read (text : String) : Except Json.ReadError Surroundings :=
  (Value.parse text).map surroundings

end BattleAdvisor.CommandLine.Description
