import BattleAdvisor.Environment.Line
import BattleAdvisor.FileSystem.Resolve

/-!
# Environment files

A file is a sequence of lines. Quotes and backslashes may keep a line open beyond its end, so the
file is first cut into whole lines; a comment behind a single blank is cut off on the way. Lines are
then taken one after another, each with the variables that the lines before it defined, up to the
first that cannot be read. A variable that has a value keeps it; the program breaks down over a new
value with a zero character.
-/

namespace BattleAdvisor.Environment

open BattleAdvisor.Text BattleAdvisor.Json

/-- What keeps a line open. -/
inductive Openness where
  /-- Nothing. -/
  | closed
  /-- A blank, behind which a comment may begin. -/
  | blank
  | escape
  | quote
  | quoteEscape
  | doubleQuote
  | doubleQuoteEscape
  deriving DecidableEq, Repr

/-- A character where nothing is open. -/
def Openness.ofChar (c : Char) : Openness :=
  if c = '\\' then .escape
  else if c = '"' then .doubleQuote
  else if c = '\'' then .quote
  else .closed

/-- What is open behind a character. -/
def Openness.step : Openness → Char → Openness
  | .closed, c => if isBlank c ∧ c ≠ '\n' ∧ c ≠ '\r' then .blank else .ofChar c
  | .blank, c => .ofChar c
  | .escape, _ => .closed
  | .quote, c => if c = '\\' then .quoteEscape else if c = '\'' then .closed else .quote
  | .quoteEscape, _ => .quote
  | .doubleQuote, c =>
    if c = '\\' then .doubleQuoteEscape else if c = '"' then .closed else .doubleQuote
  | .doubleQuoteEscape, _ => .doubleQuote

/-- What is open behind a text; or the text before a comment, if one begins. `done` holds the
characters so far, last first. -/
def scanLine (opened : Openness) (done : List Char) : List Char → Openness ⊕ List Char
  | [] => .inl opened
  | c :: rest =>
    if opened = .blank ∧ c = '#' then .inr done.reverse
    else scanLine (opened.step c) (c :: done) rest

/-- The text without the line end at its end. -/
def dropLineEnd (line : List Char) : List Char :=
  match line.reverse with
  | '\n' :: '\r' :: rest => rest.reverse
  | '\n' :: rest => rest.reverse
  | _ => line

/-- Why a file cannot be read to its end. -/
inductive FileError where
  | io (error : IoError)
  | line (error : LineError)

/-- The wording of an error. -/
def FileError.message : FileError → String
  | .io error => error.message
  | .line error => error.message

/-- The whole lines of which the given ones are parts. `held` is what an open line holds so far. The
list ends with the first error. -/
def wholeLines (opened : Openness) (held : List Char) :
    List Bytes → List (Except FileError (List Char))
  | [] => if opened = .closed then [] else [.error (.line ⟨held, byteCount held⟩)]
  | part :: rest =>
    match Utf8.decode? part with
    | none => [.error (.io .notText)]
    | some text =>
      let line := held ++ text.toList
      if (trimStart line).head? = some '#' then wholeLines .closed [] rest
      else match scanLine opened [] text.toList with
        | .inr before => .ok (held ++ before) :: wholeLines .closed [] rest
        | .inl .closed => .ok (dropLineEnd line) :: wholeLines .closed [] rest
        | .inl opened => wholeLines opened line rest

/-- Cuts bytes behind each line feed; `done` holds the bytes since the last one, last first. -/
def cutLines (done : Bytes) : Bytes → List Bytes
  | [] => if done = [] then [] else [done.reverse]
  | b :: rest =>
    if b = 0x0A then (b :: done).reverse :: cutLines [] rest else cutLines (b :: done) rest

/-- The content without the mark of its encoding at its front. -/
def dropMark : Bytes → Bytes
  | 0xEF :: 0xBB :: 0xBF :: rest => rest
  | content => content

/-- Takes lines in turn. -/
def takeLines (environment : Environment) :
    List (Except FileError (List Char)) → Except Crash (Option FileError × Environment)
  | [] => .ok (none, environment)
  | .error error :: _ => .ok (some error, environment)
  | .ok line :: rest =>
    match readLine (fun name => (environment.get? name).getD "") line with
    | .error error => .ok (some (.line error), environment)
    | .ok none => takeLines environment rest
    | .ok (some (name, value)) =>
      match environment.define name value with
      | .error crash => .error crash
      | .ok environment => takeLines environment rest

/-- Takes the lines of a file's content. -/
def takeContent (environment : Environment) (content : Bytes) :
    Except Crash (Option FileError × Environment) :=
  environment.takeLines (wholeLines .closed [] (cutLines [] (dropMark content)))

/-- Takes the lines of a file. What comes before an error is kept. -/
def takeFile (environment : Environment) (fs : FileSystem) (path : Path) :
    Except Crash (Option FileError × Environment) :=
  match fs.read path with
  | .error error => .ok (some (.io error), environment)
  | .ok content => environment.takeContent content

end BattleAdvisor.Environment
