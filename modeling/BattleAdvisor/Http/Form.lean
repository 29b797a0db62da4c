import BattleAdvisor.Http.Percent
import BattleAdvisor.Text.Split

/-!
# Queries

The query of an address is a list of names with values, in the form in which the fields of a web
form are sent: a space is a plus sign, letters, digits and a few marks stand for themselves, and
all other bytes are percent-encoded. `decode` undoes `encode`.
-/

namespace BattleAdvisor.Http.Form

/-- Whether a character stands for itself. -/
def isPlain (c : Char) : Bool :=
  c.isAlphanum || c = '*' || c = '-' || c = '.' || c = '_'

/-- The written form of a name or a value. -/
def encodeText (text : String) : List Char :=
  text.toList.flatMap fun c =>
    if c = ' ' then ['+'] else if isPlain c then [c] else Percent.encodeChar c

/-- The written form of a name with a value. -/
def encodePair (pair : String × String) : List Char :=
  encodeText pair.1 ++ '=' :: encodeText pair.2

/-- The written form of a query. -/
def encode (pairs : List (String × String)) : List Char :=
  ((pairs.map encodePair).intersperse ['&']).flatten

/-- The text that a written name or value stands for. -/
def decodeText (text : List Char) : String :=
  Utf8.lossy (Percent.decode (text.map fun c => if c = '+' then ' ' else c))

/-- The name and the value that a part of a query writes. -/
def decodePair (part : List Char) : String × String :=
  (decodeText (part.takeWhile (· ≠ '=')), decodeText ((part.dropWhile (· ≠ '=')).drop 1))

/-- The names with their values that a query writes. -/
def decode (query : List Char) : List (String × String) :=
  ((Text.split (· = '&') query).filter (· ≠ [])).map decodePair

end BattleAdvisor.Http.Form
