import BattleAdvisor.Json.Value
import BattleAdvisor.Json.FloatText
import BattleAdvisor.Text.Hex

/-!
# Writing values

Values are written without any space between the tokens, members in the order of their list. In a
string only quotes, backslashes and control characters are escaped.
-/

namespace BattleAdvisor.Json

open BattleAdvisor.Text

/-- A character inside a string. -/
def escapedChar (c : Char) : List Char :=
  if c = '"' then ['\\', '"']
  else if c = '\\' then ['\\', '\\']
  else if 0x20 ≤ c.toNat then [c]
  else match c.toNat with
    | 0x08 => ['\\', 'b']
    | 0x09 => ['\\', 't']
    | 0x0A => ['\\', 'n']
    | 0x0C => ['\\', 'f']
    | 0x0D => ['\\', 'r']
    | n => ['\\', 'u', '0', '0', Hex.lower (n / 16), Hex.lower (n % 16)]

/-- A string with its quotes. -/
def stringText (s : String) : List Char :=
  '"' :: s.toList.flatMap escapedChar ++ ['"']

/-- A whole number. -/
def integerText (n : Int) : List Char :=
  (if n < 0 then ['-'] else []) ++ Nat.toDigits 10 n.natAbs

/-- A number. -/
def Number.chars : Number → List Char
  | .integer n => integerText n
  | .float x => floatText x

mutual

/-- The text of a value. -/
def Value.chars : Value → List Char
  | .null => ['n', 'u', 'l', 'l']
  | .bool true => ['t', 'r', 'u', 'e']
  | .bool false => ['f', 'a', 'l', 's', 'e']
  | .number n => n.chars
  | .string s => stringText s
  | .array [] => ['[', ']']
  | .array (item :: rest) => '[' :: item.chars ++ Value.itemsText rest
  | .object [] => ['\x7b', '\x7d']
  | .object ((key, value) :: rest) =>
    '\x7b' :: stringText key ++ ':' :: value.chars ++ Value.membersText rest

/-- The items after the first one, up to the end of the array. -/
def Value.itemsText : List Value → List Char
  | [] => [']']
  | item :: rest => ',' :: item.chars ++ Value.itemsText rest

/-- The members after the first one, up to the end of the object. -/
def Value.membersText : List (String × Value) → List Char
  | [] => ['\x7d']
  | (key, value) :: rest =>
    ',' :: stringText key ++ ':' :: value.chars ++ Value.membersText rest

end

/-- The text of a value. -/
def Value.write (value : Value) : String :=
  String.ofList value.chars

end BattleAdvisor.Json
