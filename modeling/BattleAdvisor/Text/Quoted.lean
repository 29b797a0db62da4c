import BattleAdvisor.Text.Hidden

/-!
# Quoted text

A text in double quotes, as error messages show it: quotes and backslashes stand behind a
backslash, the usual control characters have their letters, and every other character that does
not show by itself is written by its code point.
-/

namespace BattleAdvisor.Text

/-- A character inside quotes. -/
def quotedChar (c : Char) : List Char :=
  match c with
  | '\x00' => ['\\', '0']
  | '\t' => ['\\', 't']
  | '\r' => ['\\', 'r']
  | '\n' => ['\\', 'n']
  | '\\' => ['\\', '\\']
  | '"' => ['\\', '"']
  | c =>
    if isHidden c then ['\\', 'u', '\x7b'] ++ Nat.toDigits 16 c.toNat ++ ['\x7d'] else [c]

/-- The text in quotes. -/
def quoted (text : String) : String :=
  String.ofList ('"' :: text.toList.flatMap quotedChar ++ ['"'])

end BattleAdvisor.Text
