import BattleAdvisor.Text.Ranges

/-!
# Blanks

The characters with the property White_Space, and texts without the blanks at their ends.
-/

namespace BattleAdvisor.Text

/-- The code points of blanks. -/
def blankRanges : Ranges :=
  [(0x09, 0x0D), (0x20, 0x20), (0x85, 0x85), (0xA0, 0xA0), (0x1680, 0x1680), (0x2000, 0x200A),
   (0x2028, 0x2029), (0x202F, 0x202F), (0x205F, 0x205F), (0x3000, 0x3000)]

/-- Whether a character is blank. -/
def isBlank (c : Char) : Bool :=
  blankRanges.has c

/-- The text from its first character that is not blank. -/
def trimStart (text : List Char) : List Char :=
  text.dropWhile isBlank

/-- The text up to its last character that is not blank. -/
def trimEnd (text : List Char) : List Char :=
  (text.reverse.dropWhile isBlank).reverse

/-- The text between its first and its last character that is not blank. -/
def trim (text : String) : String :=
  String.ofList (trimEnd (trimStart text.toList))

end BattleAdvisor.Text
