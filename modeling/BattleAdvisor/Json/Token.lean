import BattleAdvisor.Json.Failure

/-!
# Tokens

The readers of everything that has no parts: blanks between tokens, the words `null`, `true` and
`false`, strings, and numbers.

A number's text is read into a decimal `significand · 10^exponent`, of which the significand fits
64 bits: digits that no longer fit are dropped, and those before the point still count into the
exponent. `Scaled.toFloat?` scales the significand by a power of ten that is itself a floating-point
number, which rounds once for the significand and once for the product or quotient; very small
numbers take further steps.
-/

namespace BattleAdvisor.Json

open BattleAdvisor.Text

/-- Whether a character may stand between two tokens. -/
def isGap (c : Char) : Bool :=
  c = ' ' || c = '\n' || c = '\t' || c = '\r'

/-- The text from the next token on. -/
def skipGap (text : List Char) : List Char :=
  text.dropWhile isGap

/-! ## Words -/

/-- Reads the given letters. -/
def readWord : List Char → Reader Unit
  | [], rest => .ok ((), rest)
  | _ :: _, [] => failBefore .endInValue []
  | letter :: word, c :: rest =>
    if c = letter then readWord word rest else failAt .noWord (c :: rest)

/-! ## Strings -/

/-- The number that four hexadecimal digits write. -/
def hexCode? (a b c d : Char) : Option Nat :=
  match Hex.value? a, Hex.value? b, Hex.value? c, Hex.value? d with
  | some a, some b, some c, some d => some (((a * 16 + b) * 16 + c) * 16 + d)
  | _, _, _, _ => none

/-- Fails where four hexadecimal digits are wanted: too little text ends the string, other bytes are
no escape. -/
def failHex {α : Type} (rest : List Char) : Except Failure α :=
  if byteCount rest < 4 then .error ⟨.endInString, 0⟩ else failInside 4 .badEscape rest

/-- The character that a letter behind a backslash stands for. -/
def unescape? : Char → Option Char
  | '"' => some '"'
  | '\\' => some '\\'
  | '/' => some '/'
  | 'b' => some '\x08'
  | 'f' => some '\x0c'
  | 'n' => some '\n'
  | 'r' => some '\r'
  | 't' => some '\t'
  | _ => none

/-- Whether a code is the first half of a surrogate pair. -/
def isLeading (n : Nat) : Bool :=
  0xD800 ≤ n && n ≤ 0xDBFF

/-- Whether a code is the second half of a surrogate pair. -/
def isTrailing (n : Nat) : Bool :=
  0xDC00 ≤ n && n ≤ 0xDFFF

/-- The character that a surrogate pair encodes. -/
def joinPair (leading trailing : Nat) : Char :=
  Char.ofNat (0x10000 + (leading - 0xD800) * 0x400 + (trailing - 0xDC00))

/-- Reads a string behind its opening quote; `done` holds its characters so far, last first.
Surrogates have to come in pairs. -/
def readStringFrom (done : List Char) : Reader String
  | [] => failBefore .endInString []
  | c :: rest =>
    if c = '"' then .ok (String.ofList done.reverse, rest)
    else if c = '\\' then
      match rest with
      | [] => failBefore .endInString []
      | e :: rest =>
        if e = 'u' then
          match rest with
          | h₁ :: h₂ :: h₃ :: h₄ :: rest =>
            match hexCode? h₁ h₂ h₃ h₄ with
            | none => failHex (h₁ :: h₂ :: h₃ :: h₄ :: rest)
            | some code =>
              if isTrailing code then failBefore .loneSurrogate rest
              else if isLeading code then
                match rest with
                | [] => failBefore .endInString []
                | b :: rest =>
                  if b = '\\' then
                    match rest with
                    | [] => failBefore .endInString []
                    | u :: rest =>
                      if u = 'u' then
                        match rest with
                        | l₁ :: l₂ :: l₃ :: l₄ :: rest =>
                          match hexCode? l₁ l₂ l₃ l₄ with
                          | none => failHex (l₁ :: l₂ :: l₃ :: l₄ :: rest)
                          | some second =>
                            if isTrailing second then
                              readStringFrom (joinPair code second :: done) rest
                            else failBefore .loneSurrogate rest
                        | rest => failHex rest
                      else failAt .brokenPair (u :: rest)
                  else failAt .brokenPair (b :: rest)
              else readStringFrom (Char.ofNat code :: done) rest
          | rest => failHex rest
        else match unescape? e with
          | some plain => readStringFrom (plain :: done) rest
          | none => failAt .badEscape (e :: rest)
    else if c.toNat < 0x20 then failAt .controlCharacter (c :: rest)
    else readStringFrom (c :: done) rest

/-- Reads a string behind its opening quote. -/
def readString : Reader String :=
  readStringFrom []

/-! ## Numbers -/

/-- The value of a decimal digit. -/
def digitValue (c : Char) : Nat :=
  c.toNat - 0x30

/-- The least number that does not fit 64 bits. -/
def wordLimit : Nat := 0x10000000000000000

/-- Reads digits into the significand as long as it fits 64 bits; counts them. -/
def readDigits (significand count : Nat) : List Char → Nat × Nat × List Char
  | [] => (significand, count, [])
  | c :: rest =>
    if c.isDigit && significand * 10 + digitValue c < wordLimit then
      readDigits (significand * 10 + digitValue c) (count + 1) rest
    else (significand, count, c :: rest)

/-- Skips digits and counts them. -/
def skipDigits (count : Nat) : List Char → Nat × List Char
  | [] => (count, [])
  | c :: rest => if c.isDigit then skipDigits (count + 1) rest else (count, c :: rest)

/-- Whether the text goes on with a digit. -/
def startsWithDigit : List Char → Bool
  | [] => false
  | c :: _ => c.isDigit

/-- Whether the text goes on with the mark of an exponent. -/
def startsWithExponent : List Char → Bool
  | [] => false
  | c :: _ => c = 'e' || c = 'E'

/-- A decimal `significand · 10^exponent` without its sign. -/
structure Scaled where
  significand : Nat
  exponent : Int

/-- The greatest power of ten that is a floating-point number has this exponent. -/
def greatestPower : Nat := 308

/-- The floating-point power of ten. -/
def powerOfTen (exponent : Nat) : Float :=
  Float.ofScientific 1 false exponent

/-- Divides by ten to the power `exponent`, in steps of at most `greatestPower`, until nothing is
left of the number; `fuel` bounds the steps. -/
def shrink : (fuel : Nat) → Float → (exponent : Nat) → Float
  | 0, x, _ => x
  | fuel + 1, x, exponent =>
    if exponent ≤ greatestPower then x / powerOfTen exponent
    else if x == 0.0 then x
    else shrink fuel (x / powerOfTen greatestPower) (exponent - greatestPower)

/-- The floating-point number of a decimal, unless it is too large. -/
def Scaled.toFloat? (x : Scaled) : Option Float :=
  let significand := Float.ofNat x.significand
  if x.exponent < 0 then some (shrink (x.exponent.natAbs + 1) significand x.exponent.natAbs)
  else if greatestPower < x.exponent.natAbs then
    if significand == 0.0 then some significand else none
  else
    let product := significand * powerOfTen x.exponent.natAbs
    if product.isInf then none else some product

/-- The sign in front of a floating-point number. -/
def withSign (positive : Bool) (x : Float) : Float :=
  if positive then x else -x

/-- The number of a decimal that ends in front of the rest. -/
def finishFloat (positive : Bool) (x : Scaled) : Reader Number := fun rest =>
  match x.toFloat? with
  | some value => .ok (.float (withSign positive value), rest)
  | none => failBefore .numberTooLarge rest

/-- The range of exponents; what goes beyond it is cut to its ends. -/
def cutExponent (exponent : Int) : Int :=
  max (-0x80000000) (min exponent 0x7FFFFFFF)

/-- The decimal with a written exponent. -/
def Scaled.raise (x : Scaled) (negative : Bool) (exponent : Nat) : Scaled :=
  let written : Int := if negative then -(exponent : Int) else exponent
  ⟨x.significand, cutExponent (x.exponent + written)⟩

/-- Reads the digits of an exponent behind the first one. If they go beyond 31 bits, a number that
is zero or has a negative exponent is zero, and any other is too large. -/
def readExponentDigits (positive negative : Bool) (x : Scaled) (exponent : Nat) : Reader Number
  | [] => finishFloat positive (x.raise negative exponent) []
  | c :: rest =>
    if c.isDigit then
      let next := exponent * 10 + digitValue c
      if next < 0x80000000 then readExponentDigits positive negative x next rest
      else if x.significand ≠ 0 ∧ negative = false then failBefore .numberTooLarge rest
      else .ok (.float (withSign positive 0.0), (skipDigits 0 rest).2)
    else finishFloat positive (x.raise negative exponent) (c :: rest)

/-- Reads an exponent behind its mark. -/
def readExponent (positive : Bool) (x : Scaled) : Reader Number := fun text =>
  let (negative, text) : Bool × List Char := match text with
    | '+' :: rest => (false, rest)
    | '-' :: rest => (true, rest)
    | rest => (false, rest)
  match text with
  | [] => failBefore .endInValue []
  | c :: rest =>
    if c.isDigit then readExponentDigits positive negative x (digitValue c) rest
    else failAt .badNumber (c :: rest)

/-- Reads what may follow the digits of a number that is not whole. -/
def readTail (positive : Bool) (x : Scaled) : Reader Number := fun rest =>
  if startsWithExponent rest then readExponent positive x (rest.drop 1)
  else finishFloat positive x rest

/-- Reads a fraction behind its point. -/
def readFraction (positive : Bool) (x : Scaled) : Reader Number := fun text =>
  let (significand, count, rest) := readDigits x.significand 0 text
  let scaled : Scaled := ⟨significand, x.exponent - count⟩
  if startsWithDigit rest then readTail positive scaled (skipDigits 0 rest).2
  else if count = 0 then
    failAt (if rest = [] then .endInValue else .badNumber) rest
  else readTail positive scaled rest

/-- The number that whole digits stand for. Negative zero is no whole number, and neither is a
negative number below the signed range. -/
def wholeNumber (positive : Bool) (significand : Nat) : Number :=
  if positive then .integer significand
  else if 0 < significand ∧ significand ≤ 0x8000000000000000 then .integer (-(significand : Int))
  else .float (-(Float.ofNat significand))

/-- Reads what follows the whole digits of a number. -/
def readAfterWhole (positive : Bool) (significand : Nat) : Reader Number := fun rest =>
  if startsWithDigit rest then
    let (dropped, rest) := skipDigits 0 rest
    let scaled : Scaled := ⟨significand, dropped⟩
    match rest with
    | '.' :: rest => readFraction positive scaled rest
    | rest => readTail positive scaled rest
  else match rest with
    | '.' :: rest => readFraction positive ⟨significand, 0⟩ rest
    | rest =>
      if startsWithExponent rest then readExponent positive ⟨significand, 0⟩ (rest.drop 1)
      else .ok (wholeNumber positive significand, rest)

/-- Reads a number behind its sign. A number begins with one zero or with another digit. -/
def readNumber (positive : Bool) : Reader Number
  | [] => failBefore .endInValue []
  | c :: rest =>
    if c = '0' then
      if startsWithDigit rest then failAt .badNumber rest else readAfterWhole positive 0 rest
    else if c.isDigit then
      let (significand, _, rest) := readDigits (digitValue c) 1 rest
      readAfterWhole positive significand rest
    else failAt .badNumber (c :: rest)

end BattleAdvisor.Json
