import BattleAdvisor.Json.Reader

/-!
# Skipping values

Members with unknown keys are passed over without building their values. Only their spelling is
checked: arrays and objects may be nested to any depth, numbers may be of any size, and escaped
surrogates need no partner.

`skipValue` and `skipRest` work through the text with a stack of the brackets that are open, so
that the depth of a value costs no recursion. Each step passes over at least one character, and the
number of steps is bounded by the length of the text.
-/

namespace BattleAdvisor.Json

/-- Passes over a string behind its opening quote. -/
def skipString : Reader Unit
  | [] => failBefore .endInString []
  | c :: rest =>
    if c = '"' then .ok ((), rest)
    else if c = '\\' then
      match rest with
      | [] => failBefore .endInString []
      | e :: rest =>
        if e = 'u' then
          match rest with
          | h₁ :: h₂ :: h₃ :: h₄ :: rest =>
            match hexCode? h₁ h₂ h₃ h₄ with
            | none => failHex (h₁ :: h₂ :: h₃ :: h₄ :: rest)
            | some _ => skipString rest
          | rest => failHex rest
        else match unescape? e with
          | some _ => skipString rest
          | none => failAt .badEscape (e :: rest)
    else if c.toNat < 0x20 then failBefore .controlCharacter (c :: rest)
    else skipString rest

/-- Passes over an exponent behind its mark. -/
def skipExponent : Reader Unit := fun text =>
  let text := match text with
    | '+' :: rest => rest
    | '-' :: rest => rest
    | rest => rest
  match text with
  | [] => failBefore .badNumber []
  | c :: rest =>
    if c.isDigit then .ok ((), (skipDigits 0 rest).2) else failAt .badNumber (c :: rest)

/-- Passes over an exponent, if there is one. -/
def skipTail : Reader Unit := fun rest =>
  if startsWithExponent rest then skipExponent (rest.drop 1) else .ok ((), rest)

/-- Passes over what may follow the whole digits of a number. -/
def skipAfterWhole : Reader Unit
  | '.' :: rest =>
    if startsWithDigit rest then skipTail (skipDigits 0 rest).2 else failAt .badNumber rest
  | rest => skipTail rest

/-- Passes over a number behind its sign. -/
def skipNumber : Reader Unit
  | [] => failBefore .badNumber []
  | c :: rest =>
    if c = '0' then
      if startsWithDigit rest then failAt .badNumber rest else skipAfterWhole rest
    else if c.isDigit then skipAfterWhole (skipDigits 0 rest).2
    else failAt .badNumber (c :: rest)

/-- Passes over a key behind its opening quote, and the colon behind it. -/
def skipKey : Reader Unit := fun text =>
  match skipString text with
  | .error failure => .error failure
  | .ok ((), rest) => readColon rest

/-- Passes over a key and the colon behind it. -/
def skipQuotedKey : Reader Unit := fun text =>
  match skipGap text with
  | [] => failBefore .endInObject []
  | c :: rest => if c = '"' then skipKey rest else failAt .keyNotString (c :: rest)

/-- What is open around a value. -/
inductive Bracket where
  | array
  | object
  deriving DecidableEq, Repr

/-- The character that closes a bracket. -/
def Bracket.close : Bracket → Char
  | .array => ']'
  | .object => '\x7d'

/-- The cause of a failure where the text ends behind a value. -/
def Bracket.atEnd : Bracket → Cause
  | .array => .endInArray
  | .object => .endInObject

/-- The cause of a failure where neither a comma nor the closing character follows a value. -/
def Bracket.unclosed : Bracket → Cause
  | .array => .noArrayEnd
  | .object => .noObjectEnd

/-- Passes over what stands in front of the next value: nothing in an array, a key in an object. -/
def Bracket.skipKey : Bracket → Reader Unit
  | .array => fun text => .ok ((), text)
  | .object => skipQuotedKey

mutual

/-- Passes over a value and then over what closes the open brackets. -/
def skipValue : (steps : Nat) → (opened : List Bracket) → Reader Unit
  | 0, _ => failBefore .endInValue
  | steps + 1, opened => fun text =>
    match skipGap text with
    | [] => failBefore .endInValue []
    | c :: rest =>
      if c = '[' ∨ c = '\x7b' then
        let bracket : Bracket := if c = '[' then .array else .object
        match skipGap rest with
        | [] => failBefore bracket.atEnd []
        | d :: rest =>
          if d = bracket.close then skipRest steps opened rest
          else match bracket.skipKey (d :: rest) with
            | .error failure => .error failure
            | .ok ((), rest) => skipValue steps (bracket :: opened) rest
      else
        let result :=
          if c = 'n' then readWord ['u', 'l', 'l'] rest
          else if c = 't' then readWord ['r', 'u', 'e'] rest
          else if c = 'f' then readWord ['a', 'l', 's', 'e'] rest
          else if c = '-' then skipNumber rest
          else if c.isDigit then skipNumber (c :: rest)
          else if c = '"' then skipString rest
          else failAt .noValue (c :: rest)
        match result with
        | .error failure => .error failure
        | .ok ((), rest) => skipRest steps opened rest

/-- Passes over what follows a value up to the end of the open brackets. -/
def skipRest : (steps : Nat) → (opened : List Bracket) → Reader Unit
  | _, [] => fun text => .ok ((), text)
  | 0, bracket :: _ => failBefore bracket.atEnd
  | steps + 1, bracket :: opened => fun text =>
    match skipGap text with
    | [] => failBefore bracket.atEnd []
    | c :: rest =>
      if c = ',' then
        match bracket.skipKey rest with
        | .error failure => .error failure
        | .ok ((), rest) => skipValue steps (bracket :: opened) rest
      else if c = bracket.close then skipRest steps opened rest
      else failAt bracket.unclosed (c :: rest)

end

/-- Passes over one value, in a text whose length is at most `bound`. -/
def skip (bound : Nat) : Reader Unit :=
  skipValue (bound + 1) []

end BattleAdvisor.Json
