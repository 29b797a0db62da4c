import BattleAdvisor.Text.Blank

/-!
# Placeholders

A placeholder for a key is `$`, two opening braces, any blanks, the key, any blanks, and two closing
braces. The key is taken letter by letter, whatever characters it holds.

`substitute` goes through a template once, from left to right, and puts a value for each placeholder
of one of the given keys. What it puts is not looked at again. `fill` does this for one key.
-/

namespace BattleAdvisor.Prompt

open BattleAdvisor.Text

/-- How a placeholder begins. -/
def opening : List Char := ['$', '\x7b', '\x7b']

/-- How a placeholder ends. -/
def closing : List Char := ['\x7d', '\x7d']

/-- The length of blanks and the end of a placeholder, if the text begins with them. -/
def closingLength? : List Char → Option Nat
  | [] => none
  | c :: rest =>
    if isBlank c then (closingLength? rest).map (· + 1)
    else if closing.isPrefixOf (c :: rest) then some closing.length
    else none

/-- The length of blanks, a key, and what ends a placeholder, if the text begins with them. A key
that may itself begin with blanks is taken at the first place where it fits: what ends the
placeholder is then the same as at any later place. -/
def bodyLength? (key : List Char) : List Char → Option Nat
  | [] => if key = [] then closingLength? [] else none
  | c :: rest =>
    if key.isPrefixOf (c :: rest) then
      (closingLength? ((c :: rest).drop key.length)).map (key.length + ·)
    else if isBlank c then (bodyLength? key rest).map (· + 1)
    else none

/-- The length of the placeholder for a key with which a text begins. -/
def placeholderLength? (key text : List Char) : Option Nat :=
  if opening.isPrefixOf text then
    (bodyLength? key (text.drop opening.length)).map (opening.length + ·)
  else none

/-- The length of the placeholder with which a text begins, and the value to put for it. -/
def match? (values : List (List Char × List Char)) (text : List Char) :
    Option (Nat × List Char) :=
  values.findSome? fun (key, value) => (placeholderLength? key text).map fun n => (n, value)

/-- Goes through a text; `skip` is the number of characters to leave out first, and `done` holds
what is written so far, last first. -/
def substituteFrom (values : List (List Char × List Char)) :
    (skip : Nat) → (done : List Char) → List Char → List Char
  | _, done, [] => done.reverse
  | skip + 1, done, _ :: rest => substituteFrom values skip done rest
  | 0, done, c :: rest =>
    match match? values (c :: rest) with
    | some (n, value) => substituteFrom values (n - 1) (value.reverse ++ done) rest
    | none => substituteFrom values 0 (c :: done) rest

/-- The template with the value of its key for each placeholder. -/
def substitute (template : String) (values : List (String × String)) : String :=
  String.ofList <|
    substituteFrom (values.map fun (key, value) => (key.toList, value.toList)) 0 [] template.toList

/-- The template with the value for each placeholder for the key. -/
def fill (template key value : String) : String :=
  substitute template [(key, value)]

end BattleAdvisor.Prompt
