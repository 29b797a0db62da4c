/-!
# Values of the data format

Battles, preferences and everything that the remote service sends and receives are JSON. A
number is an integer or a floating-point number, and the two stay apart: `1` and `1.0` are
different values.

The members of an object are a list of pairs. Objects that were read have their members in
ascending order of keys, each key once: `Members.put` keeps both, and lets the last of several
values for a key win. Objects built for a request keep the order in which they were built.
-/

namespace BattleAdvisor.Json

/-- A number. -/
inductive Number where
  /-- A whole number in the range of 64-bit words, signed or unsigned. -/
  | integer (n : Int)
  /-- Any other number. -/
  | float (x : Float)

/-- A value. -/
inductive Value where
  | null
  | bool (b : Bool)
  | number (n : Number)
  | string (s : String)
  | array (items : List Value)
  | object (members : List (String × Value))

instance : Inhabited Value := ⟨.null⟩

/-- The members of an object. -/
abbrev Members := List (String × Value)

/-- Sets the value of a key. The keys stay in ascending order. -/
def Members.put (key : String) (value : Value) : Members → Members
  | [] => [(key, value)]
  | (k, v) :: rest =>
    if key < k then (key, value) :: (k, v) :: rest
    else if key = k then (key, value) :: rest
    else (k, v) :: Members.put key value rest

namespace Value

/-- The value of an object's member. A value of another kind has no members. -/
def member? (key : String) : Value → Option Value
  | .object members => members.lookup key
  | _ => none

/-- The items of an array. -/
def items? : Value → Option (List Value)
  | .array items => some items
  | _ => none

/-- The text of a string. -/
def text? : Value → Option String
  | .string s => some s
  | _ => none

end Value

end BattleAdvisor.Json
