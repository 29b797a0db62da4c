/-!
# Bytes and text

Names of files, contents of files and bodies of messages are bytes; prompts, answers and log lines
are text. This module holds the encoding of text as bytes and two readings of bytes as text:

* `Utf8.decode?` accepts exactly the bytes that encode a text;
* `Utf8.lossy` always gives a text, and puts one replacement character for each longest run of
  bytes that starts a character but cannot be completed to one, and for each byte that can start
  none.

Both run one machine over the bytes, which says byte by byte which characters are complete and
where the encoding breaks.
-/

namespace BattleAdvisor

/-- The content of a file, the body of a message, or the name of a path. -/
abbrev Bytes := List UInt8

namespace Utf8

/-- The bytes of a sequence of characters. -/
def encodeChars (text : List Char) : Bytes :=
  text.flatMap String.utf8EncodeChar

/-- The bytes of a text. -/
def encode (text : String) : Bytes :=
  encodeChars text.toList

/-- Where the machine stands between two bytes. -/
inductive State where
  /-- Between characters. -/
  | between
  /-- Inside a character: how many bytes are missing, the least and the greatest value of the next
  one, and the code point bits read so far. -/
  | inside (missing : Nat) (low high : UInt8) (code : Nat)
  deriving DecidableEq, Repr

/-- The state after the first byte of a character of several bytes. The ranges for the second byte
leave out overlong forms, surrogates and everything above the last code point. -/
def State.ofLead? (b : UInt8) : Option State :=
  let n := b.toNat
  if 0xC2 ≤ n ∧ n ≤ 0xDF then some (.inside 1 0x80 0xBF (n - 0xC0))
  else if n = 0xE0 then some (.inside 2 0xA0 0xBF 0)
  else if n = 0xED then some (.inside 2 0x80 0x9F 0xD)
  else if 0xE1 ≤ n ∧ n ≤ 0xEF then some (.inside 2 0x80 0xBF (n - 0xE0))
  else if n = 0xF0 then some (.inside 3 0x90 0xBF 0)
  else if 0xF1 ≤ n ∧ n ≤ 0xF3 then some (.inside 3 0x80 0xBF (n - 0xF0))
  else if n = 0xF4 then some (.inside 3 0x80 0x8F 4)
  else none

/-- A byte between characters: the new state, and what is complete now. A break is `none`. -/
def State.start (b : UInt8) : State × List (Option Char) :=
  if b.toNat < 0x80 then (.between, [some (Char.ofNat b.toNat)])
  else match State.ofLead? b with
    | some state => (state, [])
    | none => (.between, [none])

/-- One byte: the new state, and the characters and breaks that are complete now, in order. A byte
that cannot continue a character breaks it off and is looked at again as a first byte. -/
def State.step : State → UInt8 → State × List (Option Char)
  | .between, b => State.start b
  | .inside missing low high code, b =>
    if low ≤ b ∧ b ≤ high then
      let code := code * 64 + (b.toNat - 0x80)
      if missing ≤ 1 then (.between, [some (Char.ofNat code)])
      else (.inside (missing - 1) 0x80 0xBF code, [])
    else
      let (state, out) := State.start b
      (state, none :: out)

/-- What is still to be said when the bytes end in this state. -/
def State.finish : State → List (Option Char)
  | .between => []
  | .inside .. => [none]

/-- Runs the machine from a state; `done` holds what is complete so far, last first. -/
def State.run : State → List (Option Char) → Bytes → List (Option Char)
  | state, done, [] => (state.finish.reverse ++ done).reverse
  | state, done, b :: rest =>
    let (state, out) := state.step b
    state.run (out.reverse ++ done) rest

/-- The characters that the bytes encode, with `none` at each break of the encoding. -/
def scan (bytes : Bytes) : List (Option Char) :=
  State.between.run [] bytes

/-- The text that the bytes encode, if they encode one. -/
def decode? (bytes : Bytes) : Option String :=
  let found := scan bytes
  if found.all Option.isSome then some (String.ofList (found.filterMap id)) else none

/-- The text that the bytes encode, with a replacement character at each break. -/
def lossy (bytes : Bytes) : String :=
  String.ofList ((scan bytes).map fun c => c.getD '\ufffd')

end Utf8

end BattleAdvisor
