import BattleAdvisor.Http.Percent
import BattleAdvisor.Text.Split

/-!
# Hosts

How the host of an address is read, and to which hosts requests can be sent, depends on tables of
international names that are not part of this library: it is given as an instance of `Hosts`.

`Host.read` reads the hosts for which no table is needed. The host of an address is a name or a
number. A name is written in lower case. A name whose last part is a number means an address of
version 4 of the protocol, and its one to four numbers may be decimal, octal or hexadecimal; a host
in brackets is an address of version 6. Both have one written form: four decimal numbers, and groups
of hexadecimal digits of which the longest run of zeros is left out.
-/

namespace BattleAdvisor.Http

/-- Why a text is no address. -/
inductive UrlFault where
  /-- It names no scheme. -/
  | relative
  | noHost
  | badChannel
  | badHostName
  | badHostCharacter
  | badNumber
  | badLongNumber
  deriving DecidableEq, Repr

/-- The wording of a fault. -/
def UrlFault.message : UrlFault → String
  | .relative => "relative URL without a base"
  | .noHost => "empty host"
  | .badChannel => "invalid port number"
  | .badHostName => "invalid international domain name"
  | .badHostCharacter => "invalid domain character"
  | .badNumber => "invalid IPv4 address"
  | .badLongNumber => "invalid IPv6 address"

/-- How hosts are read. -/
class Hosts where
  /-- The written form of a host of a scheme that has one. -/
  read : List Char → Except UrlFault (List Char)
  /-- Whether requests can be sent to a host with its channel. -/
  admits : List Char → Bool

namespace Host

/-- The number that digits of a base write. -/
def digitsValue? (base : Nat) : (value : Nat) → List Char → Option Nat
  | value, [] => some value
  | value, c :: rest =>
    match Text.Hex.value? c with
    | some d => if d < base then digitsValue? base (value * base + d) rest else none
    | none => none

/-! ## Version 4 -/

/-- A part of an address: hexadecimal behind `0x`, octal behind another zero, else decimal. -/
def partValue? : List Char → Option Nat
  | [] => none
  | '0' :: 'x' :: rest => digitsValue? 16 0 rest
  | '0' :: 'X' :: rest => digitsValue? 16 0 rest
  | '0' :: c :: rest => digitsValue? 8 0 (c :: rest)
  | digits => digitsValue? 10 0 digits

/-- The parts of a name between dots; a dot at its end does not count. -/
def parts (name : List Char) : List (List Char) :=
  let parts := Text.split (· = '.') name
  if 1 < parts.length ∧ parts.getLast? = some [] then parts.dropLast else parts

/-- Whether a name is to be read as a number: its last part is made of digits, or is a number. -/
def endsInNumber (name : List Char) : Bool :=
  match (parts name).getLast? with
  | some last => (last ≠ [] && last.all Char.isDigit) || (partValue? last).isSome
  | none => false

/-- The number of an address; every part but the last one is one byte. -/
def partsNumber? : (bytesLeft : Nat) → (value : Nat) → List Nat → Option Nat
  | _, _, [] => none
  | bytesLeft, value, [last] =>
    let places := Nat.pow 256 bytesLeft
    if last < places then some (value * places + last) else none
  | bytesLeft, value, part :: rest =>
    if part < 256 then partsNumber? (bytesLeft - 1) (value * 256 + part) rest else none

/-- The written form of the number of an address. -/
def numberText (n : Nat) : List Char :=
  let bytes := [n / 0x1000000, n / 0x10000 % 0x100, n / 0x100 % 0x100, n % 0x100]
  ((bytes.map (Nat.toDigits 10)).intersperse ['.']).flatten

/-- Reads an address of version 4. -/
def readNumber (name : List Char) : Except UrlFault (List Char) :=
  let parts := parts name
  if 4 < parts.length then .error .badNumber
  else match (parts.mapM partValue?).bind (partsNumber? 4 0) with
    | some n => .ok (numberText n)
    | none => .error .badNumber

/-! ## Version 6 -/

/-- The two groups that an address of version 4 at the end stands for. -/
def tailGroups? (text : List Char) : Option (List Nat) :=
  let parts := Text.split (· = '.') text
  let plain := parts.all fun part =>
    part ≠ [] && part.all Char.isDigit && (part.length = 1 || part.head? ≠ some '0')
  match parts.map (digitsValue? 10 0) with
  | [some a, some b, some c, some d] =>
    if plain ∧ a < 256 ∧ b < 256 ∧ c < 256 ∧ d < 256 then some [a * 256 + b, c * 256 + d] else none
  | _ => none

/-- The groups between colons; the last part may be an address of version 4. -/
def groups? : List (List Char) → Option (List Nat)
  | [] => some []
  | [last] =>
    if last.contains '.' then tailGroups? last
    else if last ≠ [] ∧ last.length ≤ 4 then (digitsValue? 16 0 last).map fun n => [n]
    else none
  | part :: rest =>
    if part ≠ [] ∧ part.length ≤ 4 then
      match digitsValue? 16 0 part, groups? rest with
      | some n, some groups => some (n :: groups)
      | _, _ => none
    else none

/-- The groups of a text without a gap; an empty text has none. -/
def sideGroups? (text : List Char) : Option (List Nat) :=
  if text = [] then some [] else groups? (Text.split (· = ':') text)

/-- Splits a text at the first `::`. -/
def splitGap? : (before : List Char) → List Char → Option (List Char × List Char)
  | _, [] => none
  | before, ':' :: ':' :: rest => some (before.reverse, rest)
  | before, c :: rest => splitGap? (c :: before) rest

/-- The eight groups of an address; `::` stands for the zeros that are left out. -/
def allGroups? (text : List Char) : Option (List Nat) :=
  match splitGap? [] text with
  | some (before, after) =>
    match sideGroups? before, sideGroups? after with
    | some left, some right =>
      if left.length + right.length < 8 ∧ !before.contains '.' then
        some (left ++ List.replicate (8 - left.length - right.length) 0 ++ right)
      else none
    | _, _ => none
  | none => (groups? (Text.split (· = ':') text)).filter (·.length = 8)

/-- The start and the length of the longest run of zeros so far, and the length of the run that
goes on, after the group at an index. -/
def zeroRun (state : (Nat × Nat) × Nat) (group : Nat × Nat) : (Nat × Nat) × Nat :=
  let ((start, length), current) := state
  if group.1 = 0 then
    if length < current + 1 then ((group.2 - current, current + 1), current + 1)
    else ((start, length), current + 1)
  else ((start, length), 0)

/-- Groups with colons between them. -/
def groupsText (groups : List Nat) : List Char :=
  ((groups.map (Nat.toDigits 16)).intersperse [':']).flatten

/-- The written form of an address of version 6. -/
def groupedText (groups : List Nat) : List Char :=
  let (start, length) := (groups.zipIdx.foldl zeroRun ((0, 1), 0)).1
  if 1 < length then
    groupsText (groups.take start) ++ [':', ':'] ++ groupsText (groups.drop (start + length))
  else groupsText groups

/-! ## All hosts -/

/-- Whether a character may not stand in any host. -/
def isForbidden (c : Char) : Bool :=
  [' ', '#', '/', ':', '<', '>', '?', '@', '[', '\\', ']', '^', '|', '\x00', '\t', '\n',
    '\r'].contains c

/-- Whether a character may not stand in a name. -/
def isForbiddenInName (c : Char) : Bool :=
  isForbidden c || c = '%' || c.toNat < 0x20 || c.toNat = 0x7F

/-- Reads a host of a scheme that has one; names with characters beyond ASCII are refused. -/
def read (text : List Char) : Except UrlFault (List Char) :=
  match text with
  | '[' :: rest =>
    if rest.getLast? ≠ some ']' then .error .badLongNumber
    else match allGroups? rest.dropLast with
      | some groups => .ok ('[' :: groupedText groups ++ [']'])
      | none => .error .badLongNumber
  | text =>
    let name := (Utf8.lossy (Percent.decode text)).toList.map Char.toLower
    if name = [] then .error .noHost
    else if name.any fun c => 0x80 ≤ c.toNat then .error .badHostName
    else if name.any isForbiddenInName then .error .badHostCharacter
    else if endsInNumber name then readNumber name
    else .ok name

/-- Whether a character may stand in a host with its channel to which requests are sent. -/
def isAdmitted (c : Char) : Bool :=
  c.isAlphanum || "!$&'()*+,-.:;=[]_~".toList.contains c

end Host

end BattleAdvisor.Http
