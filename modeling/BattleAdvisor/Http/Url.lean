import BattleAdvisor.Http.Form
import BattleAdvisor.Http.Host

/-!
# Addresses

The address of a request is read from a text and put into its normal form: the scheme and the host
in lower case, the usual channel number left out, the steps `.` and `..` of the path taken, and
characters that may not stand for themselves percent-encoded. Names and passwords of users are left
out. How hosts are read is given from outside (`Hosts`).
-/

namespace BattleAdvisor.Http

/-- An address. -/
structure Url where
  scheme : List Char
  /-- The host and, behind a colon, the number of its channel, for schemes that have them. -/
  authority? : Option (List Char)
  path : List Char
  query? : Option (List Char)
  fragment? : Option (List Char)
  deriving DecidableEq, Repr

namespace Url

variable [Hosts]

/-! ## Characters -/

/-- Whether a character may stand for itself everywhere behind the host. -/
def isShown (c : Char) : Bool :=
  0x20 < c.toNat && c.toNat < 0x7F

/-- Whether a character of a fragment stands for itself. -/
def isPlainInFragment (c : Char) : Bool :=
  isShown c && c ≠ '"' && c ≠ '<' && c ≠ '>' && c ≠ '\x60'

/-- Whether a character of a path stands for itself. -/
def isPlainInPath (c : Char) : Bool :=
  isPlainInFragment c && c ≠ '#' && c ≠ '?' && c ≠ '\x7b' && c ≠ '\x7d'

/-- Whether a character of a query stands for itself. -/
def isPlainInQuery (c : Char) : Bool :=
  isShown c && c ≠ '"' && c ≠ '#' && c ≠ '<' && c ≠ '>' && c ≠ '\''

/-! ## Schemes -/

/-- The usual channel of a scheme of which every address has a host. -/
def usualChannel? (scheme : List Char) : Option Nat :=
  match String.ofList scheme with
  | "http" | "ws" => some 80
  | "https" | "wss" => some 443
  | "ftp" => some 21
  | _ => none

/-- Reads a scheme and the colon behind it; `done` holds its characters so far, last first. -/
def splitScheme? : (done : List Char) → List Char → Option (List Char × List Char)
  | _, [] => none
  | done, c :: rest =>
    if c = ':' ∧ done ≠ [] then some (done.reverse, rest)
    else if c.isAlpha || (done ≠ [] && (c.isDigit || c = '+' || c = '-' || c = '.')) then
      splitScheme? (c.toLower :: done) rest
    else none

/-! ## Paths -/

/-- Whether a character separates the steps of a path. -/
def isSeparator (c : Char) : Bool :=
  c = '/' || c = '\\'

/-- A step with each percent-encoded dot read. -/
def plainDots : List Char → List Char
  | '%' :: '2' :: 'e' :: rest => '.' :: plainDots rest
  | '%' :: '2' :: 'E' :: rest => '.' :: plainDots rest
  | c :: rest => c :: plainDots rest
  | [] => []

/-- Takes the steps in turn; `done` holds those taken so far, last first. -/
def walkSteps (done : List (List Char)) : List (List Char) → List (List Char)
  | [] => done.reverse
  | step :: rest =>
    let dots := plainDots step
    if dots = ['.', '.'] then
      walkSteps (if rest = [] then [] :: done.drop 1 else done.drop 1) rest
    else if dots = ['.'] then walkSteps (if rest = [] then [] :: done else done) rest
    else walkSteps (Percent.encode isPlainInPath step :: done) rest

/-- The normal form of a path. -/
def normalPath (path : List Char) : List Char :=
  let steps := match path with
    | [] => [[]]
    | c :: rest => Text.split isSeparator (if isSeparator c then rest else c :: rest)
  (walkSteps [] steps).flatMap fun step => '/' :: step

/-! ## Reading -/

/-- Leaves out blanks and control characters at both ends, and tabs and line ends everywhere. -/
def clean (text : List Char) : List Char :=
  let outer := fun c : Char => c.toNat ≤ 0x20
  let inner := ((text.dropWhile outer).reverse.dropWhile outer).reverse
  inner.filter fun c => c ≠ '\t' ∧ c ≠ '\n' ∧ c ≠ '\r'

/-- The part of an address before the query and the fragment, and these. -/
def splitEnds (text : List Char) : List Char × Option (List Char) × Option (List Char) :=
  let (front, fragment?) := match text.span (· ≠ '#') with
    | (front, []) => (front, none)
    | (front, _ :: fragment) => (front, some (Percent.encode isPlainInFragment fragment))
  match front.span (· ≠ '?') with
  | (front, []) => (front, none, fragment?)
  | (front, _ :: query) => (front, some (Percent.encode isPlainInQuery query), fragment?)

/-- What follows the last `@`. -/
def dropUser (authority : List Char) : List Char :=
  (authority.reverse.takeWhile (· ≠ '@')).reverse

/-- The host and the channel of an authority; a colon inside brackets does not count. -/
def splitChannel : (inBrackets : Bool) → (host : List Char) → List Char → List Char × List Char
  | _, host, [] => (host.reverse, [])
  | inBrackets, host, c :: rest =>
    if c = ':' ∧ inBrackets = false then (host.reverse, rest)
    else splitChannel (c = '[' || (inBrackets && c ≠ ']')) (c :: host) rest

/-- The written form of a channel, empty if it is the usual one or none. -/
def readChannel (usual : Option Nat) (digits : List Char) : Except UrlFault (List Char) :=
  if digits = [] then .ok []
  else if digits.all Char.isDigit then
    match Host.digitsValue? 10 0 digits with
    | some n =>
      if 65535 < n then .error .badChannel
      else if usual = some n then .ok []
      else .ok (':' :: Nat.toDigits 10 n)
    | none => .error .badChannel
  else .error .badChannel

/-- Reads what follows the scheme and the slashes of an address that has a host. -/
def readHosted (scheme : List Char) (channel : Nat) (text : List Char) : Except UrlFault Url :=
  let (front, query?, fragment?) := splitEnds text
  let (authority, path) := front.span fun c => !isSeparator c
  let (host, digits) := splitChannel false [] (dropUser authority)
  if host = [] then .error .noHost
  else match Hosts.read host with
    | .error fault => .error fault
    | .ok host =>
      match readChannel (some channel) digits with
      | .error fault => .error fault
      | .ok channel => .ok ⟨scheme, some (host ++ channel), normalPath path, query?, fragment?⟩

/-- Reads what follows the scheme of any other address. -/
def readOther (scheme text : List Char) : Except UrlFault Url :=
  let (front, query?, fragment?) := splitEnds text
  match front with
  | '/' :: '/' :: rest =>
    let (authority, path) := rest.span (· ≠ '/')
    let (host, digits) := splitChannel false [] (dropUser authority)
    if host.any Host.isForbidden then .error .badHostCharacter
    else match readChannel none digits with
      | .error fault => .error fault
      | .ok channel =>
        let path := if path = [] then [] else normalPath path
        .ok ⟨scheme, some (Percent.encode isShown host ++ channel), path, query?, fragment?⟩
  | '/' :: rest => .ok ⟨scheme, none, normalPath ('/' :: rest), query?, fragment?⟩
  | path => .ok ⟨scheme, none, Percent.encode (fun c => 0x1F < c.toNat && c.toNat < 0x7F) path,
      query?, fragment?⟩

/-- Reads an address. -/
def read (text : String) : Except UrlFault Url :=
  match splitScheme? [] (clean text.toList) with
  | none => .error .relative
  | some (scheme, rest) =>
    match usualChannel? scheme with
    | some channel => readHosted scheme channel (rest.dropWhile isSeparator)
    | none => readOther scheme rest

/-! ## Use -/

/-- Whether requests can be sent to addresses of the scheme. -/
def isServable (url : Url) : Bool :=
  match String.ofList url.scheme with
  | "http" | "https" => true
  | _ => false

/-- Whether requests can be sent to the host of an address. -/
def isAdmitted (url : Url) : Bool :=
  Hosts.admits (url.authority?.getD [])

/-- Whether an address names a host. -/
def hasHost (url : Url) : Bool :=
  match url.authority? with
  | some authority => authority ≠ []
  | none => false

/-- The address with names and values added to its query. A query that stays empty is left out. -/
def addQuery (url : Url) (pairs : List (String × String)) : Url :=
  let old := url.query?.getD []
  let new := Form.encode pairs
  let query := if old = [] ∨ new = [] then old ++ new else old ++ '&' :: new
  { url with query? := if query = [] then none else some query }

/-- The address without its fragment. -/
def withoutFragment (url : Url) : Url :=
  { url with fragment? := none }

/-- The names and values of the query. -/
def queryPairs (url : Url) : List (String × String) :=
  Form.decode (url.query?.getD [])

/-- The written form of an address. -/
def text (url : Url) : String :=
  let part (mark : Char) (content? : Option (List Char)) : List Char :=
    match content? with
    | some content => mark :: content
    | none => []
  let authority := match url.authority? with
    | some authority => '/' :: '/' :: authority
    | none => []
  String.ofList <|
    url.scheme ++ ':' :: authority ++ url.path ++ part '?' url.query? ++ part '#' url.fragment?

/-- The greatest number of bytes of an address to which requests can be sent. -/
def textLimit : Nat := 65534

/-- Whether an address is not too long for requests. -/
def isShort (url : Url) : Bool :=
  url.text.utf8ByteSize ≤ textLimit

end Url

end BattleAdvisor.Http
