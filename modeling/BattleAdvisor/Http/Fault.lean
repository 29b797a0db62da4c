import BattleAdvisor.Http.Host
import BattleAdvisor.Json.Failure

/-!
# Why a request fails

A request cannot be built, cannot be delivered, or its answer cannot be used. A fault has a wording
and, behind it, the chain of what caused it, outermost first.
-/

namespace BattleAdvisor.Http

/-- Why a request cannot be built. -/
inductive Flaw where
  /-- The text for its address is none. -/
  | address (fault : UrlFault)
  /-- A header value has a character that it may not have. -/
  | header
  deriving DecidableEq, Repr

/-- Why no answer comes. -/
inductive Outage where
  /-- There is no way to the host. -/
  | unreachable
  /-- The host closes the connection. -/
  | closed
  deriving DecidableEq, Repr

/-- Why the body of an answer cannot be used. -/
inductive Unusable where
  /-- It ends before its announced length. -/
  | cut
  /-- It is no text. -/
  | notText
  /-- It spells no value of the wanted kind. -/
  | malformed (error : Json.ReadError)

/-- Why a request fails. -/
inductive Fault where
  | unbuilt (flaw : Flaw)
  /-- Requests cannot be sent to addresses of this kind. -/
  | unservable (url : String)
  /-- The address is too long, or has a host to which requests cannot be sent. -/
  | inadmissible (url : String)
  /-- Too many responses in a row lead on to other addresses. -/
  | astray (url : String)
  | undelivered (url : String) (outage : Outage)
  | unusable (why : Unusable)

/-- The wording of a flaw. -/
def Flaw.message : Flaw → String
  | .address fault => fault.message
  | .header => "failed to parse header value"

/-- What lies behind an outage, outermost first. -/
def Outage.causes : Outage → List String
  | .unreachable =>
    ["client error (Connect)", "tcp connect error", "Network is unreachable (os error 101)"]
  | .closed => ["client error (SendRequest)", "connection closed before message completed"]

/-- What makes a body unusable, outermost first. -/
def Unusable.causes : Unusable → List String
  | .cut => ["error reading a body from connection", "end of file before message length reached"]
  | .notText => ["invalid unicode code point"]
  | .malformed error => [error.message]

/-- The wording of a fault. -/
def Fault.message : Fault → String
  | .unbuilt _ => "builder error"
  | .unservable url | .inadmissible url => s!"builder error for url ({url})"
  | .astray url => s!"error following redirect for url ({url})"
  | .undelivered url _ => s!"error sending request for url ({url})"
  | .unusable _ => "error decoding response body"

/-- What lies behind a fault, outermost first. -/
def Fault.causes : Fault → List String
  | .unbuilt flaw => [flaw.message]
  | .unservable _ => ["URL scheme is not allowed"]
  | .inadmissible _ => ["Parsed Url is not a valid Uri"]
  | .astray _ => ["too many redirects"]
  | .undelivered _ outage => outage.causes
  | .unusable why => why.causes

end BattleAdvisor.Http
