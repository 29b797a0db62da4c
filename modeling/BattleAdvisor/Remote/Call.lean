import BattleAdvisor.Json.Value
import BattleAdvisor.Log
import BattleAdvisor.Remote.Failure
import BattleAdvisor.Remote.Record

/-!
# Calls to the remote service

A `Call` is one operation of the remote service with everything that it is given, and `Call.Answer`
is the type of what it returns. A `Service` answers calls one after another and may change its state
with each of them; what it answers may depend on all calls so far. An `Exchange` is a call together
with its answer.
-/

namespace BattleAdvisor

/-- A file to be uploaded. -/
structure Upload where
  displayName : String
  mimeType? : Option String
  bytes : Bytes
  deriving DecidableEq, Repr

/-- A cache to be created. -/
structure CacheRequest where
  model : String
  displayName : String
  systemInstruction : String
  files : List UploadedFile
  /-- How long the cache is kept, in milliseconds. -/
  lifetime : Nat
  deriving DecidableEq, Repr

/-- How the context reaches the model. -/
inductive ContextSource where
  /-- The request carries the instruction and the files. -/
  | inline (systemInstruction : String) (files : List UploadedFile)
  /-- The request names a cache that holds them. -/
  | cached (cacheName : String)
  deriving DecidableEq, Repr

/-- What the model is asked. -/
structure ModelRequest where
  model : String
  prompt : String
  config : ContextSource
  deriving DecidableEq, Repr

/-- What the model says. -/
structure ModelReply where
  /-- The text of its first candidate, if there is any. -/
  text? : Option String
  /-- The reply as the service returned it. -/
  raw : Json.Value

/-- The operations of the remote service. -/
inductive Operation where
  | listFiles
  | uploadFile
  | listCaches
  | createCache
  | getModel
  | generate
  deriving DecidableEq, Repr

/-- An operation with what it is given. -/
inductive Call where
  | listFiles
  | uploadFile (upload : Upload)
  | listCaches
  | createCache (request : CacheRequest)
  | getModel (model : String)
  | generate (request : ModelRequest)
  deriving DecidableEq, Repr

namespace Call

/-- The operation of a call. -/
def operation : Call → Operation
  | .listFiles => .listFiles
  | .uploadFile _ => .uploadFile
  | .listCaches => .listCaches
  | .createCache _ => .createCache
  | .getModel _ => .getModel
  | .generate _ => .generate

/-- What a call returns. -/
@[reducible] def Answer : Call → Type
  | .listFiles => List UploadedFile
  | .uploadFile _ => UploadedFile
  | .listCaches => List ContentCache
  | .createCache _ => ContentCache
  | .getModel _ => ModelCard
  | .generate _ => ModelReply

end Call

/-- What comes of a call, and what is reported on the way. -/
structure Outcome (α : Type) where
  result : Except ServiceError α
  log : List LogLine := []

/-- A remote service with states of type `σ`. -/
structure Service (σ : Type) where
  answer : (call : Call) → σ → Outcome call.Answer × σ

/-- A call and what came of it. -/
structure Exchange where
  call : Call
  result : Except ServiceError call.Answer

end BattleAdvisor
