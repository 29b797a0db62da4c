import BattleAdvisor.Remote.Call

/-!
# A service in memory

A store holds uploaded files and caches and answers calls from them. It names new files and caches
by the number of the call that makes them, and gives the replies that it was filled with, the last
one again and again. A list of failures says which calls fail; those change nothing but the count
of calls.
-/

namespace BattleAdvisor

/-- A failure of one operation. -/
structure Breakdown where
  operation : Operation
  /-- Which call of the operation fails, counted from one; each call if absent. -/
  turn? : Option Nat
  error : ServiceError

/-- A service in memory. -/
structure Store where
  files : List UploadedFile
  caches : List ContentCache
  model? : Option ModelCard
  replies : List ModelReply
  breakdowns : List Breakdown
  /-- Whether new files and caches are listed later. -/
  keeps : Bool
  /-- The operations called so far, last first. -/
  history : List Operation

namespace Store

/-- Whether a failure concerns that call of an operation. -/
def strikes (breakdown : Breakdown) (operation : Operation) (turn : Nat) : Bool :=
  breakdown.operation = operation && breakdown.turn?.all (· = turn)

/-- The error of that call of an operation, if it fails. -/
def error? (store : Store) (operation : Operation) (turn : Nat) : Option ServiceError :=
  (store.breakdowns.find? (strikes · operation turn)).map (·.error)

/-- The file that the upload with the given number makes. -/
def newFile (upload : Upload) (turn : Nat) : UploadedFile where
  name := s!"files/{turn}"
  displayName? := some upload.displayName
  uri := s!"https://example.test/files/{turn}"
  mimeType? := upload.mimeType?

/-- The cache that the request with the given number makes. -/
def newCache (request : CacheRequest) (turn : Nat) : ContentCache where
  name := s!"cachedContents/{turn}"
  displayName? := some request.displayName
  model? := some request.model
  expireTime? := none

/-- The reply that is next, and the replies after it. -/
def nextReply : List ModelReply → ModelReply × List ModelReply
  | [] => (⟨none, .null⟩, [])
  | [reply] => (reply, [reply])
  | reply :: rest => (reply, rest)

/-- Answers a call that does not fail; `turn` is its number among the calls of its operation. -/
def serve (store : Store) (turn : Nat) : (call : Call) → call.Answer × Store
  | .listFiles => (store.files, store)
  | .uploadFile upload =>
    let file := newFile upload turn
    (file, if store.keeps then { store with files := store.files ++ [file] } else store)
  | .listCaches => (store.caches, store)
  | .createCache request =>
    let cache := newCache request turn
    (cache, if store.keeps then { store with caches := store.caches ++ [cache] } else store)
  | .getModel model =>
    (store.model?.getD ⟨model, some 1048576, some 65536⟩, store)
  | .generate _ =>
    let (reply, replies) := nextReply store.replies
    (reply, { store with replies := replies })

/-- Answers a call. -/
def answer (store : Store) (call : Call) : Except ServiceError call.Answer × Store :=
  let turn := store.history.count call.operation + 1
  let store := { store with history := call.operation :: store.history }
  match store.error? call.operation turn with
  | some error => (.error error, store)
  | none =>
    let (answer, store) := store.serve turn call
    (.ok answer, store)

/-- The service whose states are stores. -/
def service : Service Store where
  answer call store :=
    let (result, store) := store.answer call
    (⟨result, []⟩, store)

end Store

end BattleAdvisor
