import BattleAdvisor.Http.Library
import BattleAdvisor.Log

/-!
# Sessions

A session sends requests over a network, one after another. A network either leads nowhere, or
answers the requests in turn with the reactions of a script; behind the last one it reports an
error of its own. Some responses lead on to further requests, which are answered by the next
reactions.
-/

namespace BattleAdvisor.Http

/-- What a scripted network does with a request. -/
inductive Reaction where
  | respond (response : Response)
  | close

/-- A network. -/
inductive Network where
  | unreachable
  | scripted (reactions : List Reaction)

/-- A session. -/
structure Session where
  network : Network
  /-- The requests that were sent. -/
  sent : List Request
  /-- The reports that were not handed on yet. -/
  reports : List LogLine

/-- The response behind the end of a script. -/
def exhausted : Response :=
  ⟨500, [], Utf8.encode "script exhausted", true⟩

/-- The greatest number of requests that a network answers with success. -/
def Network.patience : Network → Nat
  | .unreachable => 0
  | .scripted reactions => reactions.length

namespace Session

variable [Library]

/-- A session in which nothing has been sent. -/
def start (network : Network) : Session :=
  ⟨network, [], []⟩

/-- What comes of a request that has been sent, with the further requests to which responses lead
and the reactions that are left; `earlier` are the requests that have led to this one. -/
def hear (earlier : List Request) (request : Request) :
    List Reaction → Except Fault Response × List Request × List Reaction
  | [] => (.ok exhausted, [], [])
  | .close :: rest => (.error (.undelivered request.url.text .closed), [], rest)
  | .respond response :: rest =>
    match Library.onward earlier request response with
    | .take => (.ok response, [], rest)
    | .wait => hear earlier request rest
    | .fail fault => (.error fault, [], rest)
    | .follow next =>
      let (result, further, rest) := hear (earlier ++ [request]) next rest
      (result, next :: further, rest)

/-- Sends a request. -/
def send (session : Session) (request : Request) : Except Fault Response × Session :=
  match session.network with
  | .unreachable => (.error (.undelivered request.url.text .unreachable), session)
  | .scripted reactions =>
    let (result, further, rest) := hear [] request reactions
    (result, { session with
      network := .scripted rest
      sent := session.sent ++ request :: further })

/-- Builds a request and sends it. -/
def submit (session : Session) (draft : Draft) : Except Fault Response × Session :=
  match draft.build with
  | .error fault => (.error fault, session)
  | .ok request => session.send request

/-- Reports something. -/
def report (session : Session) (message : String) : Session :=
  { session with reports := session.reports ++ [⟨.debug, message⟩] }

end Session

end BattleAdvisor.Http
