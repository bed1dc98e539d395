import PolicySync.Cluster.Lister
import PolicySync.Simulation.Clock
import PolicySync.SortedMap
import PolicySync.TupleService.Client

/-!
# Simulated servers

A server answers the requests that reach it with the outcomes of a list, in order, and after the
last one with the same outcome again and again. `Server.serve` lets it answer the listing of a
cluster; a `Desk` adds the clock and the memory that the client of the tuple service needs.
-/

namespace PolicySync.Simulation

/-- A server and what has reached it. -/
structure Server where
  /-- Whether requests reach it at all. -/
  reachable : Bool := true
  /-- How the exchanges to come end. -/
  outcomes : List Http.Outcome
  /-- How an exchange ends after that. -/
  exhausted : Http.Outcome := .reply { status := 500, text := "script exhausted" }
  /-- The requests so far, the latest first. -/
  requests : List Http.Request := []

namespace Server

/-- How an exchange with the server ends, and the server after it. -/
def exchange (s : Server) (request : Http.Request) : Http.Outcome × Server :=
  if s.reachable then
    match s.outcomes with
    | [] => (s.exhausted, { s with requests := request :: s.requests })
    | outcome :: rest =>
      (outcome, { s with outcomes := rest, requests := request :: s.requests })
  else (.unreachable, s)

/-- The result of a listing and the server after it, if it takes at most `fuel` requests. -/
def serve (fuel : Nat) (s : Server) (listing : Cluster.Exchange α) : Option (α × Server) :=
  listing.run (fun request server => server.exchange request) fuel s

end Server

/-- What the client of the tuple service works with. -/
structure Desk where
  server : Server
  /-- Milliseconds since the start. -/
  now : Nat := 0
  /-- The stores of tenants that are remembered. -/
  stores : SortedMap String String := SortedMap.empty

namespace Desk

/-- The answer to a question, and the desk after it. -/
def answer (ask : TupleService.Ask) (d : Desk) : ask.Answer × Desk :=
  match ask with
  | .send request =>
    let (outcome, server) := d.server.exchange request
    (outcome, { d with server })
  | .wait milliseconds => ((), { d with now := alarm d.now milliseconds })
  | .known tenant => (d.stores.get? tenant, d)
  | .remember tenant store => ((), { d with stores := d.stores.insert tenant store })

/-- The result of a procedure and the desk after it, if it asks at most `fuel` questions. -/
def perform (fuel : Nat) (d : Desk) (procedure : TupleService.Procedure α) :
    Option (Except ServiceError α × Desk) :=
  procedure.run answer fuel d

end Desk

end PolicySync.Simulation
