import PolicySync.Json.Value

/-!
# Exchanges over HTTP

A client sends a request and gets an outcome: a reply, or one of the ways in which none comes. The
body of a reply is given as text and, if the text is JSON, as the value that it spells.
-/

namespace PolicySync.Http

/-- What a request asks the server to do. -/
inductive Method where
  | get
  | post
  deriving DecidableEq, Repr

/-- The word for a method. -/
def Method.name : Method → String
  | get => "GET"
  | post => "POST"

/-- A request. -/
structure Request where
  method : Method := .get
  /-- Where it goes: a path on a server, or a full address. -/
  target : String
  /-- The parameters after the path, in order. -/
  query : List (String × String) := []
  body : Option Json.Value := none
  /-- The token that gives access. -/
  token : Option String := none

/-- What a server sends back. -/
structure Reply where
  status : Nat
  text : String := ""
  json : Option Json.Value := none

/-- How an exchange ends. -/
inductive Outcome where
  | reply (r : Reply)
  /-- No reply came in time. -/
  | timedOut
  /-- No connection came about. -/
  | unreachable
  /-- The connection ended before a reply came. -/
  | interrupted

/-- Whether a number is the status of a reply at all. -/
def isStatus (n : Nat) : Bool := 100 ≤ n && n < 1000

/-- Whether a status says that the request was carried out. -/
def isSuccess (status : Nat) : Bool := 200 ≤ status && status < 300

/-- Whether a status says that the request was refused or could not be carried out. -/
def isFailure (status : Nat) : Bool := 400 ≤ status && status < 600

/-- Whether the same request may succeed later: the server was busy, too slow or out of order. -/
def isRetryable (status : Nat) : Bool := [408, 429, 500, 502, 503, 504].contains status

/-- The name under which the program sends its requests. -/
def userAgent : String := "relsync/0.1.0"

end PolicySync.Http
