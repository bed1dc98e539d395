import PolicySync.Http.Retry
import PolicySync.Text.Record
import PolicySync.TupleService.Error
import PolicySync.TupleService.Wire

/-!
# The client of the tuple service

Every tenant has a store of its own, which is found by its name and created when there is none;
its id is then remembered. What the client does are scripts whose questions are requests to the
service, waits between attempts, and reads and writes of what is remembered. A request that only
reads is repeated as the retry policy says; one that creates or writes is sent once.
-/

namespace PolicySync.TupleService

/-- A question of the client. -/
inductive Ask where
  /-- Send a request. -/
  | send (request : Http.Request)
  /-- Wait so many milliseconds. -/
  | wait (milliseconds : Nat)
  /-- Recall the store of a tenant. -/
  | known (tenant : String)
  /-- Remember the store of a tenant. -/
  | remember (tenant store : String)

/-- What answers a question of the client. -/
abbrev Ask.Answer : Ask → Type
  | send _ => Http.Outcome
  | wait _ => Unit
  | known _ => Option String
  | remember _ _ => Unit

/-- A script of the client that ends with an `α` or fails. -/
abbrev Procedure (α : Type) := Script Ask Ask.Answer (Except ServiceError α)

/-- How the service is spoken to. -/
structure Client where
  /-- The address of the service, without a slash at its end. -/
  baseUrl : String
  apiToken : Option String := none
  /-- The authorization model that writes refer to. -/
  modelId : Option String := none
  /-- What the name of a tenant's store starts with. -/
  storePrefix : String := "tenant-"
  retry : Http.RetryPolicy := {}

/-- The most stores on a page. -/
def storePageSize : Nat := 100

/-- The text without slashes at its end. -/
def trimSlashes (s : String) : String :=
  String.ofList (s.toList.reverse.dropWhile (· = '/')).reverse

/-- What a reply says if it says that the request was carried out. -/
def accepted (r : Http.Reply) : Except ServiceError Http.Reply :=
  if Http.isSuccess r.status then .ok r
  else if r.status = 401 ∨ r.status = 403 then .error .unauthorized
  else if r.status = 429 then .error .rateLimited
  else .error (.api r.status r.text)

/-- The reply that an exchange brought, if it says that the request was carried out. -/
def settled : Http.Outcome → Except ServiceError Http.Reply
  | .reply r => accepted r
  | .timedOut => .error .timeout
  | .unreachable => .error (.network "no connection" true)
  | .interrupted => .error (.network "connection closed" false)

/-- The value that an exchange brought. -/
def received (decode : Json.Decoder α) (outcome : Http.Outcome) : Except ServiceError α := do
  match (← settled outcome).json with
  | none => throw (.invalidResponse "JSON parse error")
  | some v => (decode v).mapError fun e => .invalidResponse ("JSON parse error: " ++ e.message)

namespace Client

/-- A client for the service at an address. -/
def ofAddress (address : String) : Except ServiceError Client :=
  let baseUrl := trimSlashes address
  if baseUrl.isEmpty then .error (.invalidConfig "base url is empty") else .ok { baseUrl }

/-- The name of a tenant's store. -/
def storeName (c : Client) (tenant : String) : String := c.storePrefix ++ tenant

/-- The client in one line, without its token. -/
def display (c : Client) : String :=
  Text.record "OpenFgaClient" [
    ("base_url", Text.quoted c.baseUrl),
    ("api_token", Text.option Text.redacted c.apiToken),
    ("authorization_model_id", Text.option Text.quoted c.modelId),
    ("store_prefix", Text.quoted c.storePrefix)]

/-- A request for a page of stores. -/
def storesRequest (c : Client) (token : Option String) : Http.Request where
  target := c.baseUrl ++ "/stores"
  query := ("page_size", toString storePageSize)
    :: (token.map ("continuation_token", ·)).toList
  token := c.apiToken

/-- A request with a body. -/
def postRequest (c : Client) (path : String) (body : Json.Value) : Http.Request where
  method := .post
  target := c.baseUrl ++ path
  body := some body
  token := c.apiToken

/-- The first store of a name, page after page from the page of a token on, at which some attempts
have failed already. -/
def findStoreFrom (c : Client) (name : String) (token : Option String) (failed : Nat) :
    Procedure (Option Store) :=
  .iterate (token, failed) (fun s => .send (c.storesRequest s.1)) fun s outcome =>
    (Http.afterAttempt c.retry .wait ServiceError.isPassing .brokenDown s.2
        (received decodeStores outcome)).bind fun
      | .inl failed => .done (.inl (s.1, failed))
      | .inr (.error e) => .done (.inr (.error e))
      | .inr (.ok page) =>
        match page.items.find? (·.name = name), nextToken page.next with
        | some store, _ => .done (.inr (.ok (some store)))
        | none, some token => .done (.inl (some token, 0))
        | none, none => .done (.inr (.ok none))

/-- The first store of a name, page after page. -/
def findStore (c : Client) (name : String) : Procedure (Option Store) := c.findStoreFrom name none 0

/-- A new store of a name. -/
def createStore (c : Client) (name : String) : Procedure Store :=
  .ask (.send (c.postRequest "/stores" (encodeCreate name))) fun outcome =>
    .done (received Store.decode outcome)

/-- The id of the store of a name, which is created when there is none. -/
def provideStore (c : Client) (name : String) : Procedure String :=
  (c.findStore name).bind fun
    | .error e => .done (.error e)
    | .ok (some store) => .done (.ok store.id)
    | .ok none => (c.createStore name).bind fun r => .done (r.map (·.id))

/-- The id of a tenant's store, from memory if it is there. -/
def openStore (c : Client) (tenant : String) : Procedure String :=
  .ask (.known tenant) fun
    | some store => .done (.ok store)
    | none => (c.provideStore (c.storeName tenant)).bind fun
      | .error e => .done (.error e)
      | .ok store => .ask (.remember tenant store) fun _ => .done (.ok store)

/-- A page of the tuples in a store. -/
def read (c : Client) (store : String) (pageSize : Nat) (token : Option String) :
    Procedure (Page Tuple) :=
  let request := c.postRequest ("/stores/" ++ store ++ "/read") (encodeRead pageSize token)
  Http.retry c.retry (.send request) .wait (received decodeTuples) ServiceError.isPassing
    .brokenDown

/-- The changes of a batch, made in a store at once. -/
def write (c : Client) (store : String) (batch : Batch) : Procedure Unit :=
  let request := c.postRequest ("/stores/" ++ store ++ "/write") (encodeWrite batch c.modelId)
  .ask (.send request) fun outcome => .done ((settled outcome).map fun _ => ())

end Client

end PolicySync.TupleService
