import PolicySync.Cluster.Object
import PolicySync.Http.Exchange
import PolicySync.Http.Target
import PolicySync.Script

/-!
# Listing the resources of a cluster

A `Cluster.Lister` reads pages of resources, and the names of all tenants, from the server of a
cluster. Both are scripts whose questions are requests to that server: a page of resources takes
one request, the names of tenants take one for each page of namespaces. Any failed request fails
the listing, and so does one that cannot be written, or any object that is not what it should be.
-/

namespace PolicySync.Cluster

/-- A script that sends requests to a server. -/
abbrev Exchange (α : Type) := Script Http.Request (fun _ => Http.Outcome) α

/-- Where resources are listed. -/
structure Lister where
  /-- The group that the kinds of resources belong to. -/
  group : String
  version : String
  /-- The label that marks the namespaces of tenants, if not all are. -/
  tenantSelector : Option String := none

/-- The most namespaces on a page. -/
def namespacePageSize : Nat := 500

/-- The value that an exchange brought, or why there is none. -/
def received (decode : Json.Decoder α) : Http.Outcome → Except String α
  | .reply r =>
    if Http.isFailure r.status then .error s!"status {r.status}"
    else
      match r.json with
      | none => .error "no JSON"
      | some v => (decode v).mapError (·.message)
  | .timedOut => .error "timed out"
  | .unreachable => .error "unreachable"
  | .interrupted => .error "interrupted"

/-- A request for a page of objects at a path, if it can be written. -/
def pageRequest? (path : String) (selector : Option String) (limit : Nat) (token : Option String) :
    Option Http.Request := do
  let target ← Http.Target.of? path ((selector.map ("labelSelector", ·)).toList
    ++ [("limit", toString limit)] ++ (token.map ("continue", ·)).toList)
  return { target := target.path, query := target.query }

namespace Lister

/-- The group and the version together. -/
def apiVersion (l : Lister) : String :=
  if l.group.isEmpty then l.version else l.group ++ "/" ++ l.version

/-- The path of a kind of resources, in a namespace or in all. -/
def path (l : Lister) (kind : ResourceKind) (space : Option String) : String :=
  let root := if l.group.isEmpty then "/api/" else "/apis/"
  let inside :=
    match space with
    | some name => "/namespaces/" ++ name
    | none => ""
  root ++ l.apiVersion ++ inside ++ "/" ++ kind.plural

/-- A page of resources of a kind. A namespace matters only for kinds that live in one. -/
def list (l : Lister) (kind : ResourceKind) (space : Option String) (limit : Nat)
    (token : Option String) : Exchange (Except ListError (Page Resource)) :=
  let path := l.path kind (if kind.clusterScoped then none else space)
  let resources (outcome : Http.Outcome) : Except ListError (Page Resource) := do
    let page ← (received (decodePage Object.decode) outcome).mapError (.backend kind)
    return { items := ← page.items.mapM (Object.resource kind), next := page.next }
  match pageRequest? path none limit (nextToken token) with
  | some request => .ask request fun outcome => .done (resources outcome)
  | none => .done (.error (.backend kind "invalid request"))

/-- A request for a page of namespaces, or why there is none. -/
def spacesRequest (l : Lister) (token : Option String) : Except ListError Http.Request :=
  match pageRequest? "/api/v1/namespaces" l.tenantSelector namespacePageSize token with
  | some request => .ok request
  | none => .error (.tenants "invalid request")

/-- The names on a page of namespaces after those so far, and the request for the next page if
there is one. -/
def namesAfter (l : Lister) (earlier : List String) (outcome : Http.Outcome) :
    Except ListError (List String × Option Http.Request) := do
  let page ← (received (decodePage decodeNamespace) outcome).mapError .tenants
  let names := earlier ++ page.items.filterMap id
  match page.next with
  | some token => return (names, some (← l.spacesRequest (some token)))
  | none => return (names, none)

/-- The names of all tenants in order, a name on several pages as often as it comes. -/
def tenants (l : Lister) : Exchange (Except ListError (List String)) :=
  match l.spacesRequest none with
  | .error e => .done (.error e)
  | .ok first =>
    .iterate (([] : List String), first) (·.2) fun s outcome =>
      match l.namesAfter s.1 outcome with
      | .error e => .done (.inr (.error e))
      | .ok (names, some request) => .done (.inl (names, request))
      | .ok (names, none) => .done (.inr (.ok (names.mergeSort (· ≤ ·))))

end Lister

end PolicySync.Cluster
