import PolicySync.Memory.Offset
import PolicySync.Pass.Call

/-!
# The lister in memory

Resources are kept by kind and namespace, ordered by their last `upsert`; a resource takes the
place of one with its name. Tenants are the namespaces that ever held a resource, unless the list
of tenants is pinned.
-/

namespace PolicySync.Memory

/-- The kind and the namespace that resources are listed by. -/
structure Shelf where
  kind : ResourceKind
  tenant : Option String
  deriving DecidableEq, Repr

/-- The resources of a lister. -/
structure Lister where
  /-- The resources of each shelf, oldest first; no two of a shelf share a name. -/
  shelves : List (Shelf × List Resource) := []
  /-- The pinned list of tenants. -/
  pinned : Option (List String) := none
  /-- The number of listings so far. -/
  listings : Nat := 0
  deriving Inhabited

namespace Lister

/-- The resources of a shelf. -/
def shelf (l : Lister) (s : Shelf) : List Resource := (l.shelves.lookup s).getD []

/-- Change the resources of a shelf that may be new. -/
def setShelf (s : Shelf) (rs : List Resource) :
    List (Shelf × List Resource) → List (Shelf × List Resource)
  | [] => [(s, rs)]
  | e :: rest => if e.1 = s then (s, rs) :: rest else e :: setShelf s rs rest

/-- Add a resource or replace the one of its name. -/
def upsert (l : Lister) (r : Resource) : Lister :=
  let s : Shelf := ⟨r.kind, r.listedUnder⟩
  { l with shelves := setShelf s ((l.shelf s).filter (·.name != r.name) ++ [r]) l.shelves }

/-- Remove the resource of a name; its shelf stays. -/
def remove (l : Lister) (s : Shelf) (name : String) : Lister :=
  if (l.shelves.lookup s).isSome then
    { l with shelves := setShelf s ((l.shelf s).filter (·.name != name)) l.shelves }
  else l

/-- Pin the list of tenants. -/
def setTenants (l : Lister) (tenants : List String) : Lister := { l with pinned := some tenants }

/-- One page of a shelf. A listing with a token that is no offset is not counted. -/
def list (l : Lister) (s : Shelf) (limit : Nat) (token : Option String) :
    Except ListError (Page Resource) × Lister :=
  match offset token with
  | .error detail => (.error (.backend s.kind detail), l)
  | .ok n => (.ok (pageAt (l.shelf s) n limit), { l with listings := l.listings + 1 })

/-- The pinned tenants, or the namespaces of all shelves in order. -/
def tenants (l : Lister) : List String :=
  l.pinned.getD (SortedMap.ofList
    (l.shelves.filterMap fun e => e.1.tenant.map fun t => (t, ()))).keys

end Lister

end PolicySync.Memory
