import PolicySync.Memory.Lister
import PolicySync.Memory.Store

/-!
# The backends in memory

A pass that talks to a lister and a store in memory has its calls answered one by one: `Backends.call`
is what a call returns and leaves behind, when nothing is laid on it from outside.
-/

namespace PolicySync.Memory

/-- Listers with the same shelves list the same. -/
theorem Lister.shelf_congr {l l' : Lister} (h : l'.shelves = l.shelves) : l'.shelf = l.shelf := by
  funext s
  rw [shelf, h, shelf]

/-- The lister and the store that passes talk to. -/
structure Backends where
  lister : Lister := {}
  store : Store := {}

namespace Backends

/-- A call reaches its backend. -/
def call (b : Backends) : (c : Call) → c.Result × Backends
  | .list kind tenant limit token =>
    let (r, lister) := b.lister.list ⟨kind, tenant⟩ limit token
    (r, { b with lister })
  | .tenants => (.ok b.lister.tenants, b)
  | .openStore tenant =>
    let (id, store) := b.store.getOrCreate tenant
    (.ok id, { b with store })
  | .read id limit token => (b.store.read id limit token, b)
  | .write id batch =>
    let (r, store) := b.store.write id batch
    (r, { b with store })

/-- A question of a pass is answered in time. -/
def answer : (q : Request) → Backends → q.Answer × Backends
  | .call c _, b => (.answered (b.call c).1, (b.call c).2)
  | .publish _, b => ((), b)

/-- Nothing has changed but the number of listings. -/
structure Same (b b' : Backends) : Prop where
  shelves : b'.lister.shelves = b.lister.shelves
  store : b'.store = b.store

variable {b b' b'' : Backends}

theorem Same.refl (b : Backends) : Same b b := ⟨rfl, rfl⟩

/-- Backends that are the same as one are the same as each other. -/
theorem Same.trans (h : Same b b') (h' : Same b' b'') : Same b b'' :=
  ⟨h'.shelves.trans h.shelves, h'.store.trans h.store⟩

/-- A token that is no offset fails a listing. -/
theorem call_list_of_error {kind : ResourceKind} {space : Option String} {limit : Nat}
    {token : Option String} {detail : String} (h : offset token = .error detail) :
    b.call (.list kind space limit token) = (.error (.backend kind detail), b) := by
  rw [call, Lister.list, h]

/-- The token of an offset lists the page there. -/
theorem call_list_of_ok {kind : ResourceKind} {space : Option String} {limit n : Nat}
    {token : Option String} (h : offset token = .ok n) :
    b.call (.list kind space limit token) = (.ok (pageAt (b.lister.shelf ⟨kind, space⟩) n limit),
      { b with lister := { b.lister with listings := b.lister.listings + 1 } }) := by
  rw [call, Lister.list, h]

/-- Listing changes no resources. -/
theorem same_call_list (b : Backends) (kind : ResourceKind) (space : Option String) (limit : Nat)
    (token : Option String) : Same b (b.call (.list kind space limit token)).2 := by
  cases htoken : offset token with
  | error detail =>
    rw [call_list_of_error htoken]
    exact Same.refl b
  | ok n =>
    rw [call_list_of_ok htoken]
    exact ⟨rfl, rfl⟩

/-- The backends after the store of a tenant was opened. -/
def opened (b : Backends) (tenant : String) : Backends :=
  { b with store := (b.store.getOrCreate tenant).2 }

/-- To open a store hands out its name and may create it. -/
theorem call_openStore (b : Backends) (tenant : String) :
    b.call (.openStore tenant) = (.ok (b.store.getOrCreate tenant).1, b.opened tenant) :=
  rfl

/-- A global role, a folder inside another, and a store that has the folder's tuple under a condition
beside two that are not asked for. -/
def office : Backends where
  lister :=
    let role : RoleSpec := { permissions := [{ action := "docs:read" }] }
    (({} : Lister).upsert { metadata := { name := "reader" }, spec := .globalRole role }).upsert
      { metadata := { name := "inner", tenant := some "north" }, spec := .folder (some "outer") }
  store := ({} : Store).seed "north" [
    { key := { user := "folder:outer", relation := "parent", object := "folder:inner" }
      condition := some { name := "office" } },
    Tuple.relate "folder:old" "parent" "folder:inner",
    Tuple.relate "folder:older" "parent" "folder:inner"]

end Backends

end PolicySync.Memory
