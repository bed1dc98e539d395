import PolicySync.Pass.Call
import PolicySync.Resource.Tuples

/-!
# Building the snapshot

The snapshot is built from all pages of global roles: their permissions are resolved, and every
grant has to fit the authorization model. Only a complete snapshot is published.
-/

namespace PolicySync

namespace Snapshot

/-- The roles seen so far with one more resource, which has to be a global role; a later role of
the same name takes the place of an earlier one. -/
def addRole (roles : Roles) (r : Resource) : Except PassError Roles :=
  match r.spec with
  | .globalRole spec => .ok (roles.insert r.name spec)
  | _ => .error (.list (.decode .globalRole r.name ("lister returned a " ++ r.kind.name)))

/-- The grants of one resolved role, all of which fit the model. -/
def grantsOf (name : String) (permissions : List Permission) : Except PassError (List Tuple) :=
  let grants : Except PolicyError (List Tuple) := do
    let ts ← roleGrants name permissions
    ts.forM Schema.validate
    return ts
  grants.mapError (.policy .globalRole name)

/-- The snapshot of a set of roles. -/
def ofRoles (roles : Roles) : Except PassError Snapshot := do
  let resolved ← (resolve roles).mapError .resolve
  let grants ← resolved.toList.mapM fun e => grantsOf e.1 e.2
  return { resolved, tuples := grants.flatten }

end Snapshot

namespace Pass

/-- The global roles from all pages. -/
def globalRoles (settings : PassSettings) : Pass Roles :=
  pages (fun token => .call (.list .globalRole none settings.listPageSize token)
      settings.pageTimeout)
    (fun roles _ answer => do
      let page ← settle .listPage settings.pageTimeout .list answer
      return (← page.items.foldlM Snapshot.addRole roles, nextToken page.next))
    SortedMap.empty

/-- Build a snapshot from the listed global roles. -/
def buildSnapshot (settings : PassSettings) : Pass Snapshot :=
  (globalRoles settings).andThen fun roles => of (Snapshot.ofRoles roles)

/-- Build a snapshot and publish it. -/
def refreshSnapshot (settings : PassSettings) : Pass Snapshot :=
  (buildSnapshot settings).andThen fun snapshot =>
    .ask (.publish snapshot) fun _ => of (.ok snapshot)

end Pass

end PolicySync
