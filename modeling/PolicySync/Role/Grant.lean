import PolicySync.PolicyError
import PolicySync.Schema
import PolicySync.Text.Split
import PolicySync.Tuple.Basic
import PolicySync.Tuple.Reference

/-!
# Grants of a role

Each permission of a role becomes one tuple that the assignees of the role hold. The action
`kind:verb` gives the relation; on a kind `base.permissions` the verb is about the permissions of
`base`. The scope gives the object: everything of the kind, one folder, or one resource. On a
folder, a grant for another kind is written as `kind_relation` and reaches the resources inside.
-/

namespace PolicySync

/-- What a permission allows: a relation to things of a kind. -/
structure GrantAction where
  kind : String
  relation : String
  deriving DecidableEq, Repr

namespace GrantAction

/-- The relation for a verb on resources. -/
def resourceRelation? : String → Option String
  | "read" => some "get"
  | "write" => some "update"
  | "create" => some "create"
  | "delete" => some "delete"
  | _ => none

/-- The relation for a verb on the permissions of resources. -/
def permissionsRelation? : String → Option String
  | "read" => some "get_permissions"
  | "write" => some "set_permissions"
  | _ => none

/-- The kind whose permissions a kind is about, for kinds `base.permissions`. -/
def permissionsBase? (kind : List Char) : Option (List Char) :=
  (Schema.before? ".permissions".toList kind).filter (!·.isEmpty)

/-- The kind and the verb of an action, both non-empty. -/
def cut? (action : String) : Option (List Char × List Char) :=
  (Text.cutLast ':' action.toList).filter fun p => !p.1.isEmpty && !p.2.isEmpty

/-- What the action of a permission allows. -/
def ofPermission (p : Permission) : Except PolicyError GrantAction :=
  match cut? p.action with
  | none => .error (.malformedPermission p .action)
  | some (kind, verb) =>
    let verb := String.ofList verb
    let (kind, relation?) :=
      match permissionsBase? kind with
      | some base => (base, permissionsRelation? verb)
      | none => (kind, resourceRelation? verb)
    match relation? with
    | some relation => .ok { kind := String.ofList kind, relation }
    | none => .error (.unsupportedVerb verb p.action)

end GrantAction

/-- What a permission reaches. -/
inductive GrantScope where
  /-- Everything of the kind. -/
  | everything
  /-- One thing of a kind. -/
  | one (kind id : String)
  deriving DecidableEq, Repr

namespace GrantScope

/-- The scope that a text spells: nothing or `*`, `kind:*`, or `kind:attribute:id`, where the id
`*` stands for everything and may hold further colons. -/
def parse? (scope : String) : Option GrantScope :=
  if scope = "" ∨ scope = "*" then some everything
  else do
    let (kind, rest) ← Text.cutFirst ':' scope.toList
    if kind.isEmpty then none
    else
      match Text.cutFirst ':' rest with
      | none => if rest = ['*'] then some everything else none
      | some (attr, id) =>
        if attr.isEmpty || id.isEmpty then none
        else if id = ['*'] then some everything
        else some (one (String.ofList kind) (String.ofList id))

end GrantScope

/-- The kind that folders go by in scopes and references. -/
def foldersKind : String := "folders"

/-- The object that stands for one thing of a kind. -/
def thingRef (kind id : String) : String :=
  if kind = foldersKind then objectRef "folder" id else objectRef "resource" (kind ++ "/" ++ id)

/-- The tuple that gives the assignees of a role one permission. -/
def grantTuple (role : String) (p : Permission) : Except PolicyError Tuple := do
  let action ← GrantAction.ofPermission p
  let holder := usersetRef "role" role "assignee"
  match GrantScope.parse? p.scope with
  | none => .error (.malformedPermission p .scope)
  | some .everything =>
    .ok (.relate holder action.relation (objectRef "group_resource" action.kind))
  | some (.one kind id) =>
    let relation :=
      if kind = foldersKind ∧ action.kind ≠ foldersKind then action.kind ++ "_" ++ action.relation
      else action.relation
    .ok (.relate holder relation (thingRef kind id))

/-- The tuples that give the assignees of a role its permissions, in order; the first permission
without a tuple fails all. -/
def roleGrants (role : String) (permissions : List Permission) : Except PolicyError (List Tuple) :=
  permissions.mapM (grantTuple role)

end PolicySync
