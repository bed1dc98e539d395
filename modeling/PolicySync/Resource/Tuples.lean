import PolicySync.Resource.Basic
import PolicySync.Role.Grant
import PolicySync.Role.Inheritance
import PolicySync.Schema
import PolicySync.Subject

/-!
# The tuples that resources stand for

`Resource.tuples` says what a resource means as tuples, given the resolved permissions of the
global roles. `clusterTuples` lists the grants of all global roles in name order.
-/

namespace PolicySync

/-- The permissions of a role that refers to global roles. Without resolved global roles, and
without references, the role has its own permissions only. -/
def effectivePermissions (name : String) (spec : RoleSpec) (resolved : Option ResolvedRoles) :
    Except PolicyError (List Permission) :=
  match resolved with
  | none => .ok (composePermissions [] [] spec.permissions)
  | some resolved =>
    if spec.refs.isEmpty then .ok (composePermissions [] [] spec.permissions)
    else do
      let inherited ← spec.refs.mapM fun ref =>
        match resolved.get? ref with
        | some permissions => .ok permissions
        | none => .error (PolicyError.unknownRoleRef name ref)
      return composePermissions inherited.flatten spec.omitted spec.permissions

/-- The grants of a role. -/
def roleTuples (name : String) (spec : RoleSpec) (resolved : Option ResolvedRoles) :
    Except PolicyError (List Tuple) := do
  roleGrants name (← effectivePermissions name spec resolved)

/-- The grants of a global role: those of its resolved permissions when they are known. -/
def globalRoleTuples (name : String) (spec : RoleSpec) (resolved : Option ResolvedRoles) :
    Except PolicyError (List Tuple) :=
  match resolved.bind (·.get? name) with
  | some permissions => roleGrants name permissions
  | none => roleTuples name spec resolved

/-- A folder with a parent hangs below it. -/
def folderTuples (name : String) (parent : Option String) : Except PolicyError (List Tuple) :=
  match parent with
  | none => .ok []
  | some parent =>
    if parent.isEmpty then .ok []
    else if parent = name then .error (.schemaViolation (objectRef "folder" name) .ownParent)
    else .ok [.relate (objectRef "folder" parent) "parent" (objectRef "folder" name)]

/-- A binding assigns its subject to each of its roles. -/
def bindingTuples (subject : SubjectRef) (roles : List String) :
    Except PolicyError (List Tuple) := do
  let kind ← SubjectKind.ofName subject.kind
  let user ← kind.encode subject.name
  roles.mapM fun role =>
    if role.isEmpty then .error (.missingField "roleRef.name")
    else .ok (.relate user "assignee" (objectRef "role" role))

/-- The object that a resource reference stands for. -/
def ResourceRef.object (r : ResourceRef) : Except PolicyError String :=
  if r.kind.isEmpty then .error (.missingField "resource.kind")
  else if r.name.isEmpty then .error (.missingField "resource.name")
  else .ok (thingRef r.kind r.name)

/-- Every entry gives its subject one kind of access to the resource. -/
def resourcePermissionTuples (target : ResourceRef) (entries : List AccessEntry) :
    Except PolicyError (List Tuple) := do
  let object ← target.object
  entries.mapM fun entry => do
    if entry.verb ∉ Schema.resourceVerbs then
      throw (.unsupportedVerb entry.verb "resource permission")
    let kind ← SubjectKind.ofName entry.kind
    return .relate (← kind.encode entry.name) entry.verb object

/-- A team binding puts a user or a service account into a team. -/
def teamBindingTuples (team : String) (subject : SubjectRef) (relation : TeamRelation) :
    Except PolicyError (List Tuple) := do
  let kind ← SubjectKind.ofName subject.kind
  if kind ≠ .user ∧ kind ≠ .serviceAccount then
    throw (.subjectKindNotAllowed kind.name "team binding")
  if team.isEmpty then
    throw (.missingField "team")
  return [.relate (← kind.encode subject.name) relation.name (objectRef "team" team)]

/-- A user with a basic role is assigned to it. -/
def userTuples (name basicRole : String) : Except PolicyError (List Tuple) :=
  if basicRole.isEmpty then .ok []
  else do
    let role ← BasicRole.ofName basicRole
    return [.relate (objectRef "user" name) "assignee" (objectRef "role" role.roleId)]

/-- The tuples that a resource stands for. -/
def Resource.tuples (r : Resource) (resolved : Option ResolvedRoles) :
    Except PolicyError (List Tuple) :=
  if r.name.isEmpty then .error (.missingField "metadata.name")
  else
    match r.spec with
    | .folder parent => folderTuples r.name parent
    | .globalRole spec => globalRoleTuples r.name spec resolved
    | .role spec => roleTuples r.name spec resolved
    | .roleBinding subject roles => bindingTuples subject roles
    | .globalRoleBinding subject roles => bindingTuples subject roles
    | .resourcePermission target entries => resourcePermissionTuples target entries
    | .teamBinding team subject relation => teamBindingTuples team subject relation
    | .user basicRole => userTuples r.name basicRole

/-- Like `Resource.tuples`, and every tuple fits the model. -/
def Resource.validTuples (r : Resource) (resolved : Option ResolvedRoles) :
    Except PolicyError (List Tuple) := do
  let ts ← r.tuples resolved
  ts.forM Schema.validate
  return ts

/-- The grants of all resolved roles in name order, or the first role without grants and why. -/
def clusterTuples (resolved : ResolvedRoles) : Except (String × PolicyError) (List Tuple) := do
  let grants ← resolved.toList.mapM fun e => (roleGrants e.1 e.2).mapError fun err => (e.1, err)
  return grants.flatten

end PolicySync
