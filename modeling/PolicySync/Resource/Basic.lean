import PolicySync.Permission
import PolicySync.Resource.Kind

/-!
# Policy resources

A resource is named, may belong to a tenant, and says one thing about who may do what: where a
folder sits, what a role permits, who is bound to which roles, who may use one resource, who is in
a team, or which basic role a user has.
-/

namespace PolicySync

/-- The name of a resource and the tenant whose namespace it lives in. -/
structure Metadata where
  name : String
  tenant : Option String := none
  deriving DecidableEq, Repr, Inhabited

/-- What a role permits: its own permissions, and those of the roles it refers to without the
omitted ones. -/
structure RoleSpec where
  permissions : List Permission := []
  omitted : List Permission := []
  refs : List String := []
  deriving DecidableEq, Repr, Inhabited

/-- Someone a role or a right is given to. -/
structure SubjectRef where
  kind : String
  name : String
  deriving DecidableEq, Repr, Inhabited

/-- A resource that rights are given on. -/
structure ResourceRef where
  kind : String
  name : String
  deriving DecidableEq, Repr, Inhabited

/-- A subject and what it may do with one resource. -/
structure AccessEntry where
  kind : String
  name : String
  verb : String
  deriving DecidableEq, Repr, Inhabited

/-- What a subject is in a team. -/
inductive TeamRelation where
  | member
  | admin
  deriving DecidableEq, Repr, Inhabited

namespace TeamRelation

/-- The word for a team relation. -/
def name : TeamRelation → String
  | member => "member"
  | admin => "admin"

end TeamRelation

/-- What a resource says, by its kind. -/
inductive ResourceSpec where
  | folder (parent : Option String)
  | globalRole (role : RoleSpec)
  | role (role : RoleSpec)
  | roleBinding (subject : SubjectRef) (roles : List String)
  | globalRoleBinding (subject : SubjectRef) (roles : List String)
  | resourcePermission (target : ResourceRef) (entries : List AccessEntry)
  | teamBinding (team : String) (subject : SubjectRef) (relation : TeamRelation)
  | user (basicRole : String)
  deriving DecidableEq, Repr, Inhabited

/-- The kind of a resource that says this. -/
def ResourceSpec.kind : ResourceSpec → ResourceKind
  | folder _ => .folder
  | globalRole _ => .globalRole
  | role _ => .role
  | roleBinding _ _ => .roleBinding
  | globalRoleBinding _ _ => .globalRoleBinding
  | resourcePermission _ _ => .resourcePermission
  | teamBinding _ _ _ => .teamBinding
  | user _ => .user

/-- A policy resource. -/
structure Resource where
  metadata : Metadata
  spec : ResourceSpec
  deriving DecidableEq, Repr, Inhabited

namespace Resource

/-- The kind of a resource. -/
def kind (r : Resource) : ResourceKind := r.spec.kind

/-- The name of a resource. -/
def name (r : Resource) : String := r.metadata.name

/-- The namespace a resource is listed under: none for a cluster-wide kind, whatever its metadata
says. -/
def listedUnder (r : Resource) : Option String :=
  if r.kind.clusterScoped then none else r.metadata.tenant

end Resource

end PolicySync
