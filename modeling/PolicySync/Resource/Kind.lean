/-!
# Kinds of policy resources

Eight kinds of resources declare policy. Global roles belong to the whole cluster; every other kind
lives in the namespace of a tenant, and `ResourceKind.namespaced` lists those in the order in which
a pass reads them.
-/

namespace PolicySync

/-- The kind of a policy resource. -/
inductive ResourceKind where
  | folder
  | globalRole
  | role
  | roleBinding
  | globalRoleBinding
  | resourcePermission
  | teamBinding
  | user
  deriving DecidableEq, Repr, Inhabited

namespace ResourceKind

/-- Every kind. -/
def all : List ResourceKind :=
  [folder, globalRole, role, roleBinding, globalRoleBinding, resourcePermission, teamBinding, user]

/-- The kinds that live in a namespace, in reading order. -/
def namespaced : List ResourceKind :=
  [folder, role, roleBinding, globalRoleBinding, resourcePermission, teamBinding, user]

/-- The name a resource gives its kind. -/
def name : ResourceKind → String
  | folder => "Folder"
  | globalRole => "GlobalRole"
  | role => "Role"
  | roleBinding => "RoleBinding"
  | globalRoleBinding => "GlobalRoleBinding"
  | resourcePermission => "ResourcePermission"
  | teamBinding => "TeamBinding"
  | user => "User"

/-- The name of a collection of this kind. -/
def plural : ResourceKind → String
  | folder => "folders"
  | globalRole => "globalroles"
  | role => "roles"
  | roleBinding => "rolebindings"
  | globalRoleBinding => "globalrolebindings"
  | resourcePermission => "resourcepermissions"
  | teamBinding => "teambindings"
  | user => "users"

/-- Whether resources of this kind belong to no namespace. -/
def clusterScoped (k : ResourceKind) : Bool := k == globalRole

/-- The position of a kind in the order of declaration. -/
def index : ResourceKind → Nat
  | folder => 0
  | globalRole => 1
  | role => 2
  | roleBinding => 3
  | globalRoleBinding => 4
  | resourcePermission => 5
  | teamBinding => 6
  | user => 7

end ResourceKind

end PolicySync
