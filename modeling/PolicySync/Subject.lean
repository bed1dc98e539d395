import PolicySync.PolicyError
import PolicySync.Tuple.Reference

/-!
# Subjects

A subject is a user, a service account, a team or a basic role. `SubjectKind.encode` writes it as
the user of a tuple: a team stands for its members and a basic role for its assignees, so one tuple
reaches everyone in them.
-/

namespace PolicySync

/-- What a subject is. -/
inductive SubjectKind where
  | user
  | serviceAccount
  | team
  | basicRole
  deriving DecidableEq, Repr, Inhabited

/-- The coarse role a user can have. -/
inductive BasicRole where
  | none
  | viewer
  | editor
  | admin
  deriving DecidableEq, Repr, Inhabited

namespace BasicRole

/-- Every basic role. -/
def all : List BasicRole := [none, viewer, editor, admin]

/-- The name users give a basic role. -/
def name : BasicRole → String
  | none => "None"
  | viewer => "Viewer"
  | editor => "Editor"
  | admin => "Admin"

/-- The role that stands for a basic role in tuples. -/
def roleId : BasicRole → String
  | none => "basic_none"
  | viewer => "basic_viewer"
  | editor => "basic_editor"
  | admin => "basic_admin"

/-- The basic role of a name. -/
def ofName (s : String) : Except PolicyError BasicRole :=
  match all.find? (·.name == s) with
  | some role => .ok role
  | Option.none => .error (.unknownBasicRole s)

end BasicRole

namespace SubjectKind

/-- Every kind of subject. -/
def all : List SubjectKind := [user, serviceAccount, team, basicRole]

/-- The word for a kind of subject. -/
def name : SubjectKind → String
  | user => "user"
  | serviceAccount => "service-account"
  | team => "team"
  | basicRole => "basic-role"

/-- The kind of subject that a word names. -/
def ofName (s : String) : Except PolicyError SubjectKind :=
  match all.find? (·.name == s) with
  | some kind => .ok kind
  | none => .error (.unknownSubjectKind s)

/-- A subject as the user of a tuple. -/
def encode (kind : SubjectKind) (name : String) : Except PolicyError String :=
  if name.isEmpty then .error (.missingField "subject name")
  else
    match kind with
    | user => .ok (objectRef "user" name)
    | serviceAccount => .ok (objectRef "service-account" name)
    | team => .ok (usersetRef "team" name "member")
    | basicRole => (BasicRole.ofName name).map fun role => usersetRef "role" role.roleId "assignee"

end SubjectKind

end PolicySync
