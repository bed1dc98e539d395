import PolicySync.PolicyError
import PolicySync.Tuple.Basic
import PolicySync.Tuple.Reference

/-!
# The authorization model

For every relation of a type of object, `Schema.allowedUsers` lists the types of users that may
hold it. `Schema.validate` accepts a tuple when its object and user are references and the model
lets that type of user hold the relation.
-/

namespace PolicySync.Schema

/-- A type of user; with a relation, everyone who has it to a thing of the type. -/
structure UserType where
  type : String
  relation : Option String := none
  deriving DecidableEq, Repr

namespace UserType

/-- The user type in words. -/
def display (u : UserType) : String :=
  match u.relation with
  | some relation => u.type ++ "#" ++ relation
  | none => u.type

end UserType

/-- Everyone a role can be assigned to. -/
def subjects : List UserType :=
  [⟨"user", none⟩, ⟨"service-account", none⟩, ⟨"team", some "member"⟩, ⟨"role", some "assignee"⟩]

/-- Everyone who can be in a team. -/
def teamMembers : List UserType := [⟨"user", none⟩, ⟨"service-account", none⟩]

/-- The assignees of a role. -/
def roleAssignees : List UserType := [⟨"role", some "assignee"⟩]

/-- Folders themselves. -/
def folders : List UserType := [⟨"folder", none⟩]

/-- The relations that the grants of a role carry. -/
def grantRelations : List String :=
  ["get", "update", "create", "delete", "get_permissions", "set_permissions"]

/-- The relations that give access to one resource. -/
def resourceVerbs : List String := ["view", "edit", "admin"]

/-- What comes before `ending` in a text. -/
def before? (ending text : List Char) : Option (List Char) :=
  if ending.isSuffixOf text then some (text.take (text.length - ending.length)) else none

/-- Whether a relation is a kind and a grant relation joined by an underscore, which on a folder
grants on every resource of the kind inside it. -/
def isFolderKindGrant (relation : String) : Bool :=
  grantRelations.any fun grant =>
    match before? ('_' :: grant.toList) relation.toList with
    | some kind => !kind.isEmpty
    | none => false

/-- The types of users that may hold a relation to objects of a type, if the relation is defined
there. -/
def allowedUsers (type relation : String) : Option (List UserType) :=
  if type = "role" ∧ relation = "assignee" then some subjects
  else if type = "team" ∧ (relation = "member" ∨ relation = "admin") then some teamMembers
  else if type = "folder" ∧ relation = "parent" then some folders
  else if (type = "folder" ∨ type = "resource") ∧ relation ∈ resourceVerbs then some subjects
  else if (type = "folder" ∨ type = "resource" ∨ type = "group_resource")
      ∧ relation ∈ grantRelations then some roleAssignees
  else if type = "folder" ∧ isFolderKindGrant relation then some roleAssignees
  else none

/-- How a key fails the model, if it does. -/
def fault? (k : TupleKey) : Option SchemaFault :=
  match (TypedRef.parse? k.object).filter (·.relation.isNone) with
  | none => some .malformedObject
  | some object =>
    match TypedRef.parse? k.user with
    | none => some .malformedUser
    | some user =>
      match allowedUsers object.type k.relation with
      | none => some (.undefinedRelation k.relation object.type)
      | some allowed =>
        let holder : UserType := ⟨user.type, user.relation⟩
        if holder ∈ allowed then none
        else some (.forbiddenHolder holder.display k.relation object.type)

/-- Accepts a tuple that fits the model. -/
def validate (t : Tuple) : Except PolicyError Unit :=
  match fault? t.key with
  | none => .ok ()
  | some fault => .error (.schemaViolation t.key.display fault)

end PolicySync.Schema
