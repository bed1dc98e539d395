import PolicySync.Permission

/-!
# What can be wrong with a policy

`PolicyError` lists the reasons why a resource does not stand for tuples, or why a tuple does not
fit the authorization model; `PolicyError.message` says each in words.
-/

namespace PolicySync

/-- The part of a permission that does not have its required shape. -/
inductive PermissionPart where
  | action
  | scope
  deriving DecidableEq, Repr

namespace PermissionPart

/-- The shape that a part has to have. -/
def requirement : PermissionPart → String
  | action => "action must be <kind>:<verb>"
  | scope => "scope must be *, <kind>:* or <kind>:<attribute>:<id>"

end PermissionPart

/-- How a tuple fails the authorization model. -/
inductive SchemaFault where
  | malformedObject
  | malformedUser
  | undefinedRelation (relation type : String)
  | forbiddenHolder (holder relation type : String)
  | ownParent
  deriving DecidableEq, Repr

namespace SchemaFault

/-- The fault in words. -/
def message : SchemaFault → String
  | malformedObject => "object must be <type>:<id>"
  | malformedUser => "user must be <type>:<id> or <type>:<id>#<relation>"
  | undefinedRelation relation type => s!"relation {relation} is not defined on type {type}"
  | forbiddenHolder holder relation type => s!"{holder} may not hold {relation} on {type}"
  | ownParent => "folder cannot be its own parent"

end SchemaFault

/-- Why a policy cannot be turned into tuples. -/
inductive PolicyError where
  | unknownSubjectKind (kind : String)
  | subjectKindNotAllowed (kind context : String)
  | unknownBasicRole (name : String)
  | unknownRoleRef (role reference : String)
  | malformedPermission (permission : Permission) (part : PermissionPart)
  | unsupportedVerb (verb context : String)
  | missingField (field : String)
  | schemaViolation (tuple : String) (fault : SchemaFault)
  deriving DecidableEq, Repr

namespace PolicyError

/-- The error in words. -/
def message : PolicyError → String
  | unknownSubjectKind kind => s!"unknown subject kind: {kind}"
  | subjectKindNotAllowed kind context => s!"subject kind {kind} is not allowed for {context}"
  | unknownBasicRole name => s!"unknown basic role: {name}"
  | unknownRoleRef role reference => s!"role {role} references unknown role {reference}"
  | malformedPermission p part =>
    "malformed permission (" ++ p.action ++ ", " ++ p.scope ++ "): " ++ part.requirement
  | unsupportedVerb verb context => s!"unsupported verb {verb} in {context}"
  | missingField field => s!"missing field: {field}"
  | schemaViolation tuple fault => s!"tuple {tuple} violates schema: " ++ fault.message

end PolicyError

end PolicySync
