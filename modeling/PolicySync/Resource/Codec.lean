import PolicySync.Json.Decode
import PolicySync.Resource.Basic

/-!
# Resources as JSON

`Resource.encode` writes a resource with its metadata and its specification, `Resource.decode`
reads one of a given kind back, and the tagged forms carry the kind in the resource itself. An
encoded specification has every field but an absent parent; on reading, fields with a default may
be missing.
-/

namespace PolicySync

open Json (Value Decoder DecodeError)

namespace Permission

/-- A permission as JSON. -/
def encode (p : Permission) : Value :=
  .object [("action", .str p.action), ("scope", .str p.scope)]

/-- A permission from JSON; without a scope the scope is empty. -/
def decode : Decoder Permission := fun v => do
  let fields ← Json.record ["action", "scope"] v
  return {
    action := ← Json.required fields "action" Json.string
    scope := ← Json.withDefault fields "scope" "" Json.string }

end Permission

namespace Metadata

/-- Metadata as JSON, without a missing tenant. -/
def encode (m : Metadata) : Value :=
  .object (("name", .str m.name) :: Value.optionalField "namespace" (m.tenant.map .str))

/-- Metadata from JSON. -/
def decode : Decoder Metadata := fun v => do
  let fields ← Json.record ["name", "namespace"] v
  return {
    name := ← Json.required fields "name" Json.string
    tenant := ← Json.optional fields "namespace" Json.string }

end Metadata

/-- A reference to a role as JSON. -/
def encodeRoleRef (name : String) : Value := .object [("name", .str name)]

/-- A reference to a role from JSON. -/
def decodeRoleRef : Decoder String := fun v => do
  Json.required (← Json.record ["name"] v) "name" Json.string

namespace RoleSpec

/-- The specification of a role as JSON. -/
def encode (r : RoleSpec) : Value :=
  .object [("permissions", .list (r.permissions.map Permission.encode)),
    ("permissionsOmitted", .list (r.omitted.map Permission.encode)),
    ("roleRefs", .list (r.refs.map encodeRoleRef))]

/-- The specification of a role from JSON; each missing list is empty. -/
def decode : Decoder RoleSpec := fun v => do
  let fields ← Json.record ["permissions", "permissionsOmitted", "roleRefs"] v
  return {
    permissions := ← Json.withDefault fields "permissions" [] (Json.listOf Permission.decode)
    omitted := ← Json.withDefault fields "permissionsOmitted" [] (Json.listOf Permission.decode)
    refs := ← Json.withDefault fields "roleRefs" [] (Json.listOf decodeRoleRef) }

end RoleSpec

namespace SubjectRef

/-- A subject as JSON. -/
def encode (s : SubjectRef) : Value := .object [("kind", .str s.kind), ("name", .str s.name)]

/-- A subject from JSON. -/
def decode : Decoder SubjectRef := fun v => do
  let fields ← Json.record ["kind", "name"] v
  return {
    kind := ← Json.required fields "kind" Json.string
    name := ← Json.required fields "name" Json.string }

end SubjectRef

namespace ResourceRef

/-- A resource reference as JSON. -/
def encode (r : ResourceRef) : Value := .object [("kind", .str r.kind), ("name", .str r.name)]

/-- A resource reference from JSON. -/
def decode : Decoder ResourceRef := fun v => do
  let fields ← Json.record ["kind", "name"] v
  return {
    kind := ← Json.required fields "kind" Json.string
    name := ← Json.required fields "name" Json.string }

end ResourceRef

namespace AccessEntry

/-- An access entry as JSON. -/
def encode (e : AccessEntry) : Value :=
  .object [("kind", .str e.kind), ("name", .str e.name), ("verb", .str e.verb)]

/-- An access entry from JSON. -/
def decode : Decoder AccessEntry := fun v => do
  let fields ← Json.record ["kind", "name", "verb"] v
  return {
    kind := ← Json.required fields "kind" Json.string
    name := ← Json.required fields "name" Json.string
    verb := ← Json.required fields "verb" Json.string }

end AccessEntry

namespace TeamRelation

/-- A team relation from JSON. -/
def decode : Decoder TeamRelation := Json.choice [("member", .member), ("admin", .admin)]

end TeamRelation

namespace ResourceSpec

/-- What a resource says, as JSON. -/
def encode : ResourceSpec → Value
  | folder parent => .object (Value.optionalField "parent" (parent.map .str))
  | globalRole r => r.encode
  | role r => r.encode
  | roleBinding subject roles | globalRoleBinding subject roles =>
    .object [("subject", subject.encode), ("roleRefs", .list (roles.map encodeRoleRef))]
  | resourcePermission target entries =>
    .object [("resource", target.encode), ("permissions", .list (entries.map AccessEntry.encode))]
  | teamBinding team subject relation =>
    .object [("team", .str team), ("subject", subject.encode), ("permission", .str relation.name)]
  | user basicRole => .object [("role", .str basicRole)]

/-- The subject and the roles of a binding from JSON. -/
def decodeBinding : Decoder (SubjectRef × List String) := fun v => do
  let fields ← Json.record ["subject", "roleRefs"] v
  return (← Json.required fields "subject" SubjectRef.decode,
    ← Json.withDefault fields "roleRefs" [] (Json.listOf decodeRoleRef))

/-- What a resource of a given kind says, from JSON. -/
def decode : ResourceKind → Decoder ResourceSpec
  | .folder => fun v => do
    let fields ← Json.record ["parent"] v
    return folder (← Json.optional fields "parent" Json.string)
  | .globalRole => fun v => globalRole <$> RoleSpec.decode v
  | .role => fun v => role <$> RoleSpec.decode v
  | .roleBinding => fun v => do
    let b ← decodeBinding v
    return roleBinding b.1 b.2
  | .globalRoleBinding => fun v => do
    let b ← decodeBinding v
    return globalRoleBinding b.1 b.2
  | .resourcePermission => fun v => do
    let fields ← Json.record ["resource", "permissions"] v
    return resourcePermission (← Json.required fields "resource" ResourceRef.decode)
      (← Json.withDefault fields "permissions" [] (Json.listOf AccessEntry.decode))
  | .teamBinding => fun v => do
    let fields ← Json.record ["team", "subject", "permission"] v
    return teamBinding (← Json.required fields "team" Json.string)
      (← Json.required fields "subject" SubjectRef.decode)
      (← Json.withDefault fields "permission" .member TeamRelation.decode)
  | .user => fun v => do
    let fields ← Json.record ["role"] v
    return user (← Json.withDefault fields "role" "" Json.string)

/-- What a resource says when it leaves its specification out, for the kinds that may. -/
def absent? : ResourceKind → Option ResourceSpec
  | .folder => some (folder none)
  | .globalRole => some (globalRole {})
  | .role => some (role {})
  | .user => some (user "")
  | _ => none

end ResourceSpec

namespace Resource

/-- The fields of a resource as JSON. -/
def encodeFields (r : Resource) : List (String × Value) :=
  [("metadata", r.metadata.encode), ("spec", r.spec.encode)]

/-- A resource as JSON, its kind left to the context. -/
def encode (r : Resource) : Value := .object r.encodeFields

/-- A resource as JSON, with its kind. -/
def encodeTagged (r : Resource) : Value :=
  .object (("kind", .str r.kind.name) :: r.encodeFields)

/-- A resource of a given kind from JSON. -/
def decode (kind : ResourceKind) : Decoder Resource := fun v => do
  let fields ← Json.record ["metadata", "spec"] v
  let metadata ← Json.required fields "metadata" Metadata.decode
  let spec ←
    match ResourceSpec.absent? kind with
    | some absent => Json.withDefault fields "spec" absent (ResourceSpec.decode kind)
    | none => Json.required fields "spec" (ResourceSpec.decode kind)
  return { metadata, spec }

/-- A kind by its name from JSON. -/
def decodeKind : Decoder ResourceKind := Json.choice (ResourceKind.all.map fun k => (k.name, k))

/-- A resource from JSON that names its kind. -/
def decodeTagged : Decoder Resource := fun v => do
  let kind ← Json.required (v.field? ·) "kind" decodeKind
  decode kind v

end Resource

end PolicySync
