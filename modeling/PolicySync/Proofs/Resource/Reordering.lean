import PolicySync.Proofs.Json.Reordering
import PolicySync.Proofs.Resource.Codec

/-!
# Resources in any order of fields

No reader of a part of a resource depends on the order of fields, so a specification is read back from
every value that differs in that order only from what was written
(`ResourceSpec.decode_of_reordered`).
-/

namespace PolicySync

open Json (Respects record_bind_congr required_congr withDefault_congr optional_congr
  respects_string respects_listOf respects_choice)
open Json.Value (Reordered)

/-! ## The parts of a resource -/

/-- Permissions are read in any order of fields. -/
theorem Permission.respects_decode : Respects decode := by
  intro v w h
  refine record_bind_congr h fun f g hfields => ?_
  rw [required_congr (hfields "action" (by simp)) respects_string,
    withDefault_congr (hfields "scope" (by simp)) respects_string]

/-- So are references to roles. -/
theorem respects_decodeRoleRef : Respects decodeRoleRef := by
  intro v w h
  exact record_bind_congr h fun f g hfields =>
    required_congr (hfields "name" (by simp)) respects_string

/-- So are roles, with the permissions inside. -/
theorem RoleSpec.respects_decode : Respects decode := by
  intro v w h
  refine record_bind_congr h fun f g hfields => ?_
  have hpermissions := respects_listOf Permission.respects_decode
  rw [withDefault_congr (hfields "permissions" (by simp)) hpermissions,
    withDefault_congr (hfields "permissionsOmitted" (by simp)) hpermissions,
    withDefault_congr (hfields "roleRefs" (by simp)) (respects_listOf respects_decodeRoleRef)]

/-- A word has no fields. -/
theorem TeamRelation.respects_decode : Respects decode := respects_choice

/-- Subjects are read in any order of fields. -/
theorem SubjectRef.respects_decode : Respects decode := by
  intro v w h
  refine record_bind_congr h fun f g hfields => ?_
  rw [required_congr (hfields "kind" (by simp)) respects_string,
    required_congr (hfields "name" (by simp)) respects_string]

/-- So are references to resources. -/
theorem ResourceRef.respects_decode : Respects decode := by
  intro v w h
  refine record_bind_congr h fun f g hfields => ?_
  rw [required_congr (hfields "kind" (by simp)) respects_string,
    required_congr (hfields "name" (by simp)) respects_string]

/-- So are entries of resource permissions. -/
theorem AccessEntry.respects_decode : Respects decode := by
  intro v w h
  refine record_bind_congr h fun f g hfields => ?_
  rw [required_congr (hfields "kind" (by simp)) respects_string,
    required_congr (hfields "name" (by simp)) respects_string,
    required_congr (hfields "verb" (by simp)) respects_string]

/-! ## What resources say -/

namespace ResourceSpec

/-- Bindings are read in any order of fields, with the subject and the roles inside. -/
theorem respects_decodeBinding : Respects decodeBinding := by
  intro v w h
  refine record_bind_congr h fun f g hfields => ?_
  rw [required_congr (hfields "subject" (by simp)) SubjectRef.respects_decode,
    withDefault_congr (hfields "roleRefs" (by simp)) (respects_listOf respects_decodeRoleRef)]

/-- A specification is read alike in every order of its fields, or fails alike. -/
theorem respects_decode (kind : ResourceKind) : Respects (decode kind) := by
  intro v w h
  cases kind with
  | folder =>
    refine record_bind_congr h fun f g hfields => ?_
    rw [optional_congr (hfields "parent" (by simp)) respects_string]
  | globalRole | role =>
    dsimp only [decode]
    rw [RoleSpec.respects_decode h]
  | roleBinding | globalRoleBinding =>
    dsimp only [decode]
    rw [respects_decodeBinding h]
  | resourcePermission =>
    refine record_bind_congr h fun f g hfields => ?_
    rw [required_congr (hfields "resource" (by simp)) ResourceRef.respects_decode,
      withDefault_congr (hfields "permissions" (by simp))
        (respects_listOf AccessEntry.respects_decode)]
  | teamBinding =>
    refine record_bind_congr h fun f g hfields => ?_
    rw [required_congr (hfields "team" (by simp)) respects_string,
      required_congr (hfields "subject" (by simp)) SubjectRef.respects_decode,
      withDefault_congr (hfields "permission" (by simp)) TeamRelation.respects_decode]
  | user =>
    refine record_bind_congr h fun f g hfields => ?_
    rw [withDefault_congr (hfields "role" (by simp)) respects_string]

/-- A specification is read back in whatever order its fields come. -/
theorem decode_of_reordered {s : ResourceSpec} {v : Json.Value} (h : Reordered v s.encode) :
    decode s.kind v = .ok s := by
  rw [respects_decode s.kind h]
  exact s.decode_encode

end ResourceSpec

end PolicySync
