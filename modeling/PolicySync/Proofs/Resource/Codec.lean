import PolicySync.Proofs.Tuple.Codec
import PolicySync.Resource.Codec

/-!
# Resources read back

A resource of any kind that is written as JSON and read again as that kind is the same resource
(`Resource.decode_encode`), so writing what was read, in whatever form it came, and reading it again
changes nothing (`policy_readsBack`).
-/

namespace PolicySync

open Fallible

/-! ## The parts of a resource -/

/-- Permissions are read back. -/
theorem Permission.decode_encode (p : Permission) : decode p.encode = .ok p := rfl

/-- Names are read back, with a tenant or without. -/
theorem Metadata.decode_encode (m : Metadata) : decode m.encode = .ok m := by
  obtain ⟨name, tenant⟩ := m
  cases tenant <;> rfl

/-- References to roles are read back. -/
theorem decodeRoleRef_encodeRoleRef (name : String) :
    decodeRoleRef (encodeRoleRef name) = .ok name := rfl

/-- Subjects are read back. -/
theorem SubjectRef.decode_encode (s : SubjectRef) : decode s.encode = .ok s := rfl

/-- References to resources are read back. -/
theorem ResourceRef.decode_encode (r : ResourceRef) : decode r.encode = .ok r := rfl

/-- Entries of resource permissions are read back. -/
theorem AccessEntry.decode_encode (e : AccessEntry) : decode e.encode = .ok e := rfl

/-- The two words for members of a team are read back. -/
theorem TeamRelation.decode_name (r : TeamRelation) : decode (.str r.name) = .ok r := by
  cases r <;> rfl

/-- Roles are read back. -/
theorem RoleSpec.decode_encode (r : RoleSpec) : decode r.encode = .ok r := by
  have hpermissions := Json.listOf_map Permission.decode_encode r.permissions
  have homitted := Json.listOf_map Permission.decode_encode r.omitted
  have hrefs := Json.listOf_map decodeRoleRef_encodeRoleRef r.refs
  exact bind_eq_ok.2 ⟨_, rfl, bind_eq_ok.2 ⟨_, hpermissions, bind_eq_ok.2 ⟨_, homitted,
    bind_eq_ok.2 ⟨_, hrefs, rfl⟩⟩⟩⟩

/-! ## What resources say -/

namespace ResourceSpec

/-- Bindings are read back. -/
theorem decodeBinding_encode (subject : SubjectRef) (roles : List String) :
    decodeBinding (encode (.roleBinding subject roles)) = .ok (subject, roles) := by
  have hroles := Json.listOf_map decodeRoleRef_encodeRoleRef roles
  exact bind_eq_ok.2 ⟨_, rfl, bind_eq_ok.2 ⟨_, subject.decode_encode, bind_eq_ok.2 ⟨_, hroles, rfl⟩⟩⟩

/-- Every specification is read back as one of its kind. -/
theorem decode_encode (s : ResourceSpec) : decode s.kind s.encode = .ok s := by
  cases s with
  | folder parent => cases parent <;> rfl
  | globalRole r => exact map_eq_ok.2 ⟨r, r.decode_encode, rfl⟩
  | role r => exact map_eq_ok.2 ⟨r, r.decode_encode, rfl⟩
  | roleBinding subject roles =>
    exact bind_eq_ok.2 ⟨_, decodeBinding_encode subject roles, rfl⟩
  | globalRoleBinding subject roles =>
    exact bind_eq_ok.2 ⟨_, decodeBinding_encode subject roles, rfl⟩
  | resourcePermission target entries =>
    have hentries := Json.listOf_map AccessEntry.decode_encode entries
    exact bind_eq_ok.2 ⟨_, rfl, bind_eq_ok.2 ⟨_, target.decode_encode,
      bind_eq_ok.2 ⟨_, hentries, rfl⟩⟩⟩
  | teamBinding team subject relation =>
    exact bind_eq_ok.2 ⟨_, rfl, bind_eq_ok.2 ⟨_, rfl, bind_eq_ok.2 ⟨_, subject.decode_encode,
      bind_eq_ok.2 ⟨_, relation.decode_name, rfl⟩⟩⟩⟩
  | user basicRole => rfl

/-- What is read as a kind is of that kind. -/
theorem kind_of_decode {kind : ResourceKind} {v : Json.Value} {s : ResourceSpec}
    (h : decode kind v = .ok s) : s.kind = kind := by
  -- Each reader ends with the specification of its own kind.
  cases kind with
  | globalRole | role =>
    obtain ⟨r, -, rfl⟩ := map_eq_ok.1 h
    rfl
  | roleBinding | globalRoleBinding =>
    obtain ⟨b, -, h⟩ := bind_eq_ok.1 h
    obtain rfl := pure_eq_ok.1 h
    rfl
  | folder | user =>
    obtain ⟨fields, -, h⟩ := bind_eq_ok.1 h
    obtain ⟨a, -, h⟩ := bind_eq_ok.1 h
    obtain rfl := pure_eq_ok.1 h
    rfl
  | resourcePermission =>
    obtain ⟨fields, -, h⟩ := bind_eq_ok.1 h
    obtain ⟨target, -, h⟩ := bind_eq_ok.1 h
    obtain ⟨entries, -, h⟩ := bind_eq_ok.1 h
    obtain rfl := pure_eq_ok.1 h
    rfl
  | teamBinding =>
    obtain ⟨fields, -, h⟩ := bind_eq_ok.1 h
    obtain ⟨team, -, h⟩ := bind_eq_ok.1 h
    obtain ⟨subject, -, h⟩ := bind_eq_ok.1 h
    obtain ⟨relation, -, h⟩ := bind_eq_ok.1 h
    obtain rfl := pure_eq_ok.1 h
    rfl

/-- So is what stands for a missing specification. -/
theorem kind_of_absent? {kind : ResourceKind} {s : ResourceSpec} (h : absent? kind = some s) :
    s.kind = kind := by
  cases kind <;> cases h <;> rfl

end ResourceSpec

/-! ## Resources -/

namespace Resource

/-- Every resource is read back. -/
theorem decode_encode (r : Resource) : decode r.kind r.encode = .ok r := by
  refine bind_eq_ok.2 ⟨_, rfl, bind_eq_ok.2 ⟨_, r.metadata.decode_encode, ?_⟩⟩
  -- The specification is there, so it does not matter whether it may be left out.
  dsimp only
  split
  · exact bind_eq_ok.2 ⟨r.spec, r.spec.decode_encode, rfl⟩
  · exact bind_eq_ok.2 ⟨r.spec, r.spec.decode_encode, rfl⟩

/-- A resource that was read as a kind is of that kind. -/
theorem kind_of_decode {kind : ResourceKind} {v : Json.Value} {r : Resource}
    (h : decode kind v = .ok r) : r.kind = kind := by
  obtain ⟨fields, -, h⟩ := bind_eq_ok.1 h
  obtain ⟨metadata, -, h⟩ := bind_eq_ok.1 h
  dsimp only at h
  split at h
  · next absent habsent =>
    obtain ⟨spec, hspec, h⟩ := bind_eq_ok.1 h
    obtain rfl := pure_eq_ok.1 h
    rcases Json.of_withDefault_eq_ok hspec with ⟨v, -, hread⟩ | rfl
    · exact ResourceSpec.kind_of_decode hread
    · exact ResourceSpec.kind_of_absent? habsent
  · obtain ⟨spec, hspec, h⟩ := bind_eq_ok.1 h
    obtain rfl := pure_eq_ok.1 h
    obtain ⟨v, -, hread⟩ := Json.of_required_eq_ok hspec
    exact ResourceSpec.kind_of_decode hread

end Resource

/-- What is read and written again reads as before, when everything that is read is read back. -/
theorem decode_encode_decode {α : Type} {encode : α → Json.Value} {decode : Json.Decoder α}
    (h : ∀ v a, decode v = .ok a → decode (encode a) = .ok a) (v : Json.Value) :
    (do decode (encode (← decode v))) = decode v := by
  cases hv : decode v with
  | error e => rfl
  | ok a => exact h v a hv

/-- Resources of every kind are read back as they were written, and so are tuples but for a null
context. So whatever can be read at all, in whatever form, is the same when it is written and read
again. -/
theorem policy_readsBack :
    (∀ r : Resource, Resource.decode r.kind r.encode = .ok r) ∧
    (∀ t : Tuple, Tuple.decode t.encode = .ok t ↔ ¬ t.HasNullContext) ∧
    (∀ kind v, (do Resource.decode kind (← Resource.decode kind v).encode) =
      Resource.decode kind v) ∧
    ∀ v, (do Tuple.decode (← Tuple.decode v).encode) = Tuple.decode v := by
  refine ⟨Resource.decode_encode, fun t => ?_, fun kind => ?_, ?_⟩
  · rw [Tuple.decode_encode, Except.ok.injEq, Tuple.withoutNull_eq_iff]
  · refine decode_encode_decode fun v r hr => ?_
    rw [← Resource.kind_of_decode hr]
    exact r.decode_encode
  · refine decode_encode_decode fun v t ht => ?_
    rw [Tuple.decode_encode, Tuple.withoutNull_of_decode ht]

end PolicySync
