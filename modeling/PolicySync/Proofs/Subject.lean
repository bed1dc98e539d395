import PolicySync.Proofs.Fallible
import PolicySync.Proofs.Schema
import PolicySync.Subject

/-!
# Telling subjects apart

Names of subjects are any texts, so one may look like another subject with its type and its relation.
`SubjectKind.Refers` says by which reference each subject is encoded (`SubjectKind.encode_eq_ok_iff`).
Kinds differ in the type before the first colon, where no name reaches, and within a kind the name is
what is left, so no two subjects are encoded alike (`SubjectKind.Refers.unique`). Reading back is
another matter: a mark in the name of a user makes a userset of it. But nobody holds a relation as a
userset of users or of service accounts, so a user that the model accepts is read back as the subject
that it stands for (`SubjectKind.encodings_unambiguous`).
-/

namespace PolicySync

open Fallible

/-! ## Basic roles -/

/-- The three basic roles have their names. -/
theorem BasicRole.ofName_eq_ok_iff {name : String} {role : BasicRole} :
    ofName name = .ok role ↔ role.name = name := by
  constructor
  · intro h
    unfold ofName at h
    split at h
    · next role' hfind =>
      cases h
      have hname := List.find?_some hfind
      exact beq_iff_eq.1 hname
    · cases h
  · rintro rfl
    cases role <;> rfl

/-- The role that stands for a basic role has a name. -/
theorem BasicRole.roleId_ne (role : BasicRole) : role.roleId ≠ "" := by
  cases role <;> decide

/-- It is one that can stand in a reference. -/
theorem BasicRole.unmarked_roleId (role : BasicRole) : Unmarked role.roleId := by
  cases role <;> decide

/-- Different basic roles have different roles. -/
theorem BasicRole.roleId_injective {role role' : BasicRole} (h : role.roleId = role'.roleId) :
    role = role' := by
  cases role <;> cases role' <;> first | rfl | exact absurd h (by decide)

namespace SubjectKind

/-! ## What subjects are encoded as -/

/-- The reference that stands for a subject of a kind and a name. -/
inductive Refers : SubjectKind → String → TypedRef → Prop where
  | user (name : String) : Refers user name { type := "user", id := name }
  | serviceAccount (name : String) :
      Refers serviceAccount name { type := "service-account", id := name }
  | team (name : String) :
      Refers team name { type := "team", id := name, relation := some "member" }
  | basicRole (role : BasicRole) :
      Refers basicRole role.name { type := "role", id := role.roleId, relation := some "assignee" }

variable {kind kind' : SubjectKind} {name name' text : String} {r r' : TypedRef}

/-- A subject is encoded when it has a name, which has to be that of a basic role if it is one, and
the encoding is its reference. -/
theorem encode_eq_ok_iff :
    kind.encode name = .ok text ↔ name ≠ "" ∧ ∃ r, Refers kind name r ∧ r.render = text := by
  constructor
  · intro h
    unfold encode at h
    split at h
    · cases h
    · next hempty =>
      refine ⟨by simpa using hempty, ?_⟩
      cases kind with
      | user =>
        cases h
        exact ⟨_, .user name, rfl⟩
      | serviceAccount =>
        cases h
        exact ⟨_, .serviceAccount name, rfl⟩
      | team =>
        cases h
        exact ⟨_, .team name, rfl⟩
      | basicRole =>
        obtain ⟨role, hrole, rfl⟩ := map_eq_ok.1 h
        obtain rfl := BasicRole.ofName_eq_ok_iff.1 hrole
        exact ⟨_, .basicRole role, rfl⟩
  · rintro ⟨hname, r, hr, rfl⟩
    have hempty : ¬ name.isEmpty = true := by simpa using hname
    unfold encode
    rw [if_neg hempty]
    cases hr with
    | user => rfl
    | serviceAccount => rfl
    | team => rfl
    | basicRole role =>
      show (BasicRole.ofName role.name).map _ = _
      rw [BasicRole.ofName_eq_ok_iff.2 rfl]
      rfl

/-- The type of the references to subjects of a kind. -/
def type : SubjectKind → String
  | .user => "user"
  | .serviceAccount => "service-account"
  | .team => "team"
  | .basicRole => "role"

/-- Subjects of two kinds are of two types. -/
theorem type_injective (h : kind.type = kind'.type) : kind = kind' := by
  cases kind <;> cases kind' <;> first | rfl | exact absurd h (by decide)

/-- No type of subjects has a colon. -/
theorem type_colonless (kind : SubjectKind) : ':' ∉ kind.type.toList := by
  cases kind <;> decide

/-- A reference to a subject is of the type of its kind. -/
theorem Refers.type_eq (h : Refers kind name r) : r.type = kind.type := by
  cases h <;> rfl

/-- Subjects with references that are written alike are the same. -/
theorem Refers.unique (h : Refers kind name r) (h' : Refers kind' name' r')
    (heq : r.render = r'.render) : kind = kind' ∧ name = name' := by
  -- The type is read off the text, and then the kind, since the types differ.
  have htype : r.type = r'.type := by
    refine TypedRef.type_eq_of_render_eq ?_ ?_ heq
    · rw [h.type_eq]
      exact kind.type_colonless
    · rw [h'.type_eq]
      exact kind'.type_colonless
  rw [h.type_eq, h'.type_eq] at htype
  obtain rfl := type_injective htype
  refine ⟨rfl, ?_⟩
  cases h with
  | user =>
    cases h'
    exact objectRef_inj.1 heq
  | serviceAccount =>
    cases h'
    exact objectRef_inj.1 heq
  | team =>
    cases h'
    exact usersetRef_inj.1 heq
  | basicRole role =>
    cases h' with
    | basicRole role' => rw [BasicRole.roleId_injective (usersetRef_inj.1 heq)]

/-! ## Reading subjects back -/

/-- A reference to a subject is well formed, unless it names a user or a service account with a mark in
the name. -/
theorem Refers.wellFormed (h : Refers kind name r) (hname : name ≠ "")
    (hmark : r.relation = none → Unmarked name) : r.WellFormed := by
  cases h with
  | user => exact TypedRef.wellFormed_thing.2 ⟨by decide, by decide, hname, hmark rfl⟩
  | serviceAccount => exact TypedRef.wellFormed_thing.2 ⟨by decide, by decide, hname, hmark rfl⟩
  | team => exact TypedRef.wellFormed_userset.2 ⟨by decide, by decide, hname, by decide, by decide⟩
  | basicRole role =>
    exact TypedRef.wellFormed_userset.2
      ⟨by decide, by decide, role.roleId_ne, by decide, by decide⟩

/-- A subject without a relation is a user or a service account of that name. -/
theorem Refers.of_relation_eq_none (h : Refers kind name r) (hnone : r.relation = none) :
    r.type ∈ ["user", "service-account", "folder"] ∧ r.render = objectRef r.type name := by
  cases h with
  | user => exact ⟨by simp, rfl⟩
  | serviceAccount => exact ⟨by simp, rfl⟩
  | team => cases hnone
  | basicRole => cases hnone

/-- A user of a key without a fault is read back as the subject that it stands for. -/
theorem Refers.parse?_of_fault? {k : TupleKey} (h : Refers kind name r) (hname : name ≠ "")
    (huser : r.render = k.user) (hfault : Schema.fault? k = none) :
    TypedRef.parse? k.user = some r := by
  obtain ⟨object, user, -, -, hparse, allowed, hallowed, hholder⟩ :=
    Schema.fault?_eq_none_iff.1 hfault
  rw [← huser] at hparse ⊢
  refine (TypedRef.parse?_render r).2 (h.wellFormed hname fun hnone => ?_)
  -- What is read is of the same type, and users of that type hold relations themselves.
  obtain ⟨hdirect, hrender⟩ := h.of_relation_eq_none hnone
  rw [hrender] at hparse
  have hcolon : ':' ∉ r.type.toList := h.type_eq ▸ kind.type_colonless
  obtain ⟨htype, hunmarked⟩ := TypedRef.of_parse?_objectRef hcolon hparse
  have hlist := (Schema.allowedUsers_cases hallowed).2
  exact hunmarked ((Schema.relation_eq_none_iff allowed hlist _ hholder).2 (htype ▸ hdirect))

/-- A subject is the only one with its encoding. If that is the user of a tuple and the model accepts
the tuple, then the user is read back as the reference to the subject. -/
theorem encodings_unambiguous (h : encode kind name = .ok text) :
    (∀ kind' name', encode kind' name' = .ok text ↔ kind' = kind ∧ name' = name) ∧
    ∀ t : Tuple, t.key.user = text → Schema.validate t = .ok () →
      ∃ r, TypedRef.parse? text = some r ∧ Refers kind name r := by
  obtain ⟨hname, r, hr, hrender⟩ := encode_eq_ok_iff.1 h
  constructor
  · intro kind' name'
    constructor
    · intro h'
      obtain ⟨-, r', hr', hrender'⟩ := encode_eq_ok_iff.1 h'
      exact hr'.unique hr (hrender'.trans hrender.symm)
    · rintro ⟨rfl, rfl⟩
      exact h
  · rintro t rfl hvalid
    exact ⟨r, hr.parse?_of_fault? hname hrender (Schema.validate_eq_ok_iff.1 hvalid), hr⟩

/-- A team with a name that looks like one of the users of another. -/
theorem encodings_unambiguous_nested :
    (∀ kind name, encode kind name = .ok "team:user:ann#member#member" ↔
      kind = .team ∧ name = "user:ann#member") ∧
    ∃ r, TypedRef.parse? "team:user:ann#member#member" = some r ∧
      Refers .team "user:ann#member" r := by
  have hencode : encode .team "user:ann#member" = .ok "team:user:ann#member#member" := rfl
  have hvalid : Schema.validate (.relate "team:user:ann#member#member" "assignee" "role:editor") =
      .ok () := by decide
  obtain ⟨honly, hread⟩ := encodings_unambiguous hencode
  exact ⟨honly, hread _ rfl hvalid⟩

end SubjectKind

end PolicySync
