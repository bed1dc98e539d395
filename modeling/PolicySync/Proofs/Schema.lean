import PolicySync.Proofs.Tuple.Reference
import PolicySync.Resource.Basic
import PolicySync.Schema

/-!
# What the authorization model accepts

A key `Fits` the model when it relates someone of a type to a thing of a type, both with a name, and
the model lets that type of user hold the relation to such things. What such a key can still fail on
is a mark `#` in a name, which makes a thing look like a userset (`Fits.validate_eq_ok_iff`). The name
of a userset may hold marks, since its relation stands after the last one.

A relation that names a kind is the kind and a grant relation around an underscore (`IsKindGrant`). Kinds
may hold underscores and be like grant relations themselves, and two grant relations hold an underscore.
Still the relation tells both parts (`IsKindGrant.unique`), since no grant relation ends in an underscore
and another one (`grantRelations_apart`).
-/

namespace PolicySync.Schema

/-- The reference to the one of a name, or to everyone who has the relation of the type to it. -/
def UserType.ref (u : UserType) (name : String) : String :=
  TypedRef.render { type := u.type, id := name, relation := u.relation }

/-- A user that is named itself, and not as one of a userset. -/
def IsDirect (user : String) : Prop :=
  ∃ type ∈ ["user", "service-account", "folder"], ∃ name, user = objectRef type name

/-- The model lets a type of user hold a relation to things of a type. -/
def Allows (holder : UserType) (relation type : String) : Prop :=
  ∃ allowed, allowedUsers type relation = some allowed ∧ holder ∈ allowed

/-- A key relates the one of a name to a thing, as the model allows for their types. -/
structure Fits (k : TupleKey) (holder : UserType) (name type id : String) : Prop where
  user : k.user = holder.ref name
  object : k.object = objectRef type id
  name_ne : name ≠ ""
  id_ne : id ≠ ""
  allows : Allows holder k.relation type

/-! ## The table -/

/-- The types of things that relations are defined on. -/
def objectTypes : List String := ["role", "team", "folder", "resource", "group_resource"]

/-- The lists of users that may hold a relation. -/
def userLists : List (List UserType) := [subjects, teamMembers, folders, roleAssignees]

/-- The table has rows for the known types only, and only the known lists of users. -/
theorem allowedUsers_cases {type relation : String} {allowed : List UserType}
    (h : allowedUsers type relation = some allowed) : type ∈ objectTypes ∧ allowed ∈ userLists := by
  unfold allowedUsers at h
  split at h
  · next hrole => cases h; simp [objectTypes, userLists, hrole.1]
  split at h
  · next hteam => cases h; simp [objectTypes, userLists, hteam.1]
  split at h
  · next hparent => cases h; simp [objectTypes, userLists, hparent.1]
  split at h
  · next hverb => cases h; rcases hverb.1 with rfl | rfl <;> simp [objectTypes, userLists]
  split at h
  · next hgrant => cases h; rcases hgrant.1 with rfl | rfl | rfl <;> simp [objectTypes, userLists]
  split at h
  · next hkind => cases h; simp [objectTypes, userLists, hkind.1]
  · cases h

/-- Types of things hold neither a colon nor a mark. -/
theorem objectTypes_wellFormed :
    ∀ type ∈ objectTypes, type ≠ "" ∧ ':' ∉ type.toList ∧ '#' ∉ type.toList := by
  decide

/-- Types of users hold neither a colon nor a mark, and their relations hold no mark. -/
theorem userLists_wellFormed : ∀ allowed ∈ userLists, ∀ u ∈ allowed,
    u.type ≠ "" ∧ ':' ∉ u.type.toList ∧ '#' ∉ u.type.toList ∧
      ∀ relation ∈ u.relation, relation ≠ "" ∧ '#' ∉ relation.toList := by
  decide

/-- Users that may hold a relation are told apart by their types. -/
theorem eq_of_type_eq :
    ∀ allowed ∈ userLists, ∀ u ∈ allowed, ∀ v ∈ allowed, u.type = v.type → u = v := by
  decide

/-- Users, service accounts and folders hold relations themselves, and no others do. -/
theorem relation_eq_none_iff : ∀ allowed ∈ userLists, ∀ u ∈ allowed,
    (u.relation = none ↔ u.type ∈ ["user", "service-account", "folder"]) := by
  decide

/-! ## Relations that name a kind -/

/-- What comes before an ending is cut off it. -/
theorem before?_append (ending text : List Char) : before? ending (text ++ ending) = some text := by
  have hsuffix : ending.isSuffixOf (text ++ ending) = true :=
    List.isSuffixOf_iff_suffix.2 (List.suffix_append text ending)
  rw [before?, if_pos hsuffix]
  simp

/-- What comes before an ending, and the ending, make the text. -/
theorem eq_of_before? {ending text rest : List Char} (h : before? ending text = some rest) :
    text = rest ++ ending := by
  unfold before? at h
  split at h
  · next hsuffix =>
    obtain ⟨rest', rfl⟩ := List.isSuffixOf_iff_suffix.1 hsuffix
    simpa using h
  · cases h

section KindGrants

variable {relation kind kind' grant grant' : String}

/-- A relation is a kind and a grant relation around an underscore. -/
structure IsKindGrant (relation kind grant : String) : Prop where
  eq : relation = kind ++ "_" ++ grant
  kind_ne : kind ≠ ""
  grant_mem : grant ∈ grantRelations

/-- The characters of a relation that names a kind and a grant. -/
theorem toList_kindGrant (kind grant : String) :
    (kind ++ "_" ++ grant).toList = kind.toList ++ '_' :: grant.toList := by
  simp

/-- No grant relation is, after a first part of it, an underscore and a grant relation. -/
theorem grantRelations_apart : ∀ grant ∈ grantRelations, ∀ grant' ∈ grantRelations,
    ¬ ('_' :: grant'.toList) <:+ grant.toList := by
  decide

/-- Whatever comes before the underscores, the grant relations after them tell relations apart. -/
theorem eq_of_kindGrant_eq (hgrant : grant ∈ grantRelations) (hgrant' : grant' ∈ grantRelations)
    (h : kind ++ "_" ++ grant = kind' ++ "_" ++ grant') : kind = kind' ∧ grant = grant' := by
  rw [← String.toList_inj, toList_kindGrant, toList_kindGrant, Text.glued_eq_iff] at h
  rcases h with ⟨hkind, hsame⟩ | ⟨x, -, hlonger⟩ | ⟨x, -, hlonger⟩
  · exact ⟨String.toList_inj.1 hkind, String.toList_inj.1 hsame⟩
  · exact absurd ⟨x, hlonger.symm⟩ (grantRelations_apart grant hgrant grant' hgrant')
  · exact absurd ⟨x, hlonger.symm⟩ (grantRelations_apart grant' hgrant' grant hgrant)

/-- The check of such relations finds those that can be cut into a kind and a grant. -/
theorem isFolderKindGrant_iff :
    isFolderKindGrant relation = true ↔ ∃ kind grant, IsKindGrant relation kind grant := by
  rw [isFolderKindGrant, List.any_eq_true]
  constructor
  · rintro ⟨grant, hgrant, h⟩
    split at h
    · next front hfront =>
      refine ⟨String.ofList front, grant, ?_, by simpa using h, hgrant⟩
      rw [← String.toList_inj, toList_kindGrant, String.toList_ofList, eq_of_before? hfront]
    · cases h
  · rintro ⟨kind, grant, rfl, hkind, hgrant⟩
    refine ⟨grant, hgrant, ?_⟩
    rw [toList_kindGrant, before?_append]
    simpa using hkind

namespace IsKindGrant

/-- A relation tells its kind and its grant relation. -/
theorem unique (h : IsKindGrant relation kind grant) (h' : IsKindGrant relation kind' grant') :
    kind = kind' ∧ grant = grant' :=
  eq_of_kindGrant_eq h.grant_mem h'.grant_mem (h.eq.symm.trans h'.eq)

/-- A relation of a kind is no plain grant. -/
theorem not_mem_grantRelations (h : IsKindGrant relation kind grant) :
    relation ∉ grantRelations := by
  intro hmem
  refine grantRelations_apart relation hmem grant h.grant_mem ⟨kind.toList, ?_⟩
  rw [h.eq, toList_kindGrant]

/-- It has an underscore, which no verb has. -/
theorem underscore_mem (h : IsKindGrant relation kind grant) : '_' ∈ relation.toList := by
  rw [h.eq, toList_kindGrant]
  simp

/-- So it is no verb. -/
theorem not_mem_resourceVerbs (h : IsKindGrant relation kind grant) : relation ∉ resourceVerbs := by
  have hnone : ∀ verb ∈ resourceVerbs, '_' ∉ verb.toList := by decide
  exact fun hmem => hnone relation hmem h.underscore_mem

/-- Nor is it the relation between folders. -/
theorem ne_parent (h : IsKindGrant relation kind grant) : relation ≠ "parent" := by
  rintro rfl
  exact absurd h.underscore_mem (by decide)

end IsKindGrant

end KindGrants

/-! ## What the table allows -/

/-- Roles are assigned to subjects. -/
theorem allows_assignee {holder : UserType} (h : holder ∈ subjects) :
    Allows holder "assignee" "role" :=
  ⟨subjects, rfl, h⟩

/-- Teams have users for members. -/
theorem allows_teamRelation {holder : UserType} (h : holder ∈ teamMembers) (relation : TeamRelation) :
    Allows holder relation.name "team" := by
  cases relation with
  | member => exact ⟨teamMembers, by decide, h⟩
  | admin => exact ⟨teamMembers, by decide, h⟩

/-- Folders are the parents of folders. -/
theorem allows_parent : Allows ⟨"folder", none⟩ "parent" "folder" :=
  ⟨folders, by decide, by decide⟩

/-- Subjects are given verbs on folders and on other resources. -/
theorem allows_verb {holder : UserType} (h : holder ∈ subjects) {verb : String}
    (hverb : verb ∈ resourceVerbs) {type : String} (htype : type ∈ ["folder", "resource"]) :
    Allows holder verb type := by
  have hall : ∀ type ∈ ["folder", "resource"], ∀ verb ∈ resourceVerbs,
      allowedUsers type verb = some subjects := by decide
  exact ⟨subjects, hall type htype verb hverb, h⟩

/-- The holders of a role are given grants on folders, resources and whole kinds. -/
theorem allows_grant {relation : String} (hrelation : relation ∈ grantRelations) {type : String}
    (htype : type ∈ ["folder", "resource", "group_resource"]) :
    Allows ⟨"role", some "assignee"⟩ relation type := by
  have hall : ∀ type ∈ ["folder", "resource", "group_resource"], ∀ relation ∈ grantRelations,
      allowedUsers type relation = some roleAssignees := by decide
  exact ⟨roleAssignees, hall type htype relation hrelation, List.mem_singleton_self _⟩

/-- A kind and a grant relation joined by an underscore are a relation on folders, whatever the kind
holds. -/
theorem allows_kindGrant {kind relation : String} (hkind : kind ≠ "")
    (hrelation : relation ∈ grantRelations) :
    Allows ⟨"role", some "assignee"⟩ (kind ++ "_" ++ relation) "folder" := by
  have hgrant : IsKindGrant (kind ++ "_" ++ relation) kind relation := ⟨rfl, hkind, hrelation⟩
  have hfolder : isFolderKindGrant (kind ++ "_" ++ relation) = true :=
    isFolderKindGrant_iff.2 ⟨_, _, hgrant⟩
  refine ⟨roleAssignees, ?_, List.mem_singleton_self _⟩
  simp [allowedUsers, hgrant.ne_parent, hgrant.not_mem_resourceVerbs, hfolder]

/-! ## Keys that fit -/

/-- A tuple is accepted when no fault is found with its key. -/
theorem validate_eq_ok_iff {t : Tuple} : validate t = .ok () ↔ fault? t.key = none := by
  unfold validate
  cases fault? t.key with
  | none => simp
  | some fault => simp

/-- A key has no fault when its object is a thing, its user is a reference, and the model lets users of
that type hold the relation to things of that type. -/
theorem fault?_eq_none_iff {k : TupleKey} : fault? k = none ↔ ∃ object user,
    TypedRef.parse? k.object = some object ∧ object.relation = none ∧
      TypedRef.parse? k.user = some user ∧
        Allows ⟨user.type, user.relation⟩ k.relation object.type := by
  constructor
  · intro h
    -- Object, user and table are looked at in this order, and the first fault counts.
    unfold fault? at h
    split at h
    · cases h
    · next object hobject =>
      split at h
      · cases h
      · next user huser =>
        split at h
        · cases h
        · next allowed hallowed =>
          obtain ⟨hparse, hthing⟩ := Option.filter_eq_some_iff.1 hobject
          have hholder : (⟨user.type, user.relation⟩ : UserType) ∈ allowed := by simpa using h
          exact ⟨object, user, hparse, Option.isNone_iff_eq_none.1 hthing, huser, allowed, hallowed,
            hholder⟩
  · rintro ⟨object, user, hobject, hthing, huser, allowed, hallowed, hholder⟩
    simp [fault?, hobject, Option.filter_some, hthing, huser, hallowed, hholder]

namespace Fits

variable {k : TupleKey} {holder : UserType} {name type id : String}

/-- What fits has an object of a known type. -/
theorem type_mem (h : Fits k holder name type id) : type ∈ objectTypes := by
  obtain ⟨allowed, hallowed, -⟩ := h.allows
  exact (allowedUsers_cases hallowed).1

/-- Its user is on one of the lists of the table. -/
theorem exists_userLists (h : Fits k holder name type id) : ∃ allowed ∈ userLists, holder ∈ allowed := by
  obtain ⟨allowed, hallowed, hmem⟩ := h.allows
  exact ⟨allowed, (allowedUsers_cases hallowed).2, hmem⟩

/-- A fault in the object or in the user of a key that fits is a mark in a name. -/
theorem fault?_eq_none_iff (h : Fits k holder name type id) :
    fault? k = none ↔ Unmarked id ∧ (holder.relation = none → Unmarked name) := by
  obtain ⟨allowed, hallowed, hholder⟩ := h.allows
  obtain ⟨htype, hlist⟩ := allowedUsers_cases hallowed
  obtain ⟨htypeNe, htypeColon, -⟩ := objectTypes_wellFormed type htype
  obtain ⟨hholderNe, hholderColon, -, hrelation⟩ := userLists_wellFormed allowed hlist holder hholder
  rw [fault?, h.object]
  -- The object is read first, and the user only if that is a thing.
  by_cases hid : Unmarked id
  · have hobject := TypedRef.parse?_objectRef htypeColon htypeNe h.id_ne hid
    have hthing : (some ({ type, id } : TypedRef)).filter (·.relation.isNone) = some { type, id } := rfl
    rw [hobject, hthing]
    simp only [h.user, UserType.ref, TypedRef.render, hid, true_and]
    cases hrel : holder.relation with
    | some relation =>
      obtain ⟨hrelationNe, hrelationMark⟩ := hrelation relation hrel
      have huser := TypedRef.parse?_usersetRef hholderColon hholderNe h.name_ne hrelationNe
        hrelationMark
      have hsame : (⟨holder.type, some relation⟩ : UserType) = holder := by rw [← hrel]
      simp [huser, hallowed, hsame, hholder]
    | none =>
      have hsame : (⟨holder.type, none⟩ : UserType) = holder := by rw [← hrel]
      by_cases hname : Unmarked name
      · have huser := TypedRef.parse?_objectRef hholderColon hholderNe h.name_ne hname
        simp [huser, hallowed, hsame, hholder, hname]
      · -- A marked name makes a userset of the user, or nothing at all.
        simp only [hname, imp_false, not_true_eq_false, iff_false]
        cases hparse : TypedRef.parse? (objectRef holder.type name) with
        | none => simp
        | some user =>
          obtain ⟨htypeEq, hrelationNone⟩ := TypedRef.of_parse?_objectRef hholderColon hparse
          have hnot : (⟨user.type, user.relation⟩ : UserType) ∉ allowed := by
            intro hmem
            have heq := eq_of_type_eq allowed hlist _ hmem holder hholder htypeEq
            have hnone : user.relation = none := (congrArg UserType.relation heq).trans hrel
            exact hname (hrelationNone hnone)
          simp [hallowed, hnot]
  · -- A marked id makes the object no thing.
    have hobject : (TypedRef.parse? (objectRef type id)).filter (·.relation.isNone) = none := by
      rw [Option.filter_eq_none_iff]
      intro object hparse hnone
      exact hid ((TypedRef.of_parse?_objectRef htypeColon hparse).2 (Option.isNone_iff_eq_none.1 hnone))
    simp [hobject, hid]

/-- Someone holds a relation without being one of a userset when the reference names them. -/
theorem isDirect_iff (h : Fits k holder name type id) : IsDirect k.user ↔ holder.relation = none := by
  obtain ⟨allowed, hlist, hholder⟩ := h.exists_userLists
  obtain ⟨-, hcolon, -⟩ := userLists_wellFormed allowed hlist holder hholder
  have hdirect := relation_eq_none_iff allowed hlist holder hholder
  rw [h.user, hdirect]
  constructor
  · rintro ⟨direct, hmem, other, heq⟩
    have hplain : ∀ type ∈ ["user", "service-account", "folder"], ':' ∉ type.toList := by decide
    obtain ⟨rest, hrest⟩ := TypedRef.exists_render_eq ⟨holder.type, name, holder.relation⟩
    rw [UserType.ref, hrest] at heq
    rw [eq_of_objectRef_eq hcolon (hplain direct hmem) heq]
    exact hmem
  · intro hmem
    refine ⟨holder.type, hmem, name, ?_⟩
    rw [UserType.ref, TypedRef.render, hdirect.2 hmem]

/-- A key that fits is accepted when its object and its user, if that is named itself, hold no
mark. -/
theorem validate_eq_ok_iff {t : Tuple} (h : Fits t.key holder name type id) :
    validate t = .ok () ↔
      Unmarked t.key.object ∧ (IsDirect t.key.user → Unmarked t.key.user) := by
  obtain ⟨allowed, hlist, hholder⟩ := h.exists_userLists
  obtain ⟨-, -, htype⟩ := objectTypes_wellFormed type h.type_mem
  obtain ⟨-, -, hholderMark, -⟩ := userLists_wellFormed allowed hlist holder hholder
  rw [Schema.validate_eq_ok_iff, h.fault?_eq_none_iff, h.isDirect_iff, h.object, unmarked_objectRef]
  refine and_congr (iff_and_self.2 fun _ => htype) (imp_congr_right fun hnone => ?_)
  rw [h.user, UserType.ref, TypedRef.render, hnone, unmarked_objectRef]
  exact iff_and_self.2 fun _ => hholderMark

/-- A key that fits is accepted when no name in it holds a mark. -/
theorem validate_eq_ok {t : Tuple} (h : Fits t.key holder name type id) (hname : Unmarked name)
    (hid : Unmarked id) : validate t = .ok () :=
  Schema.validate_eq_ok_iff.2 (h.fault?_eq_none_iff.2 ⟨hid, fun _ => hname⟩)

end Fits

end PolicySync.Schema
