import PolicySync.Proofs.Role.Effective
import PolicySync.Proofs.Role.Grammar
import PolicySync.Proofs.Schema
import PolicySync.Proofs.Subject
import PolicySync.Proofs.Tuple.Set

/-!
# What the tuples of policy are built from

Every tuple that a resource stands for relates a holder to a thing, unconditionally and as the
authorization model allows for their types, whatever the resource names. `BuiltFrom` says this together
with the texts that the tuple's names are made of: marks come in through them only.
-/

namespace PolicySync

open Fallible Schema

/-- A tuple is unconditional and fits the model, and its names are free of marks when some texts are. -/
def BuiltFrom (texts : List String) (t : Tuple) : Prop :=
  t.Plain ∧ ∃ holder name type id, Fits t.key holder name type id ∧
    ((∀ s ∈ texts, Unmarked s) → Unmarked name ∧ Unmarked id)

/-- What is built from texts is built from more of them. -/
theorem BuiltFrom.mono {texts texts' : List String} {t : Tuple} (h : BuiltFrom texts t)
    (hsub : texts ⊆ texts') : BuiltFrom texts' t := by
  obtain ⟨hplain, holder, name, type, id, hfits, hmarks⟩ := h
  exact ⟨hplain, holder, name, type, id, hfits, fun hall => hmarks fun s hs => hall s (hsub hs)⟩

/-- The tuple between a holder and a thing is built from their names. -/
theorem builtFrom_relate (holder : UserType) {relation type name id : String}
    (hallows : Allows holder relation type) (hname : name ≠ "") (hid : id ≠ "") {texts : List String}
    (hmarks : (∀ s ∈ texts, Unmarked s) → Unmarked name ∧ Unmarked id) :
    BuiltFrom texts (.relate (holder.ref name) relation (objectRef type id)) :=
  ⟨Tuple.plain_relate _ _ _, holder, name, type, id, ⟨rfl, rfl, hname, hid, hallows⟩, hmarks⟩

/-! ## Subjects -/

/-- A subject is encoded as someone that a role can be assigned to. -/
theorem SubjectKind.encode_eq_ok {kind : SubjectKind} {name user : String}
    (h : kind.encode name = .ok user) : ∃ holder id, holder ∈ subjects ∧ user = holder.ref id ∧
      id ≠ "" ∧ (Unmarked name → Unmarked id) ∧
      (kind = .user ∨ kind = .serviceAccount → holder ∈ teamMembers) := by
  obtain ⟨hname, r, hr, rfl⟩ := encode_eq_ok_iff.1 h
  cases hr with
  | user => exact ⟨⟨"user", none⟩, name, by decide, rfl, hname, id, fun _ => by decide⟩
  | serviceAccount =>
    exact ⟨⟨"service-account", none⟩, name, by decide, rfl, hname, id, fun _ => by decide⟩
  | team => exact ⟨⟨"team", some "member"⟩, name, by decide, rfl, hname, id, by simp⟩
  | basicRole role =>
    exact ⟨⟨"role", some "assignee"⟩, role.roleId, by decide, rfl, role.roleId_ne,
      fun _ => role.unmarked_roleId, by simp⟩

/-! ## Grants of roles -/

namespace GrantAction

/-- What an action allows is a grant relation to things of a kind that the action names. -/
theorem ofPermission_eq_ok {p : Permission} {action : GrantAction}
    (h : ofPermission p = .ok action) : action.kind ≠ "" ∧ action.relation ∈ grantRelations ∧
      (Unmarked p.action → Unmarked action.kind) := by
  obtain ⟨kind, verb, haction, hstands⟩ := ofPermission_eq_ok_iff.1 h
  have hmark : Unmarked p.action → Unmarked kind := by
    rw [haction.eq, unmarked_append, unmarked_append]
    exact fun h => h.1.1
  have hthings : ∀ v ∈ verbsOnThings, v.2 ∈ grantRelations := by decide
  have hpermissions : ∀ v ∈ verbsOnPermissions, v.2 ∈ grantRelations := by decide
  cases hstands with
  | things _ hverb => exact ⟨haction.kind_ne, hthings _ hverb, hmark⟩
  | permissions hkind hverb =>
    rw [hkind.eq, unmarked_append] at hmark
    exact ⟨hkind.base_ne, hpermissions _ hverb, fun h => (hmark h).1⟩

end GrantAction

/-- The kind and the id of a scope for one thing are parts of its text. -/
theorem GrantScope.Spells.of_one {scope kind id : String} (h : Spells scope (.one kind id)) :
    id ≠ "" ∧ (Unmarked scope → Unmarked kind ∧ Unmarked id) := by
  cases h with
  | one _ _ hid _ =>
    refine ⟨hid, fun hmark => ?_⟩
    simp only [unmarked_append] at hmark
    exact ⟨hmark.1.1.1.1, hmark.2⟩

/-- One thing of a kind is a folder or a resource. -/
theorem thingRef_cases (kind id : String) : ∃ type id', thingRef kind id = objectRef type id' ∧
    type ∈ ["folder", "resource"] ∧ (kind = foldersKind → type = "folder") ∧ (id ≠ "" → id' ≠ "") ∧
      (Unmarked kind ∧ Unmarked id → Unmarked id') := by
  unfold thingRef
  split
  · exact ⟨"folder", id, rfl, by decide, fun _ => rfl, fun h => h, fun h => h.2⟩
  · next hkind =>
    refine ⟨"resource", kind ++ "/" ++ id, by simp [objectRef, String.append_assoc], by decide,
      fun h => absurd h hkind, ?_, ?_⟩
    · intro _ h
      have hlength := congrArg String.toList h
      simp at hlength
    · rintro ⟨hk, hi⟩
      simp only [unmarked_append]
      exact ⟨⟨hk, by decide⟩, hi⟩

/-- A grant is built from the role's name and the texts of the permission. -/
theorem grantTuple_builtFrom {role : String} (hrole : role ≠ "") {p : Permission} {t : Tuple}
    (h : grantTuple role p = .ok t) : BuiltFrom [role, p.action, p.scope] t := by
  obtain ⟨action, scope, haction, hscope, rfl⟩ := grantTuple_eq_ok_iff.1 h
  obtain ⟨hkind, hrelation, hkindMark⟩ := GrantAction.ofPermission_eq_ok haction
  cases scope with
  | everything =>
    refine builtFrom_relate ⟨"role", some "assignee"⟩
      (allows_grant hrelation (by decide)) hrole hkind fun hall => ?_
    exact ⟨hall role (by simp), hkindMark (hall p.action (by simp))⟩
  | one kind id =>
    obtain ⟨hid, hscopeMark⟩ := hscope.of_one
    obtain ⟨type, id', hobject, htype, hfolder, hidNe, hidMark⟩ := thingRef_cases kind id
    -- On folders the relation names the kind of the action, unless that is folders too.
    have hallows : Allows ⟨"role", some "assignee"⟩
        (if kind = foldersKind ∧ action.kind ≠ foldersKind then action.kind ++ "_" ++ action.relation
          else action.relation) type := by
      split
      · next hother =>
        rw [hfolder hother.1]
        exact allows_kindGrant hkind hrelation
      · refine allows_grant hrelation ?_
        exact List.mem_append_left ["group_resource"] htype
    rw [GrantAction.grant, hobject]
    refine builtFrom_relate ⟨"role", some "assignee"⟩ hallows hrole (hidNe hid) fun hall => ?_
    exact ⟨hall role (by simp), hidMark (hscopeMark (hall p.scope (by simp)))⟩

/-- The texts of permissions. -/
def permissionTexts (permissions : List Permission) : List String :=
  permissions.flatMap fun p => [p.action, p.scope]

/-- The grants of a role are built from its name and its permissions. -/
theorem roleGrants_builtFrom {role : String} (hrole : role ≠ "") {permissions : List Permission}
    {ts : List Tuple} (h : roleGrants role permissions = .ok ts) :
    ∀ t ∈ ts, BuiltFrom (role :: permissionTexts permissions) t := by
  intro t ht
  obtain ⟨p, hp, hgrant⟩ := exists_of_mapM_eq_ok h t ht
  refine (grantTuple_builtFrom hrole hgrant).mono ?_
  refine List.cons_subset_cons role fun s hs => ?_
  exact List.mem_flatMap.2 ⟨p, hp, hs⟩

/-- The permissions that a role may take over. -/
def inheritable (resolved : Option ResolvedRoles) : List Permission :=
  (resolved.elim [] SortedMap.values).flatten

/-- The permissions of a resolved role can be inherited. -/
theorem mem_inheritable {m : ResolvedRoles} {name : String} {ps : List Permission}
    (h : m.get? name = some ps) : ps ⊆ inheritable (some m) := fun _ hp =>
  List.mem_flatten.2 ⟨ps, SortedMap.mem_values.2 ⟨name, h⟩, hp⟩

/-- The permissions of a role are its own or taken over. -/
theorem effectivePermissions_subset {name : String} {spec : RoleSpec}
    {resolved : Option ResolvedRoles} {ps : List Permission}
    (h : effectivePermissions name spec resolved = .ok ps) :
    ps ⊆ spec.permissions ++ inheritable resolved := by
  intro p hp
  rw [List.mem_append]
  cases resolved with
  | none =>
    cases h
    exact .inl ((mem_composePermissions.1 hp).resolve_right fun h => absurd h.2 List.not_mem_nil)
  | some m =>
    obtain ⟨-, rfl⟩ := effectivePermissions_eq_ok_iff.1 h
    rcases mem_composePermissions.1 hp with hp | ⟨-, hp⟩
    · exact .inl hp
    · obtain ⟨qs, hqs, hp⟩ := List.mem_flatten.1 hp
      obtain ⟨ref, -, hget⟩ := List.mem_filterMap.1 hqs
      exact .inr (mem_inheritable hget hp)

/-- More permissions have more texts. -/
theorem permissionTexts_subset {ps qs : List Permission} (h : ps ⊆ qs) :
    permissionTexts ps ⊆ permissionTexts qs := by
  intro s hs
  obtain ⟨p, hp, hs⟩ := List.mem_flatMap.1 hs
  exact List.mem_flatMap.2 ⟨p, h hp, hs⟩

/-- The tuples of a tenant's role are built from what it has and what it inherits. -/
theorem roleTuples_builtFrom {name : String} (hname : name ≠ "") {spec : RoleSpec}
    {resolved : Option ResolvedRoles} {ts : List Tuple} (h : roleTuples name spec resolved = .ok ts) :
    ∀ t ∈ ts, BuiltFrom (name :: permissionTexts (spec.permissions ++ inheritable resolved)) t := by
  obtain ⟨ps, hps, h⟩ := bind_eq_ok.1 h
  have hsub := permissionTexts_subset (effectivePermissions_subset hps)
  exact fun t ht => (roleGrants_builtFrom hname h t ht).mono (List.cons_subset_cons name hsub)

/-- The same holds of a global role. -/
theorem globalRoleTuples_builtFrom {name : String} (hname : name ≠ "") {spec : RoleSpec}
    {resolved : Option ResolvedRoles} {ts : List Tuple}
    (h : globalRoleTuples name spec resolved = .ok ts) :
    ∀ t ∈ ts, BuiltFrom (name :: permissionTexts (spec.permissions ++ inheritable resolved)) t := by
  unfold globalRoleTuples at h
  split at h
  · next ps hget =>
    obtain ⟨m, rfl, hget⟩ := Option.bind_eq_some_iff.1 hget
    have hsub : ps ⊆ spec.permissions ++ inheritable (some m) := fun p hp =>
      List.mem_append_right _ (mem_inheritable hget hp)
    exact fun t ht => (roleGrants_builtFrom hname h t ht).mono
      (List.cons_subset_cons name (permissionTexts_subset hsub))
  · exact roleTuples_builtFrom hname h

/-! ## Other resources -/

/-- The tuples of a folder are built from its name and its parent's. -/
theorem folderTuples_builtFrom {name : String} (hname : name ≠ "") {parent : Option String}
    {ts : List Tuple} (h : folderTuples name parent = .ok ts) :
    ∀ t ∈ ts, BuiltFrom (name :: parent.toList) t := by
  unfold folderTuples at h
  split at h
  · cases h
    simp
  · next parent =>
    split at h
    · cases h
      simp
    · next hparent =>
      split at h
      · cases h
      · cases h
        rw [List.forall_mem_singleton]
        refine builtFrom_relate ⟨"folder", none⟩ allows_parent (by simpa using hparent) hname
          fun hall => ⟨hall parent (by simp), hall name (by simp)⟩

/-- Those of a binding are built from the subject and the roles. -/
theorem bindingTuples_builtFrom {subject : SubjectRef} {roles : List String} {ts : List Tuple}
    (h : bindingTuples subject roles = .ok ts) : ∀ t ∈ ts, BuiltFrom (subject.name :: roles) t := by
  obtain ⟨kind, -, h⟩ := bind_eq_ok.1 h
  obtain ⟨user, huser, h⟩ := bind_eq_ok.1 h
  obtain ⟨holder, id, hholder, rfl, hid, hidMark, -⟩ := SubjectKind.encode_eq_ok huser
  intro t ht
  obtain ⟨role, hrole, ht⟩ := exists_of_mapM_eq_ok h t ht
  split at ht
  · cases ht
  · next hempty =>
    cases ht
    refine builtFrom_relate holder (allows_assignee hholder) hid (by simpa using hempty) fun hall => ?_
    exact ⟨hidMark (hall _ List.mem_cons_self), hall _ (List.mem_cons_of_mem _ hrole)⟩

/-- A reference names an object unless its kind or its name is empty. -/
theorem ResourceRef.object_eq_ok_iff {r : ResourceRef} {object : String} : r.object = .ok object ↔
    r.kind ≠ "" ∧ r.name ≠ "" ∧ object = thingRef r.kind r.name := by
  unfold ResourceRef.object
  split
  · next hkind => simp_all
  · next hkind =>
    split
    · next hname => simp_all
    · next hname =>
      have hparts : r.kind ≠ "" ∧ r.name ≠ "" := by simpa using And.intro hkind hname
      rw [Except.ok.injEq, eq_comm]
      exact ⟨fun h => ⟨hparts.1, hparts.2, h⟩, fun h => h.2.2⟩

/-- Every tuple on a resource gives the subject of one of the entries its verb. -/
theorem resourcePermissionTuples_eq_ok {target : ResourceRef} {entries : List AccessEntry}
    {ts : List Tuple} (h : resourcePermissionTuples target entries = .ok ts) :
    ∃ object, target.object = .ok object ∧ ∀ t ∈ ts, ∃ entry ∈ entries, ∃ kind user,
      entry.verb ∈ resourceVerbs ∧ SubjectKind.encode kind entry.name = .ok user ∧
        t = .relate user entry.verb object := by
  obtain ⟨object, hobject, h⟩ := bind_eq_ok.1 h
  refine ⟨object, hobject, fun t ht => ?_⟩
  obtain ⟨entry, hentry, ht⟩ := exists_of_mapM_eq_ok h t ht
  dsimp only at ht
  split at ht
  · cases ht
  · next hverb =>
    obtain ⟨kind, -, ht⟩ := bind_eq_ok.1 ht
    obtain ⟨user, huser, ht⟩ := bind_eq_ok.1 ht
    cases ht
    exact ⟨entry, hentry, kind, user, by simpa using hverb, huser, rfl⟩

/-- Those of permissions on a resource come from the resource and the names of the entries. -/
theorem resourcePermissionTuples_builtFrom {target : ResourceRef} {entries : List AccessEntry}
    {ts : List Tuple} (h : resourcePermissionTuples target entries = .ok ts) :
    ∀ t ∈ ts, BuiltFrom (target.kind :: target.name :: entries.map (·.name)) t := by
  obtain ⟨object, hobject, hall⟩ := resourcePermissionTuples_eq_ok h
  obtain ⟨-, hname, rfl⟩ := ResourceRef.object_eq_ok_iff.1 hobject
  obtain ⟨type, id', hthing, htype, -, hidNe, hidMark⟩ := thingRef_cases target.kind target.name
  intro t ht
  obtain ⟨entry, hentry, kind, user, hverb, huser, rfl⟩ := hall t ht
  obtain ⟨holder, id, hholder, rfl, hid, hmark, -⟩ := SubjectKind.encode_eq_ok huser
  rw [hthing]
  refine builtFrom_relate holder (allows_verb hholder hverb htype) hid (hidNe hname)
    fun hall => ⟨hmark (hall _ ?_), hidMark ⟨hall _ (by simp), hall _ (by simp)⟩⟩
  exact List.mem_cons_of_mem _ (List.mem_cons_of_mem _ (List.mem_map.2 ⟨entry, hentry, rfl⟩))

/-- Those of a team binding come from the team and the subject. -/
theorem teamBindingTuples_builtFrom {team : String} {subject : SubjectRef} {relation : TeamRelation}
    {ts : List Tuple} (h : teamBindingTuples team subject relation = .ok ts) :
    ∀ t ∈ ts, BuiltFrom [team, subject.name] t := by
  obtain ⟨kind, -, h⟩ := bind_eq_ok.1 h
  dsimp only at h
  split at h
  · cases h
  · next hkind =>
    split at h
    · cases h
    · next hteam =>
      obtain ⟨user, huser, h⟩ := bind_eq_ok.1 h
      obtain ⟨holder, id, -, rfl, hid, hmark, hmember⟩ := SubjectKind.encode_eq_ok huser
      cases h
      rw [List.forall_mem_singleton]
      -- Only users and service accounts are members of teams.
      have hperson : kind = .user ∨ kind = .serviceAccount := by
        by_contra hneither
        exact hkind ⟨fun h => hneither (.inl h), fun h => hneither (.inr h)⟩
      refine builtFrom_relate holder (allows_teamRelation (hmember hperson) relation) hid
        (by simpa using hteam) fun hall => ⟨hmark (hall _ (by simp)), hall _ (by simp)⟩

/-- Those of a user come from its name alone; the basic roles are fixed. -/
theorem userTuples_builtFrom {name basicRole : String} (hname : name ≠ "") {ts : List Tuple}
    (h : userTuples name basicRole = .ok ts) : ∀ t ∈ ts, BuiltFrom [name] t := by
  unfold userTuples at h
  split at h
  · cases h
    simp
  · obtain ⟨role, -, h⟩ := bind_eq_ok.1 h
    cases h
    rw [List.forall_mem_singleton]
    refine builtFrom_relate ⟨"user", none⟩ (allows_assignee (by decide)) hname role.roleId_ne
      fun hall => ⟨hall name (by simp), role.unmarked_roleId⟩

/-! ## The grants of global roles -/

/-- A grant is unconditional, whatever its role is called. -/
theorem grantTuple_plain {role : String} {p : Permission} {t : Tuple}
    (h : grantTuple role p = .ok t) : t.Plain := by
  obtain ⟨action, scope, -, -, rfl⟩ := grantTuple_eq_ok_iff.1 h
  cases scope <;> rfl

/-- The grants of a role carry no condition. -/
theorem roleGrants_plain {role : String} {permissions : List Permission} {ts : List Tuple}
    (h : roleGrants role permissions = .ok ts) : ∀ t ∈ ts, t.Plain :=
  forall_of_mapM_eq_ok h fun _ _ => grantTuple_plain

/-- The grants of global roles are unconditional. -/
theorem clusterTuples_plain {resolved : ResolvedRoles} {ts : List Tuple}
    (h : clusterTuples resolved = .ok ts) : ∀ t ∈ ts, t.Plain := by
  obtain ⟨grants, hgrants, h⟩ := bind_eq_ok.1 h
  cases h
  have hall := forall_of_mapM_eq_ok hgrants (P := fun ts => ∀ t ∈ ts, t.Plain) fun e ts hts =>
    roleGrants_plain (mapError_eq_ok.1 hts)
  intro t ht
  obtain ⟨ts, hts, ht⟩ := List.mem_flatten.1 ht
  exact hall ts hts t ht

/-! ## Every resource -/

namespace Resource

/-- The texts that the names in a resource's tuples are made of, those of permissions that a role
takes over included. -/
def texts (r : Resource) (resolved : Option ResolvedRoles) : List String :=
  r.name ::
    match r.spec with
    | .folder parent => parent.toList
    | .globalRole spec => permissionTexts (spec.permissions ++ inheritable resolved)
    | .role spec => permissionTexts (spec.permissions ++ inheritable resolved)
    | .roleBinding subject roles => subject.name :: roles
    | .globalRoleBinding subject roles => subject.name :: roles
    | .resourcePermission target entries => target.kind :: target.name :: entries.map (·.name)
    | .teamBinding team subject _ => [team, subject.name]
    | .user _ => []

/-- The tuples of a resource are built from its texts, whatever its kind. -/
theorem tuples_builtFrom {r : Resource} {resolved : Option ResolvedRoles} {ts : List Tuple}
    (h : r.tuples resolved = .ok ts) : ∀ t ∈ ts, BuiltFrom (r.texts resolved) t := by
  obtain ⟨metadata, spec⟩ := r
  unfold tuples at h
  split at h
  · cases h
  · next hempty =>
    have hname : metadata.name ≠ "" := by simpa [name] using hempty
    cases spec with
    | folder parent => exact folderTuples_builtFrom hname h
    | globalRole spec => exact globalRoleTuples_builtFrom hname h
    | role spec => exact roleTuples_builtFrom hname h
    | roleBinding subject roles =>
      exact fun t ht => (bindingTuples_builtFrom h t ht).mono (List.subset_cons_self _ _)
    | globalRoleBinding subject roles =>
      exact fun t ht => (bindingTuples_builtFrom h t ht).mono (List.subset_cons_self _ _)
    | resourcePermission target entries =>
      exact fun t ht => (resourcePermissionTuples_builtFrom h t ht).mono (List.subset_cons_self _ _)
    | teamBinding team subject relation =>
      exact fun t ht => (teamBindingTuples_builtFrom h t ht).mono (List.subset_cons_self _ _)
    | user basicRole => exact userTuples_builtFrom hname h

/-- The tuples of a resource are unconditional. -/
theorem tuples_plain {r : Resource} {resolved : Option ResolvedRoles} {ts : List Tuple}
    (h : r.tuples resolved = .ok ts) : ∀ t ∈ ts, t.Plain := fun t ht =>
  (tuples_builtFrom h t ht).1

/-- A resource has valid tuples when it has tuples that the model accepts. -/
theorem validTuples_eq_ok_iff {r : Resource} {resolved : Option ResolvedRoles} {ts : List Tuple} :
    r.validTuples resolved = .ok ts ↔
      r.tuples resolved = .ok ts ∧ ∀ t ∈ ts, validate t = .ok () := by
  rw [validTuples, bind_eq_ok]
  constructor
  · rintro ⟨ts', hts', h⟩
    obtain ⟨⟨⟩, hall, h⟩ := bind_eq_ok.1 h
    cases h
    exact ⟨hts', forM_eq_ok_iff.1 hall⟩
  · rintro ⟨hts, hall⟩
    exact ⟨ts, hts, bind_eq_ok.2 ⟨(), forM_eq_ok_iff.2 hall, rfl⟩⟩

/-- A resource with valid tuples has those tuples. -/
theorem tuples_of_validTuples {r : Resource} {resolved : Option ResolvedRoles}
    {ts : List Tuple} (h : r.validTuples resolved = .ok ts) : r.tuples resolved = .ok ts :=
  (validTuples_eq_ok_iff.1 h).1

/-- A resource has tuples, and the model accepts all of them. -/
def IsSound (r : Resource) (resolved : Option ResolvedRoles) : Prop :=
  ∃ ts, r.tuples resolved = .ok ts ∧ ∀ t ∈ ts, validate t = .ok ()

/-- A resource is sound when it has tuples that fit the model. -/
theorem isSound_iff {r : Resource} {resolved : Option ResolvedRoles} :
    r.IsSound resolved ↔ ∃ ts, r.validTuples resolved = .ok ts :=
  exists_congr fun _ => validTuples_eq_ok_iff.symm

end Resource

end PolicySync
