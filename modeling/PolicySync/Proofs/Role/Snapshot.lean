import PolicySync.Pass.Snapshot
import PolicySync.Proofs.Fallible
import PolicySync.Proofs.Role.Outcome
import PolicySync.Proofs.SortedMap

/-!
# Roles and their snapshot

The roles by name are those of a list of resources, of which the last one of a name counts
(`Roles.get?_ofResources`). Their snapshot is their resolution with the tuples of `clusterTuples`,
all of which have to fit the authorization model (`Snapshot.ofRoles_eq_ok_iff`), and these are the
tuples that the roles stand for as resources (`exists_tuples_of_clusterTuples`). Where there is no
snapshot of resolved roles, the first role by name that lacks valid grants is to blame
(`Snapshot.exists_first_grantsFail`).
-/

namespace PolicySync

open Fallible

/-- The name and the permissions of a global role. -/
def Resource.roleEntry? (r : Resource) : Option (String × RoleSpec) :=
  match r.spec with
  | .globalRole spec => some (r.name, spec)
  | _ => none

/-- The entry of a global role is its name and what it says. -/
theorem Resource.roleEntry?_eq_some_iff {r : Resource} {name : String} {spec : RoleSpec} :
    r.roleEntry? = some (name, spec) ↔ r.name = name ∧ r.spec = .globalRole spec := by
  unfold roleEntry?
  split
  · next spec' h => rw [h, Option.some.injEq, Prod.mk.injEq, ResourceSpec.globalRole.injEq]
  · next h =>
    constructor
    · intro hsome
      cases hsome
    · rintro ⟨-, hspec⟩
      exact absurd hspec (h spec)

/-- Global roles are the resources of their kind. -/
theorem Resource.kind_eq_globalRole_iff {r : Resource} :
    r.kind = .globalRole ↔ ∃ spec, r.spec = .globalRole spec := by
  rw [kind]
  cases r.spec with
  | globalRole spec => exact ⟨fun _ => ⟨spec, rfl⟩, fun _ => rfl⟩
  | _ =>
    constructor
    · intro h
      cases h
    · rintro ⟨spec, h⟩
      cases h

namespace Roles

/-- The global roles on a list of resources, a later one in the place of an earlier one of its name.
-/
def ofResources (rs : List Resource) : Roles := SortedMap.ofList (rs.filterMap Resource.roleEntry?)

/-- Of the roles of a name the last one counts. -/
theorem get?_ofResources {rs : List Resource} (hrs : ∀ r ∈ rs, r.kind = .globalRole)
    (name : String) :
    ((ofResources rs).get? name).map .globalRole =
      (rs.filter fun r => r.name = name).getLast?.map (·.spec) := by
  -- The list is followed from its end, which decides.
  induction rs using List.reverseRecOn with
  | nil => rfl
  | append_singleton rs r ih =>
    obtain ⟨spec, hspec⟩ := Resource.kind_eq_globalRole_iff.1
      (hrs r (List.mem_append_right _ List.mem_cons_self))
    have hput : ofResources (rs ++ [r]) = (ofResources rs).insert r.name spec := by
      rw [ofResources, SortedMap.ofList, List.filterMap_append, SortedMap.insertMany_append,
        List.filterMap_cons, Resource.roleEntry?_eq_some_iff.2 ⟨rfl, hspec⟩]
      rfl
    rw [hput, SortedMap.get?_insert, List.filter_append]
    by_cases hname : name = r.name
    · have hlast : [r].filter (fun r => r.name = name) = [r] :=
        List.filter_cons_of_pos (decide_eq_true hname.symm)
      rw [if_pos hname, hlast, List.getLast?_concat, Option.map_some, Option.map_some, hspec]
    · have hnone : [r].filter (fun r => r.name = name) = [] :=
        List.filter_cons_of_neg (by simpa using Ne.symm hname)
      rw [if_neg hname, hnone, List.append_nil]
      exact ih fun x hx => hrs x (List.mem_append_left _ hx)

/-- The names are those of the global roles. -/
theorem contains_ofResources {rs : List Resource} {name : String} :
    (ofResources rs).contains name = true ↔ ∃ r ∈ rs, r.kind = .globalRole ∧ r.name = name := by
  simp only [ofResources, SortedMap.contains_ofList, List.mem_map, List.mem_filterMap,
    Prod.exists, Resource.roleEntry?_eq_some_iff, Resource.kind_eq_globalRole_iff]
  constructor
  · rintro ⟨_, spec, ⟨r, hr, hname, hspec⟩, rfl⟩
    exact ⟨r, hr, ⟨spec, hspec⟩, hname⟩
  · rintro ⟨r, hr, ⟨spec, hspec⟩, hname⟩
    exact ⟨name, spec, ⟨r, hr, hname, hspec⟩, rfl⟩

end Roles

/-! ## The grants of resolved roles -/

/-- The grants of all roles are those of each, one role after the other. -/
theorem clusterTuples_eq_ok_iff {resolved : ResolvedRoles} {ts : List Tuple} :
    clusterTuples resolved = .ok ts ↔
      ∃ tss, resolved.toList.Forall₂ (fun e ts => roleGrants e.1 e.2 = .ok ts) tss ∧
        tss.flatten = ts := by
  simp only [clusterTuples, bind_eq_ok, mapM_eq_ok_iff, mapError_eq_ok, pure_eq_ok]

/-- The grants of resolved roles are the tuples that the roles stand for as resources, in the order
of their names, when no role lacks a name. -/
theorem exists_tuples_of_clusterTuples {roles : Roles} {resolved : ResolvedRoles} {ts : List Tuple}
    (hresolved : resolve roles = .ok resolved) (hts : clusterTuples resolved = .ok ts)
    (hnames : ∀ name, roles.contains name = true → name ≠ "") :
    ∃ tss, roles.toList.Forall₂ (fun e ts => ∀ r : Resource, r.name = e.1 →
      r.spec = .globalRole e.2 → r.tuples (some resolved) = .ok ts) tss ∧ tss.flatten = ts := by
  obtain ⟨-, hcontains, -⟩ := resolve_eq_ok hresolved
  have hkeys : resolved.keys = roles.keys :=
    SortedMap.keys_eq_of_contains fun name => by rw [hcontains]
  obtain ⟨tss, hgrants, hflatten⟩ := clusterTuples_eq_ok_iff.1 hts
  refine ⟨tss, ?_, hflatten⟩
  -- What a role stands for depends on its name alone, so the entries of either map will do.
  have hall : resolved.keys.Forall₂ (fun name ts => ∀ r : Resource, r.name = name →
      r.kind = .globalRole → r.tuples (some resolved) = .ok ts) tss := by
    rw [SortedMap.keys, List.forall₂_map_left_iff]
    have hentries : ∀ e ∈ resolved.toList, resolved.get? e.1 = some e.2 := fun e he =>
      SortedMap.get?_eq_some_iff.2 he
    refine ((List.forall₂_and_left _ _).2 ⟨hentries, hgrants⟩).imp ?_
    rintro ⟨name, permissions⟩ ts ⟨hget, hts⟩ r rfl hkind
    obtain ⟨spec, hspec⟩ := Resource.kind_eq_globalRole_iff.1 hkind
    have hname : r.name ≠ "" := hnames _ (hcontains _ ▸ SortedMap.contains_of_get? hget)
    rw [Resource.tuples, if_neg (by simpa using hname), hspec]
    show globalRoleTuples r.name spec (some resolved) = .ok ts
    rw [globalRoleTuples, Option.bind_some, hget]
    exact hts
  rw [hkeys, SortedMap.keys, List.forall₂_map_left_iff] at hall
  exact hall.imp fun e ts he r hname hspec =>
    he r hname (Resource.kind_eq_globalRole_iff.2 ⟨e.2, hspec⟩)

namespace Snapshot

/-- A global role is put in under its name, and nothing else is put in. -/
theorem addRole_eq_ok_iff {roles out : Roles} {r : Resource} : addRole roles r = .ok out ↔
    ∃ spec, r.spec = .globalRole spec ∧ out = roles.insert r.name spec := by
  unfold addRole
  split
  · next spec h => simp [h, eq_comm]
  · next h =>
    constructor
    · intro hok
      cases hok
    · rintro ⟨spec, hspec, -⟩
      exact absurd hspec (h spec)

/-- Resources that are taken in one by one are put in by name, if all of them are global roles. -/
theorem foldlM_addRole_eq_ok_iff {roles out : Roles} {rs : List Resource} :
    rs.foldlM addRole roles = .ok out ↔
      (∀ r ∈ rs, r.kind = .globalRole) ∧
        out = roles.insertMany (rs.filterMap Resource.roleEntry?) := by
  induction rs generalizing roles with
  | nil =>
    rw [List.foldlM_nil, pure_eq_ok]
    simp [eq_comm]
  | cons r rs ih =>
    simp only [List.foldlM_cons, bind_eq_ok, addRole_eq_ok_iff, ih, List.forall_mem_cons,
      Resource.kind_eq_globalRole_iff (r := r)]
    -- A role is put in before those that follow it, which may take its place.
    constructor
    · rintro ⟨_, ⟨spec, hspec, rfl⟩, hrest, rfl⟩
      refine ⟨⟨⟨spec, hspec⟩, hrest⟩, ?_⟩
      rw [List.filterMap_cons, Resource.roleEntry?_eq_some_iff.2 ⟨rfl, hspec⟩,
        SortedMap.insertMany_cons]
    · rintro ⟨⟨⟨spec, hspec⟩, hrest⟩, rfl⟩
      refine ⟨_, ⟨spec, hspec, rfl⟩, hrest, ?_⟩
      rw [List.filterMap_cons, Resource.roleEntry?_eq_some_iff.2 ⟨rfl, hspec⟩,
        SortedMap.insertMany_cons]

/-- A role has valid grants when it has grants and all of them fit the model. -/
theorem grantsOf_eq_ok_iff {name : String} {permissions : List Permission} {ts : List Tuple} :
    grantsOf name permissions = .ok ts ↔
      roleGrants name permissions = .ok ts ∧ ∀ t ∈ ts, Schema.validate t = .ok () := by
  simp only [grantsOf, mapError_eq_ok, bind_eq_ok, pure_eq_ok]
  constructor
  · rintro ⟨ts', hts, ⟨⟩, hvalid, rfl⟩
    exact ⟨hts, forM_eq_ok_iff.1 hvalid⟩
  · rintro ⟨hts, hvalid⟩
    exact ⟨ts, hts, (), forM_eq_ok_iff.2 hvalid, rfl⟩

/-- Why a role has no valid grants: one of its permissions has no tuple, or else a tuple does not
fit the model, while those before it do. -/
def GrantsFail (name : String) (permissions : List Permission) (source : PolicyError) : Prop :=
  roleGrants name permissions = .error source ∨
    ∃ before t after, roleGrants name permissions = .ok (before ++ t :: after) ∧
      (∀ b ∈ before, Schema.validate b = .ok ()) ∧ Schema.validate t = .error source

/-- Otherwise its grants fail, and the error names the role. -/
theorem exists_grantsFail_of_eq_error {name : String} {permissions : List Permission}
    {e : PassError} (h : grantsOf name permissions = .error e) :
    ∃ source, GrantsFail name permissions source ∧ e = .policy .globalRole name source := by
  obtain ⟨source, hsource, rfl⟩ := mapError_eq_error.1 h
  refine ⟨source, ?_, rfl⟩
  rcases bind_eq_error.1 hsource with hnone | ⟨ts, hts, hcheck⟩
  · exact .inl hnone
  · rcases bind_eq_error.1 hcheck with hinvalid | ⟨-, -, hok⟩
    · obtain ⟨before, t, after, rfl, hbefore, ht⟩ := exists_of_forM_eq_error hinvalid
      exact .inr ⟨before, t, after, hts, hbefore, ht⟩
    · cases hok

/-- The snapshot is made of the resolved roles and their grants, all of which fit the model. -/
theorem ofRoles_eq_ok_iff {roles : Roles} {snapshot : Snapshot} : ofRoles roles = .ok snapshot ↔
    resolve roles = .ok snapshot.resolved ∧ clusterTuples snapshot.resolved = .ok snapshot.tuples ∧
      ∀ t ∈ snapshot.tuples, Schema.validate t = .ok () := by
  simp only [ofRoles, bind_eq_ok, mapError_eq_ok, mapM_eq_ok_iff, grantsOf_eq_ok_iff, pure_eq_ok,
    clusterTuples_eq_ok_iff, forall₂_and_iff]
  constructor
  · rintro ⟨resolved, hresolved, tss, ⟨hgrants, hvalid⟩, rfl⟩
    exact ⟨hresolved, ⟨tss, hgrants, rfl⟩, List.forall_mem_flatten.2 hvalid⟩
  · rintro ⟨hresolved, ⟨tss, hgrants, hflatten⟩, hvalid⟩
    rw [← hflatten, List.forall_mem_flatten] at hvalid
    exact ⟨snapshot.resolved, hresolved, tss, ⟨hgrants, hvalid⟩, by rw [hflatten]⟩

/-- Roles that are not resolved have no snapshot, for the same reason. -/
theorem ofRoles_of_resolve_eq_error {roles : Roles} {e : ResolveError}
    (h : resolve roles = .error e) : ofRoles roles = .error (.resolve e) := by
  rw [ofRoles, h]
  rfl

/-- Resolved roles without a snapshot: the first one by name that has no valid grants is named. -/
theorem exists_first_grantsFail {roles : Roles} {resolved : ResolvedRoles}
    (hresolved : resolve roles = .ok resolved) {e : PassError} (h : ofRoles roles = .error e) :
    ∃ before name permissions after source,
      resolved.toList = before ++ (name, permissions) :: after ∧
        (∀ b ∈ before, ∃ ts, roleGrants b.1 b.2 = .ok ts ∧
          ∀ t ∈ ts, Schema.validate t = .ok ()) ∧
        GrantsFail name permissions source ∧ e = .policy .globalRole name source := by
  have hgrants : resolved.toList.mapM (fun e => grantsOf e.1 e.2) = .error e := by
    rw [ofRoles, hresolved] at h
    rcases bind_eq_error.1 h with hnone | ⟨_, hsome, hrest⟩
    · cases hnone
    · cases hsome
      rcases bind_eq_error.1 hrest with hgrants | ⟨tss, -, hok⟩
      · exact hgrants
      · cases hok
  obtain ⟨before, ⟨name, permissions⟩, after, hsplit, hbefore, hfail⟩ := mapM_eq_error_iff.1 hgrants
  obtain ⟨source, hsource, he⟩ := exists_grantsFail_of_eq_error hfail
  simp only [grantsOf_eq_ok_iff] at hbefore
  exact ⟨before, name, permissions, after, source, hsplit, hbefore, hsource, he⟩

end Snapshot

end PolicySync
