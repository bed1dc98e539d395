import PolicySync.Proofs.Role.Namespaced

/-!
# What a role withholds by omitting a permission

A role omits permissions as they are spelled, and different spellings may stand for one tuple: `*` and
`boards:*` both reach all boards. So the tuple of an omitted permission is withheld just when the role
has it by no other spelling, neither of its own nor taken over (`role_tuples_omit`).
-/

namespace PolicySync

open Fallible

/-- A role takes over a permission from one of the roles it refers to, since it does not omit it. -/
def RoleSpec.TakesOver (spec : RoleSpec) (m : ResolvedRoles) (p : Permission) : Prop :=
  p ∉ spec.omitted ∧ ∃ ref ∈ spec.refs, ∃ ps, m.get? ref = some ps ∧ p ∈ ps

/-- A role has its own permissions and those that it takes over. -/
theorem mem_permissionsFrom {m : ResolvedRoles} {spec : RoleSpec} {p : Permission} :
    p ∈ permissionsFrom m spec ↔ p ∈ spec.permissions ∨ spec.TakesOver m p := by
  have hinherited : p ∈ (spec.refs.filterMap m.get?).flatten ↔
      ∃ ref ∈ spec.refs, ∃ ps, m.get? ref = some ps ∧ p ∈ ps := by
    simp only [List.mem_flatten, List.mem_filterMap]
    constructor
    · rintro ⟨ps, ⟨ref, href, hget⟩, hp⟩
      exact ⟨ref, href, ps, hget, hp⟩
    · rintro ⟨ref, href, ps, hget, hp⟩
      exact ⟨ps, ⟨ref, href, hget⟩, hp⟩
  rw [permissionsFrom, mem_composePermissions, hinherited, RoleSpec.TakesOver]

/-- The grants of permissions are there when each of them has a tuple, and they are these tuples. -/
theorem exists_roleGrants_iff {role : String} {permissions : List Permission} :
    (∃ ts, roleGrants role permissions = .ok ts) ↔
      ∀ p ∈ permissions, ∃ t, grantTuple role p = .ok t :=
  exists_mapM_eq_ok_iff

/-- The grants of a role are those of its permissions. -/
theorem mem_roleGrants {role : String} {permissions : List Permission} {ts : List Tuple}
    (h : roleGrants role permissions = .ok ts) {t : Tuple} :
    t ∈ ts ↔ ∃ p ∈ permissions, grantTuple role p = .ok t :=
  ⟨exists_of_mapM_eq_ok h t, fun ⟨_, hp, hgrant⟩ => mem_of_mapM_eq_ok h hp hgrant⟩

/-- A role has tuples when all that it refers to is resolved, and they are the grants of what it has of
its own and takes over. -/
theorem tuples_role_eq_ok_iff {name : String} {tenant : Option String} {spec : RoleSpec}
    {m : ResolvedRoles} {ts : List Tuple} :
    Resource.tuples { metadata := { name, tenant }, spec := .role spec } (some m) = .ok ts ↔
      name ≠ "" ∧ (∀ ref ∈ spec.refs, m.contains ref = true) ∧
        roleGrants name (permissionsFrom m spec) = .ok ts := by
  by_cases hname : name = ""
  · subst hname
    constructor
    · intro h
      cases h
    · rintro ⟨h, -⟩
      exact absurd rfl h
  · rw [tuples_role hname, roleTuples, bind_eq_ok]
    simp only [effectivePermissions_eq_ok_iff]
    constructor
    · rintro ⟨ps, ⟨hrefs, rfl⟩, hgrants⟩
      exact ⟨hname, hrefs, hgrants⟩
    · rintro ⟨-, hrefs, hgrants⟩
      exact ⟨_, ⟨hrefs, rfl⟩, hgrants⟩

/-- The tuple of an omitted permission is among the tuples of a role just when the role has it by
another spelling, of its own or taken over. A role has tuples at all when everything it refers to is
resolved and each of its permissions has a tuple. -/
theorem role_tuples_omit (name : String) (tenant : Option String) (spec : RoleSpec)
    (m : ResolvedRoles) :
    let role : Resource := { metadata := { name, tenant }, spec := .role spec }
    ((∃ ts, role.tuples (some m) = .ok ts) ↔
      name ≠ "" ∧ (∀ ref ∈ spec.refs, m.contains ref = true) ∧
        ∀ p, p ∈ spec.permissions ∨ spec.TakesOver m p → ∃ t, grantTuple name p = .ok t) ∧
    ∀ ts, role.tuples (some m) = .ok ts → ∀ p ∈ spec.omitted, ∀ t, grantTuple name p = .ok t →
      (t ∈ ts ↔ (∃ own ∈ spec.permissions, grantTuple name own = .ok t) ∨
        ∃ q, q ≠ p ∧ spec.TakesOver m q ∧ grantTuple name q = .ok t) := by
  intro role
  simp only [role, tuples_role_eq_ok_iff]
  constructor
  · simp only [exists_and_left, exists_roleGrants_iff, mem_permissionsFrom]
  · rintro ts ⟨-, -, hgrants⟩ p hp t -
    rw [mem_roleGrants hgrants]
    constructor
    · rintro ⟨q, hq, hgrant⟩
      rcases mem_permissionsFrom.1 hq with hown | hq
      · exact .inl ⟨q, hown, hgrant⟩
      · -- What is taken over is not omitted, so it is spelled in another way.
        refine .inr ⟨q, ?_, hq, hgrant⟩
        rintro rfl
        exact hq.1 hp
    · rintro (⟨q, hown, hgrant⟩ | ⟨q, -, hq, hgrant⟩)
      · exact ⟨q, mem_permissionsFrom.2 (.inl hown), hgrant⟩
      · exact ⟨q, mem_permissionsFrom.2 (.inr hq), hgrant⟩

/-- A role that omits reading all boards still grants it, since it takes that over spelled `*`. -/
theorem omitted_grant_remains : ¬ ∀ (name : String) (tenant : Option String) (spec : RoleSpec)
    (m : ResolvedRoles) (ts : List Tuple),
    spec.refs ≠ [] → (∀ ref ∈ spec.refs, m.contains ref = true) →
    Resource.tuples { metadata := { name, tenant }, spec := .role spec } (some m) = .ok ts →
    ∀ p ∈ spec.omitted, ∀ t, grantTuple name p = .ok t →
      (∀ own ∈ spec.permissions, grantTuple name own ≠ .ok t) → t ∉ ts := by
  intro h
  let spec : RoleSpec := { omitted := [⟨"boards:read", "boards:*"⟩], refs := ["base"] }
  let m : ResolvedRoles := SortedMap.ofList [("base", [⟨"boards:read", "*"⟩])]
  let grant : Tuple := .relate "role:ops#assignee" "get" "group_resource:boards"
  refine h "ops" (some "office") spec m [grant] (by decide) (by decide) rfl
    ⟨"boards:read", "boards:*"⟩ (by decide) grant rfl ?_ List.mem_cons_self
  exact fun own hown => absurd hown List.not_mem_nil

end PolicySync
