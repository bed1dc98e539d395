import PolicySync.Proofs.Fallible
import PolicySync.Proofs.Role.Inheritance
import PolicySync.Resource.Tuples

/-!
# The permissions of a role that takes over others

A role that refers to global roles has permissions just when all of these are resolved, and they are
its own with what it takes over (`effectivePermissions_eq_ok_iff`). Otherwise the first reference that
is missing is reported.
-/

namespace PolicySync

open Fallible

/-- The permissions that a role has when what it refers to is resolved. -/
def permissionsFrom (m : ResolvedRoles) (spec : RoleSpec) : List Permission :=
  composePermissions (spec.refs.filterMap m.get?).flatten spec.omitted spec.permissions

/-- Looking up names that are all there finds their values, in order. -/
private theorem mapM_eq_ok_of_get? {m : ResolvedRoles} {names : List String}
    {f : String → Except PolicyError (List Permission)}
    (hf : ∀ name ps, m.get? name = some ps → f name = .ok ps)
    (h : ∀ name ∈ names, m.contains name = true) : names.mapM f = .ok (names.filterMap m.get?) := by
  induction names with
  | nil => rfl
  | cons name names ih =>
    rw [List.forall_mem_cons] at h
    obtain ⟨ps, hps⟩ := SortedMap.contains_iff.1 h.1
    rw [List.mapM_cons, hf name ps hps, ih h.2, List.filterMap_cons, hps]
    rfl

/-- When all references are resolved there are effective permissions. -/
theorem effectivePermissions_eq_ok (name : String) {spec : RoleSpec} {m : ResolvedRoles}
    (hrefs : ∀ ref ∈ spec.refs, m.contains ref = true) :
    effectivePermissions name spec (some m) = .ok (permissionsFrom m spec) := by
  rw [effectivePermissions]
  split
  · -- Without references nothing is inherited, so it does not matter what is omitted.
    next hempty =>
    rw [permissionsFrom, List.isEmpty_iff.1 hempty]
    rfl
  · refine bind_eq_ok.2 ⟨spec.refs.filterMap m.get?, mapM_eq_ok_of_get? ?_ hrefs, rfl⟩
    intro ref ps hps
    rw [hps]

/-- They are those that the references hand down and the role's own. -/
theorem effectivePermissions_eq_ok_iff {name : String} {spec : RoleSpec} {m : ResolvedRoles}
    {ps : List Permission} : effectivePermissions name spec (some m) = .ok ps ↔
      (∀ ref ∈ spec.refs, m.contains ref = true) ∧ ps = permissionsFrom m spec := by
  constructor
  · intro h
    have hrefs : ∀ ref ∈ spec.refs, m.contains ref = true := by
      intro ref href
      by_contra hmissing
      rw [effectivePermissions, if_neg (by simpa using List.ne_nil_of_mem href)] at h
      obtain ⟨inherited, hinherited, -⟩ := bind_eq_ok.1 h
      obtain ⟨ps', hps'⟩ := exists_mapM_eq_ok_iff.1 ⟨inherited, hinherited⟩ ref href
      rw [SortedMap.get?_eq_none_iff.2 hmissing] at hps'
      cases hps'
    rw [effectivePermissions_eq_ok name hrefs] at h
    cases h
    exact ⟨hrefs, rfl⟩
  · rintro ⟨hrefs, rfl⟩
    exact effectivePermissions_eq_ok name hrefs

/-- The first reference that is not resolved is the error. -/
theorem effectivePermissions_eq_error (name : String) {spec : RoleSpec} {m : ResolvedRoles}
    {before after : List String} {ref : String} (hrefs : spec.refs = before ++ ref :: after)
    (hbefore : ∀ r ∈ before, m.contains r = true) (href : ¬ m.contains ref = true) :
    effectivePermissions name spec (some m) = .error (.unknownRoleRef name ref) := by
  rw [effectivePermissions, hrefs, if_neg (by simp), mapM_eq_error]
  · rfl
  · intro r hr
    obtain ⟨ps, hps⟩ := SortedMap.contains_iff.1 (hbefore r hr)
    rw [hps]
    exact ⟨ps, rfl⟩
  · rw [SortedMap.get?_eq_none_iff.2 href]

/-- What the global roles have matters only for those that a role refers to. -/
theorem effectivePermissions_congr (name : String) {spec : RoleSpec} {m m' : ResolvedRoles}
    (h : ∀ ref ∈ spec.refs, m'.get? ref = m.get? ref) :
    effectivePermissions name spec (some m') = effectivePermissions name spec (some m) := by
  rw [effectivePermissions, effectivePermissions]
  split
  · rfl
  · rw [mapM_congr fun ref href => by rw [h ref href]]

end PolicySync
