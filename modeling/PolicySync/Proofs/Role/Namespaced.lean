import PolicySync.Proofs.Role.Effective

/-!
# Roles of a tenant

A role of a tenant is not among the global roles, but it takes over permissions from them as if it
were. If it were added to them under a fresh name, that would leave the other roles as they are, and it
would be resolved to the permissions that its grants are for; a reference that is missing is missing
either way (`role_tuples_of_resolve`).
-/

namespace PolicySync

open Fallible

namespace Roles

variable {roles : Roles} {fresh : String} {spec : RoleSpec}

/-- Under a fresh name there is the new role, and the others stay. -/
theorem specOf_insert (roles : Roles) (fresh : String) (spec : RoleSpec) (name : String) :
    specOf (roles.insert fresh spec) name = if name = fresh then spec else roles.specOf name := by
  rw [specOf, SortedMap.get?_insert]
  split <;> rfl

/-- The new role refers to what it says. -/
theorem refers_insert_self {ref : String} :
    Refers (roles.insert fresh spec) fresh ref ↔ ref ∈ spec.refs := by
  rw [Refers, specOf_insert, if_pos rfl]

/-- The others refer to what they did. -/
theorem refers_insert_of_ne {name ref : String} (h : name ≠ fresh) :
    Refers (roles.insert fresh spec) name ref ↔ roles.Refers name ref := by
  rw [Refers, specOf_insert, if_neg h, Refers]

end Roles

namespace Worklist

/-- What a resolved role refers to is resolved. -/
theorem Resolves.contains_ref {roles : Roles} {m : ResolvedRoles} (h : Resolves roles m)
    {name ref : String} (hname : m.contains name = true) (href : roles.Refers name ref) :
    m.contains ref = true := by
  induction h with
  | start => simp at hname
  | takeUp _ _ _ hrefs ih =>
    rw [SortedMap.contains_insert]
    rcases SortedMap.contains_insert.1 hname with rfl | hname
    · exact .inr (hrefs ref href)
    · exact .inr (ih hname)

/-- Roles are resolved as before when one is added that they do not refer to. -/
theorem Resolves.insert_fresh {roles : Roles} {m : ResolvedRoles} (h : Resolves roles m)
    {fresh : String} (hfresh : ¬ roles.contains fresh = true) (spec : RoleSpec) :
    Resolves (roles.insert fresh spec) m := by
  induction h with
  | start => exact .start
  | @takeUp m name hm hin hnew hrefs ih =>
    have hne : name ≠ fresh := by
      rintro rfl
      exact hfresh hin
    have hspec : Roles.specOf (roles.insert fresh spec) name = roles.specOf name := by
      rw [Roles.specOf_insert, if_neg hne]
    have htaken := ih.takeUp (SortedMap.contains_insert.2 (.inr hin)) hnew fun ref href =>
      hrefs ref ((Roles.refers_insert_of_ne hne).1 href)
    rwa [hspec] at htaken

end Worklist

/-- Resolution succeeds with what has been resolved if that is all. -/
theorem resolve_eq_ok_of_resolves {roles : Roles} {m : ResolvedRoles}
    (h : Worklist.Resolves roles m)
    (hall : ∀ name, roles.contains name = true → m.contains name = true) : resolve roles = .ok m := by
  have hclosed : roles.Closed := fun name ref href =>
    h.contains (h.contains_ref (hall name href.contains) href)
  have hacyclic : ¬ ∃ c, roles.OnCycle c := by
    rintro ⟨c, hcycle⟩
    have hreach : roles.ReachesCycle c := ⟨c, .refl, hcycle⟩
    exact h.not_reachesCycle (hall c hreach.contains) hreach
  obtain ⟨m', hm'⟩ := exists_resolve_eq_ok hclosed hacyclic
  obtain ⟨hres', hcontains', -, -⟩ := resolve_eq_ok hm'
  have hsame : m = m' := by
    refine h.eq_of_granted hres' (fun name => ?_) fun _ _ => .rfl
    rw [hcontains', Bool.eq_iff_iff]
    exact ⟨h.contains, hall name⟩
  rw [hm', hsame]

/-- A role that is added under a fresh name is resolved after the others. -/
theorem resolve_insert_fresh {roles : Roles} {m : ResolvedRoles} (h : resolve roles = .ok m)
    {fresh : String} (hfresh : ¬ roles.contains fresh = true) {spec : RoleSpec}
    (hrefs : ∀ ref ∈ spec.refs, roles.contains ref = true) :
    resolve (roles.insert fresh spec) = .ok (m.insert fresh (permissionsFrom m spec)) := by
  obtain ⟨hres, hcontains, -, -⟩ := resolve_eq_ok h
  have htaken := (hres.insert_fresh hfresh spec).takeUp
    (SortedMap.contains_insert.2 (.inl rfl)) (hcontains fresh ▸ hfresh) fun ref href => by
      rw [hcontains]
      exact hrefs ref (Roles.refers_insert_self.1 href)
  rw [Roles.specOf_insert, if_pos rfl] at htaken
  refine resolve_eq_ok_of_resolves htaken fun name hname => ?_
  rw [SortedMap.contains_insert, hcontains]
  exact SortedMap.contains_insert.1 hname

/-- When a role is added that refers to a missing one, that is the first reference that is missing. -/
theorem resolve_insert_of_unknown {roles : Roles} (hclosed : roles.Closed) {fresh : String}
    {spec : RoleSpec} (hself : fresh ∉ spec.refs)
    (hunknown : ¬ ∀ ref ∈ spec.refs, roles.contains ref = true) :
    ∃ before ref after, spec.refs = before ++ ref :: after ∧
      (∀ r ∈ before, roles.contains r = true) ∧ ¬ roles.contains ref = true ∧
      resolve (roles.insert fresh spec) = .error (.unknownReference fresh ref) := by
  have hcontains : ∀ ref, ref ≠ fresh →
      ((roles.insert fresh spec).contains ref = true ↔ roles.contains ref = true) := by
    intro ref hne
    rw [SortedMap.contains_insert, or_iff_right hne]
  have hopen : ¬ Roles.Closed (roles.insert fresh spec) := by
    intro hclosed'
    refine hunknown fun ref href => (hcontains ref fun h => hself (h ▸ href)).1 ?_
    exact hclosed' fresh ref (Roles.refers_insert_self.2 href)
  rw [← Roles.firstUnknown?_eq_none_iff] at hopen
  obtain ⟨⟨name, ref⟩, hfound⟩ := Option.ne_none_iff_exists'.1 hopen
  obtain ⟨⟨before, after, hrefs, hbefore⟩, hmissing, -⟩ := Roles.firstUnknown_of_eq_some hfound
  have hrefers : Roles.Refers (roles.insert fresh spec) name ref := by
    rw [Roles.Refers, hrefs]
    exact List.mem_append_right before List.mem_cons_self
  -- The other roles refer to none that is missing.
  have hname : name = fresh := by
    by_contra hne
    have hknown := hclosed name ref ((Roles.refers_insert_of_ne hne).1 hrefers)
    exact hmissing (SortedMap.contains_insert.2 (.inr hknown))
  subst hname
  rw [Roles.specOf_insert, if_pos rfl] at hrefs
  have hne : ∀ r ∈ spec.refs, r ≠ name := fun r hr heq => hself (heq ▸ hr)
  rw [hrefs] at hne
  refine ⟨before, ref, after, hrefs, fun r hr => ?_, fun hknown => ?_, by rw [resolve, hfound]⟩
  · exact (hcontains r (hne r (List.mem_append_left _ hr))).1 (hbefore r hr)
  · exact hmissing (SortedMap.contains_insert.2 (.inr hknown))

/-! ## The tuples of a role of a tenant -/

/-- The tuples of a tenant's role are those of its effective permissions. -/
theorem tuples_role {name : String} (hname : name ≠ "") (tenant : Option String) (spec : RoleSpec)
    (resolved : Option ResolvedRoles) :
    Resource.tuples { metadata := { name, tenant }, spec := .role spec } resolved =
      roleTuples name spec resolved := by
  have hnonempty : ¬ name.isEmpty = true := by simpa using hname
  exact if_neg hnonempty

/-- A role of a tenant has the grants of a global role that says the same under a fresh name. Adding
that one leaves the other roles as they are, and a missing reference fails both ways. Of the global
roles only those matter that the role refers to, not one that happens to have its name. -/
theorem role_tuples_of_resolve {roles : Roles} {m : ResolvedRoles} (h : resolve roles = .ok m)
    {name fresh : String} {spec : RoleSpec} (hname : name ≠ "")
    (hfresh : ¬ roles.contains fresh = true) (hself : fresh ∉ spec.refs) (tenant : Option String) :
    let role : Resource := { metadata := { name, tenant }, spec := .role spec }
    ((∀ ref ∈ spec.refs, roles.contains ref = true) →
      ∃ m' ps, resolve (roles.insert fresh spec) = .ok m' ∧ m'.get? fresh = some ps ∧
        (∀ other, roles.contains other = true → m'.get? other = m.get? other) ∧
        role.tuples (some m) = roleGrants name ps) ∧
    ((¬ ∀ ref ∈ spec.refs, roles.contains ref = true) →
      ∃ before ref after, spec.refs = before ++ ref :: after ∧
        (∀ r ∈ before, roles.contains r = true) ∧ ¬ roles.contains ref = true ∧
        role.tuples (some m) = .error (.unknownRoleRef name ref) ∧
        resolve (roles.insert fresh spec) = .error (.unknownReference fresh ref)) ∧
    ∀ m₂ : ResolvedRoles, (∀ ref ∈ spec.refs, m₂.get? ref = m.get? ref) →
      role.tuples (some m₂) = role.tuples (some m) := by
  intro role
  obtain ⟨-, hcontains, hclosed, -⟩ := resolve_eq_ok h
  -- Both sides go through the permissions that the references hand down.
  simp only [role, tuples_role hname, roleTuples]
  refine ⟨fun hrefs => ?_, fun hunknown => ?_, fun m₂ hsame => ?_⟩
  · refine ⟨_, permissionsFrom m spec, resolve_insert_fresh h hfresh hrefs,
      SortedMap.get?_insert_self _ _ _, fun other hother => ?_, ?_⟩
    · refine SortedMap.get?_insert_of_ne _ _ ?_
      rintro rfl
      exact hfresh hother
    · rw [effectivePermissions_eq_ok name fun ref href => hcontains ref ▸ hrefs ref href]
      rfl
  · obtain ⟨before, ref, after, hrefs, hbefore, href, hresolve⟩ :=
      resolve_insert_of_unknown hclosed hself hunknown
    refine ⟨before, ref, after, hrefs, hbefore, href, ?_, hresolve⟩
    rw [effectivePermissions_eq_error name hrefs (fun r hr => hcontains r ▸ hbefore r hr)
      (hcontains ref ▸ href)]
    rfl
  · rw [effectivePermissions_congr name hsame]

/-- Global roles, one of which has the name of a tenant's role. -/
def sharedRoles : Roles := SortedMap.ofList [
  ("base", { permissions := [⟨"folders:read", "*"⟩, ⟨"teams:read", "*"⟩] }),
  ("ops", { permissions := [⟨"users:write", "*"⟩] })]

/-- What the tenant's role says. -/
def opsSpec : RoleSpec where
  permissions := [⟨"boards:create", "*"⟩]
  omitted := [⟨"teams:read", "*"⟩]
  refs := ["base"]

/-- What `sharedRoles` are resolved to. -/
def sharedResolved : ResolvedRoles := SortedMap.ofList [
  ("base", [⟨"folders:read", "*"⟩, ⟨"teams:read", "*"⟩]),
  ("ops", [⟨"users:write", "*"⟩])]

/-- The office's role has the name of a global one. Beside that it is resolved under a name of its own,
and its tuples still carry the name that they share. -/
theorem role_tuples_of_resolve_shared :
    ∃ m', resolve (sharedRoles.insert "ops of office" opsSpec) = .ok m' ∧
      m'.get? "ops" = some [⟨"users:write", "*"⟩] ∧
      m'.get? "ops of office" = some [⟨"boards:create", "*"⟩, ⟨"folders:read", "*"⟩] ∧
      Resource.tuples { metadata := { name := "ops", tenant := some "office" }, spec := .role opsSpec }
        (some sharedResolved) = .ok [
          .relate "role:ops#assignee" "create" "group_resource:boards",
          .relate "role:ops#assignee" "get" "group_resource:folders"] := by
  have h : resolve sharedRoles = .ok sharedResolved := rfl
  have hname : "ops" ≠ "" := by decide
  have hfresh : ¬ sharedRoles.contains "ops of office" = true := by decide
  have hself : "ops of office" ∉ opsSpec.refs := by decide
  obtain ⟨hknown, -, -⟩ := role_tuples_of_resolve h hname hfresh hself (some "office")
  obtain ⟨m', ps, hm', hps, hold, htuples⟩ := hknown (by decide)
  have hresolved : resolve (sharedRoles.insert "ops of office" opsSpec) =
      .ok (sharedResolved.insert "ops of office" [⟨"boards:create", "*"⟩, ⟨"folders:read", "*"⟩]) := rfl
  rw [hresolved] at hm'
  cases hm'
  cases hps
  exact ⟨_, hresolved, hold "ops" (by decide), rfl, htuples⟩

end PolicySync
