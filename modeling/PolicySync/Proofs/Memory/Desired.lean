import PolicySync.Memory.Lister
import PolicySync.Pass.Tenant
import PolicySync.Proofs.Resource.Tuples
import PolicySync.Proofs.Role.Snapshot

/-!
# What the listed resources ask for

`Lister.desired?` is the set of tuples that the resources of a lister ask for in a tenant: the grants
of all global roles, and the tuples of the tenant's own resources. It is defined without pages, and
there is none when some role or resource has no tuples. All tuples of the set are unconditional.
-/

namespace PolicySync

open Fallible

namespace Memory.Lister

/-- The global roles, a later one in the place of an earlier one of its name. -/
def roles (l : Lister) : Roles :=
  SortedMap.ofList ((l.shelf ⟨.globalRole, none⟩).filterMap fun r =>
    match r.spec with
    | .globalRole spec => some (r.name, spec)
    | _ => none)

/-- The resolved global roles and their grants. -/
def snapshot? (l : Lister) : Option Snapshot := do
  let resolved ← (resolve l.roles).toOption
  let tuples ← (clusterTuples resolved).toOption
  return { resolved, tuples }

/-- The resources in the namespace of a tenant, kind by kind. -/
def resourcesOf (l : Lister) (tenant : String) : List Resource :=
  ResourceKind.namespaced.flatMap fun kind => l.shelf ⟨kind, some tenant⟩

/-- The tuples that a tenant's resources stand for. -/
def tenantTuples (l : Lister) (resolved : ResolvedRoles) (tenant : String) :
    Except PolicyError (List Tuple) := do
  let tuples ← (l.resourcesOf tenant).mapM fun r => r.tuples (some resolved)
  return tuples.flatten

/-- What a snapshot and a tenant's resources ask for in the tenant. -/
def desiredFrom? (l : Lister) (snapshot : Snapshot) (tenant : String) : Option TupleSet := do
  let tuples ← (l.tenantTuples snapshot.resolved tenant).toOption
  return TupleSet.ofTuples (snapshot.tuples ++ tuples)

/-- What the resources ask for in a tenant. -/
def desired? (l : Lister) (tenant : String) : Option TupleSet := do
  l.desiredFrom? (← l.snapshot?) tenant

variable {l : Lister} {snapshot : Snapshot} {tenant : String} {desired : TupleSet}

/-- There is a snapshot when the roles are resolved and have grants. -/
theorem snapshot?_eq_some_iff : l.snapshot? = some snapshot ↔
    resolve l.roles = .ok snapshot.resolved ∧
      clusterTuples snapshot.resolved = .ok snapshot.tuples := by
  simp only [snapshot?, Option.bind_eq_bind, Option.bind_eq_some_iff, toOption_eq_some]
  constructor
  · rintro ⟨resolved, hresolved, tuples, htuples, heq⟩
    cases heq
    exact ⟨hresolved, htuples⟩
  · rintro ⟨hresolved, htuples⟩
    exact ⟨_, hresolved, _, htuples, rfl⟩

/-- What is desired are the tuples of the snapshot and those of the tenant's resources. -/
theorem desiredFrom?_eq_some_iff : l.desiredFrom? snapshot tenant = some desired ↔
    ∃ tuples, l.tenantTuples snapshot.resolved tenant = .ok tuples ∧
      desired = TupleSet.ofTuples (snapshot.tuples ++ tuples) := by
  simp only [desiredFrom?, Option.bind_eq_bind, Option.bind_eq_some_iff, toOption_eq_some]
  constructor
  · rintro ⟨tuples, htuples, heq⟩
    cases heq
    exact ⟨tuples, htuples, rfl⟩
  · rintro ⟨tuples, htuples, rfl⟩
    exact ⟨tuples, htuples, rfl⟩

/-- The tuples of resources carry no condition. -/
theorem tenantTuples_plain {resolved : ResolvedRoles} {ts : List Tuple}
    (h : l.tenantTuples resolved tenant = .ok ts) : ∀ t ∈ ts, t.Plain := by
  obtain ⟨tuples, htuples, h⟩ := bind_eq_ok.1 h
  cases h
  have hall := forall_of_mapM_eq_ok (P := fun ts => ∀ t ∈ ts, t.Plain) htuples
    fun _ _ => Resource.tuples_plain
  intro t ht
  obtain ⟨ts, hts, ht⟩ := List.mem_flatten.1 ht
  exact hall ts hts t ht

/-- The desired tuples are filed under their keys. -/
theorem keyed_of_desiredFrom? (h : l.desiredFrom? snapshot tenant = some desired) :
    desired.Keyed := by
  obtain ⟨tuples, -, rfl⟩ := desiredFrom?_eq_some_iff.1 h
  exact TupleSet.keyed_ofTuples _

/-- The desired tuple of a key is the unconditional one. -/
theorem get?_of_desired? (h : l.desired? tenant = some desired) (k : TupleKey) :
    desired.get? k = if desired.contains k = true then some { key := k } else none := by
  obtain ⟨snapshot, hsnapshot, hdesired⟩ := Option.bind_eq_some_iff.1 h
  obtain ⟨-, hgrants⟩ := snapshot?_eq_some_iff.1 hsnapshot
  obtain ⟨tuples, htuples, rfl⟩ := desiredFrom?_eq_some_iff.1 hdesired
  apply TupleSet.get?_ofTuples_of_plain
  intro t ht
  rcases List.mem_append.1 ht with ht | ht
  · exact clusterTuples_plain hgrants t ht
  · exact tenantTuples_plain htuples t ht

end Memory.Lister

/-! ## Taking resources in one by one -/

/-- The roles that are read one by one are those on the shelf. -/
theorem Memory.Lister.roles_of_foldlM {l : Memory.Lister} {roles : Roles}
    (h : (l.shelf ⟨.globalRole, none⟩).foldlM Snapshot.addRole SortedMap.empty = .ok roles) :
    roles = l.roles :=
  (Snapshot.foldlM_addRole_eq_ok_iff.1 h).2

/-- The snapshot of the global roles is their resolution with its grants. -/
theorem Memory.Lister.snapshot?_of_ofRoles {l : Memory.Lister} {snapshot : Snapshot}
    (h : Snapshot.ofRoles l.roles = .ok snapshot) : l.snapshot? = some snapshot := by
  -- Building the snapshot checks the grants, and changes none of them.
  obtain ⟨hresolved, hgrants, -⟩ := Snapshot.ofRoles_eq_ok_iff.1 h
  exact snapshot?_eq_some_iff.2 ⟨hresolved, hgrants⟩

/-- A resource adds its tuples if they fit the model. -/
theorem Pass.addDesired_eq_ok_iff {resolved : ResolvedRoles} {desired out : TupleSet}
    {r : Resource} : Pass.addDesired resolved desired r = .ok out ↔
      ∃ ts, r.validTuples (some resolved) = .ok ts ∧ out = TupleSet.insertTuples desired ts := by
  unfold Pass.addDesired
  cases r.validTuples (some resolved) with
  | error e => simp
  | ok ts => simp [eq_comm]

/-- Resources that are taken in one by one put in their tuples. -/
theorem Pass.foldlM_addDesired_eq_ok_iff {resolved : ResolvedRoles} {desired out : TupleSet}
    {rs : List Resource} : rs.foldlM (Pass.addDesired resolved) desired = .ok out ↔
      ∃ tuples, rs.mapM (fun r => r.validTuples (some resolved)) = .ok tuples ∧
        out = TupleSet.insertTuples desired tuples.flatten := by
  induction rs generalizing desired with
  | nil =>
    rw [List.foldlM_nil, pure_eq_ok]
    simp [pure, Except.pure, TupleSet.insertTuples, eq_comm]
  | cons r rs ih =>
    simp only [List.foldlM_cons, List.mapM_cons, bind_eq_ok, pure_eq_ok, Pass.addDesired_eq_ok_iff,
      ih]
    constructor
    · rintro ⟨-, ⟨ts, hts, rfl⟩, tuples, htuples, rfl⟩
      refine ⟨ts :: tuples, ⟨ts, hts, tuples, htuples, rfl⟩, ?_⟩
      rw [List.flatten_cons, TupleSet.insertTuples_append]
    · rintro ⟨-, ⟨ts, hts, tuples, htuples, rfl⟩, rfl⟩
      refine ⟨_, ⟨ts, hts, rfl⟩, tuples, htuples, ?_⟩
      rw [List.flatten_cons, TupleSet.insertTuples_append]

/-- Taking in all of a tenant's resources gives what they ask for. -/
theorem Memory.Lister.desiredFrom?_of_foldlM {l : Memory.Lister} {snapshot : Snapshot}
    {tenant : String} {desired : TupleSet}
    (h : (l.resourcesOf tenant).foldlM (Pass.addDesired snapshot.resolved)
      (TupleSet.ofTuples snapshot.tuples) = .ok desired) :
    l.desiredFrom? snapshot tenant = some desired := by
  obtain ⟨tuples, hvalid, rfl⟩ := Pass.foldlM_addDesired_eq_ok_iff.1 h
  have htuples := mapM_eq_ok_of_imp hvalid fun _ _ => Resource.tuples_of_validTuples
  exact desiredFrom?_eq_some_iff.2 ⟨tuples.flatten, bind_eq_ok.2 ⟨tuples, htuples, rfl⟩,
    (TupleSet.ofTuples_append _ _).symm⟩

end PolicySync
