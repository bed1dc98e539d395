import PolicySync.Proofs.Role.Outcome

/-!
# What a role inherits

A permission comes to a role along a chain of references, from a role that has it of its own, if no
role that takes it over omits it (`Granted`). A resolved role has exactly these permissions, in
order and once each, so it does not matter in which order references and permissions are listed, or
how often.
-/

namespace PolicySync

namespace Roles

/-- A chain of `k` references hands a permission down: the last role has it of its own, and the
roles before it do not omit it. -/
structure HandsDown (roles : Roles) (p : Permission) (k : Nat) (chain : Nat → String) : Prop where
  refers : ∀ i < k, roles.Refers (chain i) (chain (i + 1))
  own : p ∈ (roles.specOf (chain k)).permissions
  kept : ∀ i < k, p ∉ (roles.specOf (chain i)).omitted

/-- A permission comes to a role along some chain. -/
def Granted (roles : Roles) (name : String) (p : Permission) : Prop :=
  ∃ k chain, chain 0 = name ∧ roles.HandsDown p k chain

/-- A permission of a role is its own, or it is taken over from a reference and not omitted. -/
theorem granted_iff {roles : Roles} {name : String} {p : Permission} :
    roles.Granted name p ↔ p ∈ (roles.specOf name).permissions ∨
      p ∉ (roles.specOf name).omitted ∧ ∃ ref, roles.Refers name ref ∧ roles.Granted ref p := by
  constructor
  · rintro ⟨k, chain, rfl, hrefers, hown, hkept⟩
    cases k with
    | zero => exact .inl hown
    | succ k =>
      refine .inr ⟨hkept 0 (Nat.succ_pos k), chain 1, hrefers 0 (Nat.succ_pos k),
        k, fun i => chain (i + 1), rfl, ?_, hown, ?_⟩
      · exact fun i hi => hrefers (i + 1) (Nat.succ_lt_succ hi)
      · exact fun i hi => hkept (i + 1) (Nat.succ_lt_succ hi)
  · rintro (hown | ⟨homit, ref, href, k, chain, rfl, hrefers, hown, hkept⟩)
    · exact ⟨0, fun _ => name, rfl, fun i hi => absurd hi (Nat.not_lt_zero i), hown,
        fun i hi => absurd hi (Nat.not_lt_zero i)⟩
    · refine ⟨k + 1, fun | 0 => name | i + 1 => chain i, rfl, ?_, hown, ?_⟩
      · rintro (_ | i) hi
        · exact href
        · exact hrefers i (Nat.lt_of_succ_lt_succ hi)
      · rintro (_ | i) hi
        · exact homit
        · exact hkept i (Nat.lt_of_succ_lt_succ hi)

end Roles

/-- A role has its own permissions and those that it inherits and does not omit. -/
theorem mem_composePermissions {inherited omitted own : List Permission} {p : Permission} :
    p ∈ composePermissions inherited omitted own ↔ p ∈ own ∨ p ∉ omitted ∧ p ∈ inherited := by
  rw [composePermissions, Permission.mem_sortDistinct, List.mem_append, List.mem_filter,
    Bool.not_eq_true', ← Bool.not_eq_true, List.contains_iff_mem, or_comm, and_comm]

/-! ## The permissions of resolved roles -/

namespace Worklist

/-- Resolved roles have the permissions that come to them, in order. -/
theorem Resolves.get?_spec {roles : Roles} {m : ResolvedRoles} (h : Resolves roles m)
    {name : String} {ps : List Permission} (hget : m.get? name = some ps) :
    ps.Pairwise Permission.Precedes ∧ ∀ p, p ∈ ps ↔ roles.Granted name p := by
  induction h generalizing name ps with
  | start => simp at hget
  | @takeUp m other hm _ _ hrefs ih =>
    rw [SortedMap.get?_insert] at hget
    split at hget
    · next heq =>
      subst heq
      cases hget
      refine ⟨Permission.sortDistinct_sorted _, fun p => ?_⟩
      have hinherited : p ∈ ((roles.specOf name).refs.filterMap m.get?).flatten ↔
          ∃ ref, roles.Refers name ref ∧ roles.Granted ref p := by
        rw [List.mem_flatten]
        constructor
        · rintro ⟨qs, hqs, hp⟩
          obtain ⟨ref, href, hget⟩ := List.mem_filterMap.1 hqs
          exact ⟨ref, href, ((ih hget).2 p).1 hp⟩
        · rintro ⟨ref, href, hp⟩
          -- Every reference is resolved before, so none is left out.
          obtain ⟨qs, hqs⟩ := SortedMap.contains_iff.1 (hrefs ref href)
          exact ⟨qs, List.mem_filterMap.2 ⟨ref, href, hqs⟩, ((ih hqs).2 p).2 hp⟩
      rw [mem_composePermissions, hinherited, Roles.granted_iff]
    · exact ih hget

end Worklist

/-! ## Order and repetition do not matter -/

namespace Roles

/-- The same roles, up to the order and the repetition of what they list. -/
structure SameUpToOrder (roles others : Roles) : Prop where
  contains_eq : ∀ name, roles.contains name = others.contains name
  refers_iff : ∀ name ref, roles.Refers name ref ↔ others.Refers name ref
  mem_omitted_iff : ∀ name p, p ∈ (roles.specOf name).omitted ↔ p ∈ (others.specOf name).omitted
  mem_own_iff : ∀ name p, p ∈ (roles.specOf name).permissions ↔ p ∈ (others.specOf name).permissions

variable {roles others : Roles}

/-- Permissions are handed down along the same chains. -/
theorem SameUpToOrder.handsDown_iff (h : roles.SameUpToOrder others) {p : Permission} {k : Nat}
    {chain : Nat → String} : roles.HandsDown p k chain ↔ others.HandsDown p k chain := by
  constructor
  · rintro ⟨hrefers, hown, hkept⟩
    exact ⟨fun i hi => (h.refers_iff _ _).1 (hrefers i hi), (h.mem_own_iff _ _).1 hown,
      fun i hi hp => hkept i hi ((h.mem_omitted_iff _ _).2 hp)⟩
  · rintro ⟨hrefers, hown, hkept⟩
    exact ⟨fun i hi => (h.refers_iff _ _).2 (hrefers i hi), (h.mem_own_iff _ _).2 hown,
      fun i hi hp => hkept i hi ((h.mem_omitted_iff _ _).1 hp)⟩

/-- So the same are granted. -/
theorem SameUpToOrder.granted_iff (h : roles.SameUpToOrder others) {name : String}
    {p : Permission} : roles.Granted name p ↔ others.Granted name p := by
  simp only [Granted, h.handsDown_iff]

/-- The same references lead to roles. -/
theorem SameUpToOrder.closed (h : roles.SameUpToOrder others) (hclosed : roles.Closed) :
    others.Closed := by
  intro name ref href
  rw [← h.contains_eq]
  exact hclosed name ref ((h.refers_iff name ref).2 href)

/-- The same roles are on cycles. -/
theorem SameUpToOrder.onCycle_iff (h : roles.SameUpToOrder others) {name : String} :
    roles.OnCycle name ↔ others.OnCycle name := by
  have hrefers : roles.Refers = others.Refers := by
    funext a b
    exact propext (h.refers_iff a b)
  rw [OnCycle, OnCycle, hrefers]

end Roles

/-- Resolved permissions are determined by the roles they are of and what is granted to these. -/
theorem Worklist.Resolves.eq_of_granted {roles others : Roles} {m n : ResolvedRoles}
    (hm : Worklist.Resolves roles m) (hn : Worklist.Resolves others n)
    (hcontains : ∀ name, m.contains name = n.contains name)
    (hgranted : ∀ name p, roles.Granted name p ↔ others.Granted name p) : m = n := by
  refine SortedMap.ext_get? fun name => ?_
  cases hps : m.get? name with
  | none =>
    rw [SortedMap.get?_eq_none_iff, hcontains, ← SortedMap.get?_eq_none_iff] at hps
    exact hps.symm
  | some ps =>
    obtain ⟨qs, hqs⟩ := SortedMap.contains_iff.1 (hcontains name ▸ SortedMap.contains_of_get? hps)
    have hmem : ∀ p, p ∈ ps ↔ p ∈ qs := by
      intro p
      rw [(hm.get?_spec hps).2, (hn.get?_spec hqs).2, hgranted]
    rw [hqs, Permission.eq_of_precedes (hm.get?_spec hps).1 (hn.get?_spec hqs).1 hmem]

/-- When roles are resolved, each role has its permissions in strictly increasing order, and they
are those that come to it along a chain of references. So its own permissions are among them even
if it omits them, and without references they are all. Neither order nor repetition matters in what
the roles list. -/
theorem resolve_granted {roles : Roles} {m : ResolvedRoles} (h : resolve roles = .ok m) :
    m.keys = roles.keys ∧
    (∀ name ps, m.get? name = some ps → ps.Pairwise Permission.Precedes ∧
      (∀ p, p ∈ ps ↔ roles.Granted name p) ∧
      (∀ p ∈ (roles.specOf name).permissions, p ∈ ps) ∧
      ((roles.specOf name).refs = [] → ∀ p, p ∈ ps ↔ p ∈ (roles.specOf name).permissions)) ∧
    ∀ others, roles.SameUpToOrder others → resolve others = .ok m := by
  obtain ⟨hres, hcontains, hclosed, hacyclic⟩ := resolve_eq_ok h
  refine ⟨?_, ?_, ?_⟩
  · refine SortedMap.eq_of_sorted m.keys_sorted roles.keys_sorted fun name => ?_
    rw [SortedMap.mem_keys, SortedMap.mem_keys, hcontains]
  · intro name ps hps
    obtain ⟨hsorted, hmem⟩ := hres.get?_spec hps
    refine ⟨hsorted, hmem, fun p hp => ?_, fun hnil p => ?_⟩
    · rw [hmem, Roles.granted_iff]
      exact .inl hp
    · rw [hmem, Roles.granted_iff]
      simp [Roles.Refers, hnil]
  · intro others hsame
    have hacyclic' : ¬ ∃ c, others.OnCycle c := by
      simpa only [← hsame.onCycle_iff] using hacyclic
    obtain ⟨n, hn⟩ := exists_resolve_eq_ok (hsame.closed hclosed) hacyclic'
    obtain ⟨hres', hcontains', -, -⟩ := resolve_eq_ok hn
    have hmn : m = n := by
      refine hres.eq_of_granted hres' (fun name => ?_) fun name p => hsame.granted_iff
      rw [hcontains, hcontains', hsame.contains_eq]
    rw [hn, hmn]

/-- A role takes over from two roles that share a base. One of the two omits what the other hands
down, and has it of its own what it omits. -/
def diamondRoles : Roles := SortedMap.ofList [
  ("base", { permissions := [⟨"folders:read", "*"⟩, ⟨"teams:read", "*"⟩] }),
  ("left", { refs := ["base", "base"], omitted := [⟨"teams:read", "*"⟩] }),
  ("right", {
    refs := ["base"]
    omitted := [⟨"folders:read", "*"⟩]
    permissions := [⟨"folders:read", "*"⟩] }),
  ("top", { refs := ["right", "left"], omitted := [⟨"folders:read", "*"⟩] })]

/-- The permissions of `diamondRoles`. -/
def diamondResolved : ResolvedRoles := SortedMap.ofList [
  ("base", [⟨"folders:read", "*"⟩, ⟨"teams:read", "*"⟩]),
  ("left", [⟨"folders:read", "*"⟩]),
  ("right", [⟨"folders:read", "*"⟩, ⟨"teams:read", "*"⟩]),
  ("top", [⟨"teams:read", "*"⟩])]

/-- A permission is handed down along both sides of a diamond and granted once. -/
theorem resolve_granted_diamond :
    resolve diamondRoles = .ok diamondResolved ∧ diamondResolved.keys = diamondRoles.keys ∧
      ∀ p, p ∈ [(⟨"teams:read", "*"⟩ : Permission)] ↔ diamondRoles.Granted "top" p := by
  have h : resolve diamondRoles = .ok diamondResolved := rfl
  obtain ⟨hkeys, hspec, -⟩ := resolve_granted h
  exact ⟨h, hkeys, (hspec "top" _ rfl).2.1⟩

end PolicySync
