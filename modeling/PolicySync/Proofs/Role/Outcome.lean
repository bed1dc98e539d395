import Mathlib.Data.Fintype.Pigeonhole
import Mathlib.Data.Fintype.Sets
import Mathlib.Logic.Relation
import PolicySync.Proofs.Role.Worklist

/-!
# When roles can be resolved

Resolution has three outcomes. It reports the first reference to a role that does not exist; else it
reports the roles that depend on a cycle; else it succeeds. `resolve_outcome` says so in terms of the
references alone: the roles that the worklist never takes up are those from which a cycle is
reached.
-/

namespace PolicySync

open Relation (ReflTransGen TransGen)

namespace Roles

/-- A role is on a cycle of references, which may be a reference to itself. -/
def OnCycle (roles : Roles) (name : String) : Prop := TransGen roles.Refers name name

/-- References lead from a role to a cycle; the role may be on it. -/
def ReachesCycle (roles : Roles) (name : String) : Prop :=
  ∃ c, ReflTransGen roles.Refers name c ∧ roles.OnCycle c

/-- The first reference to a role that does not exist: that of the first role by name which has one,
and the first one in its list. -/
structure FirstUnknown (roles : Roles) (name ref : String) : Prop where
  first_in_list : ∃ before after, (roles.specOf name).refs = before ++ ref :: after ∧
    ∀ r ∈ before, roles.contains r = true
  unknown : ¬ roles.contains ref = true
  first_by_name : ∀ other < name, ∀ r, roles.Refers other r → roles.contains r = true

/-! ## Unknown references -/

/-- What the search for unknown references looks for in one entry. -/
private theorem find_unknown_eq_none {roles : Roles} {e : String × RoleSpec}
    (he : e ∈ roles.toList) :
    (e.2.refs.find? fun ref => !roles.contains ref).map (fun ref => (e.1, ref)) = none ↔
      ∀ ref, roles.Refers e.1 ref → roles.contains ref = true := by
  rw [Option.map_eq_none_iff, List.find?_eq_none]
  simp [Refers, specOf_of_get? (SortedMap.get?_eq_some_iff.2 he)]

/-- No unknown reference is found exactly when there is none. -/
theorem firstUnknown?_eq_none_iff {roles : Roles} : roles.firstUnknown? = none ↔ roles.Closed := by
  rw [firstUnknown?, List.findSome?_eq_none_iff]
  constructor
  · intro h name ref href
    obtain ⟨spec, hspec⟩ := SortedMap.contains_iff.1 href.contains
    have hmem := SortedMap.get?_eq_some_iff.1 hspec
    exact (find_unknown_eq_none hmem).1 (h _ hmem) ref href
  · intro h e he
    exact (find_unknown_eq_none he).2 fun ref href => h _ ref href

/-- The unknown reference that is found is the first. -/
theorem firstUnknown_of_eq_some {roles : Roles} {name ref : String}
    (h : roles.firstUnknown? = some (name, ref)) : roles.FirstUnknown name ref := by
  obtain ⟨l₁, e, l₂, hsplit, he, hbefore⟩ := List.findSome?_eq_some_iff.1 h
  obtain ⟨ref', hfind, heq⟩ := Option.map_eq_some_iff.1 he
  cases heq
  obtain ⟨hunknown, before, after, hrefs, hknown⟩ := List.find?_eq_some_iff_append.1 hfind
  have hmem : e ∈ roles.toList := by rw [hsplit]; simp
  have hspec := specOf_of_get? (SortedMap.get?_eq_some_iff.2 hmem)
  refine ⟨⟨before, after, by rw [hspec, hrefs], fun r hr => by simpa using hknown r hr⟩,
    by simpa using hunknown, ?_⟩
  intro other hlt r hr
  obtain ⟨spec, hother⟩ := SortedMap.contains_iff.1 hr.contains
  have hmem' := SortedMap.get?_eq_some_iff.1 hother
  -- A smaller name stands before the entry, where the search has found nothing.
  have hfront : (other, spec) ∈ l₁ := by
    have hsorted := roles.keys_sorted_lt
    rw [SortedMap.keys, hsplit, List.map_append, List.map_cons, List.pairwise_append,
      List.pairwise_cons] at hsorted
    rw [hsplit, List.mem_append, List.mem_cons] at hmem'
    rcases hmem' with hfront | rfl | hback
    · exact hfront
    · exact absurd hlt (String.lt_irrefl _)
    · have hgt := hsorted.2.1.1 other (List.mem_map.2 ⟨_, hback, rfl⟩)
      exact absurd (String.lt_trans hlt hgt) (String.lt_irrefl _)
  exact (find_unknown_eq_none (SortedMap.get?_eq_some_iff.1 hother)).1 (hbefore _ hfront) r hr

/-! ## Cycles -/

/-- A role that reaches a cycle refers to one that does. -/
theorem ReachesCycle.exists_ref {roles : Roles} {name : String} (h : roles.ReachesCycle name) :
    ∃ ref, roles.Refers name ref ∧ roles.ReachesCycle ref := by
  obtain ⟨c, hreach, hcycle⟩ := h
  rcases hreach.cases_head with rfl | ⟨ref, href, hreach⟩
  · obtain ⟨ref, href, hback⟩ := TransGen.head'_iff.1 hcycle
    exact ⟨ref, href, name, hback, hcycle⟩
  · exact ⟨ref, href, c, hreach, hcycle⟩

/-- A role on a cycle exists. -/
theorem ReachesCycle.contains {roles : Roles} {name : String} (h : roles.ReachesCycle name) :
    roles.contains name = true := by
  obtain ⟨ref, href, -⟩ := h.exists_ref
  exact href.contains

/-- Among finitely many roles each of which refers to one of them, a walk comes back to a role that
it has passed. -/
theorem reachesCycle_of_forall_exists {roles : Roles} {names : List String}
    (h : ∀ a ∈ names, ∃ b ∈ names, roles.Refers a b) {name : String} (hname : name ∈ names) :
    roles.ReachesCycle name := by
  have hnext : ∀ a : {a // a ∈ names}, ∃ b : {b // b ∈ names}, roles.Refers a.1 b.1 := by
    rintro ⟨a, ha⟩
    obtain ⟨b, hb, hab⟩ := h a ha
    exact ⟨⟨b, hb⟩, hab⟩
  -- Following the references for ever must come back to a name, since there are finitely many.
  choose next hrefers using hnext
  have hwalk : ∀ (a : {a // a ∈ names}) (n : Nat), ReflTransGen roles.Refers a.1 (next^[n] a).1 := by
    intro a n
    induction n with
    | zero => exact .refl
    | succ n ih =>
      rw [Function.iterate_succ_apply']
      exact ih.tail (hrefers _)
  obtain ⟨i, j, hne, heq⟩ :=
    Finite.exists_ne_map_eq_of_infinite fun n : Nat => next^[n] ⟨name, hname⟩
  wlog hlt : i < j generalizing i j
  · exact this j i hne.symm heq.symm (by omega)
  refine ⟨_, hwalk ⟨name, hname⟩ i, ?_⟩
  have hcycle := hwalk (next (next^[i] ⟨name, hname⟩)) (j - i - 1)
  rw [← Function.iterate_succ_apply, ← Function.iterate_add_apply,
    show (j - i - 1).succ + i = j by omega, ← heq] at hcycle
  exact TransGen.head' (hrefers _) hcycle

end Roles

namespace Worklist

/-- Resolved roles reach no cycle. -/
theorem Resolves.not_reachesCycle {roles : Roles} {m : ResolvedRoles} (h : Resolves roles m)
    {name : String} (hname : m.contains name = true) : ¬ roles.ReachesCycle name := by
  induction h generalizing name with
  | start => simp at hname
  | takeUp _ _ _ hrefs ih =>
    rcases SortedMap.contains_insert.1 hname with rfl | hname
    · intro hcycle
      obtain ⟨ref, href, hcycle⟩ := hcycle.exists_ref
      exact ih (hrefs ref href) hcycle
    · exact ih hname

end Worklist

/-- Resolved are the roles that reach no cycle; the error lists the others. -/
theorem resolve_of_closed {roles : Roles} (hclosed : roles.Closed) :
    ∃ m, Worklist.Resolves roles m ∧
      (∀ name, m.contains name = true ↔ roles.contains name = true ∧ ¬ roles.ReachesCycle name) ∧
      resolve roles =
        if m.size < roles.size then .error (.cycle (roles.keys.filter fun name => !m.contains name))
        else .ok m := by
  obtain ⟨m, hres, hdone, heq⟩ := Worklist.exists_resolved roles
  refine ⟨m, hres, fun name => ⟨fun hname => ?_, fun ⟨hin, hacyclic⟩ => ?_⟩,
    heq (Roles.firstUnknown?_eq_none_iff.2 hclosed)⟩
  · exact ⟨hres.contains hname, hres.not_reachesCycle hname⟩
  · by_contra hname
    -- Each role left over waits for another one left over.
    have hwaits : ∀ a ∈ roles.keys.filter (fun name => !m.contains name),
        ∃ b ∈ roles.keys.filter (fun name => !m.contains name), roles.Refers a b := by
      intro a ha
      obtain ⟨hin, hleft⟩ := List.mem_filter.1 ha
      by_contra hnone
      have hall : ∀ ref, roles.Refers a ref → m.contains ref = true := by
        intro ref href
        by_contra hopen
        exact hnone ⟨ref, List.mem_filter.2
          ⟨SortedMap.mem_keys.2 (hclosed a ref href), by simpa using hopen⟩, href⟩
      simp [hdone a (SortedMap.mem_keys.1 hin) hall] at hleft
    exact hacyclic (Roles.reachesCycle_of_forall_exists hwaits
      (List.mem_filter.2 ⟨SortedMap.mem_keys.2 hin, by simpa using hname⟩))

/-- When fewer roles are resolved than there are, one is left over. -/
private theorem exists_unresolved_iff {roles : Roles} {m : ResolvedRoles}
    (hm : Worklist.Resolves roles m) :
    m.size < roles.size ↔ ∃ name, roles.contains name = true ∧ ¬ m.contains name = true := by
  have hsub : m.keys ⊆ roles.keys := fun name hname =>
    SortedMap.mem_keys.2 (hm.contains (SortedMap.mem_keys.1 hname))
  -- Resolved names are names, so fewer of them means that some name is missing.
  have hsubperm := List.subperm_of_subset m.nodup_keys hsub
  rw [← m.length_keys, ← roles.length_keys]
  constructor
  · intro hlt
    by_contra hnone
    have hback : roles.keys ⊆ m.keys := by
      intro name hname
      by_contra hleft
      exact hnone ⟨name, SortedMap.mem_keys.1 hname, fun h => hleft (SortedMap.mem_keys.2 h)⟩
    have hle := (List.subperm_of_subset roles.nodup_keys hback).length_le
    omega
  · rintro ⟨name, hin, hleft⟩
    by_contra hge
    have hperm := hsubperm.perm_of_length_le (Nat.le_of_not_lt hge)
    exact hleft (SortedMap.mem_keys.1 (hperm.mem_iff.2 (SortedMap.mem_keys.2 hin)))

/-- Resolution succeeds with the permissions of all roles. -/
theorem resolve_eq_ok {roles : Roles} {m : ResolvedRoles} (h : resolve roles = .ok m) :
    Worklist.Resolves roles m ∧ (∀ name, m.contains name = roles.contains name) ∧
      roles.Closed ∧ ¬ ∃ c, roles.OnCycle c := by
  have hclosed : roles.Closed := by
    rw [← Roles.firstUnknown?_eq_none_iff]
    by_contra hsome
    obtain ⟨⟨name, ref⟩, hfound⟩ := Option.ne_none_iff_exists'.1 hsome
    rw [resolve, hfound] at h
    cases h
  obtain ⟨m', hres, hm, heq⟩ := resolve_of_closed hclosed
  rw [heq] at h
  split at h
  · cases h
  · next hall =>
    cases h
    rw [exists_unresolved_iff hres] at hall
    -- All roles are resolved, so none can reach a cycle, which would hold it back.
    have hback : ∀ name, roles.contains name = true → m.contains name = true := by
      intro name hin
      by_contra hleft
      exact hall ⟨name, hin, hleft⟩
    refine ⟨hres, fun name => Bool.eq_iff_iff.2 ⟨hres.contains, hback name⟩, hclosed, ?_⟩
    rintro ⟨c, hcycle⟩
    have hreach : roles.ReachesCycle c := ⟨c, .refl, hcycle⟩
    exact ((hm c).1 (hback c hreach.contains)).2 hreach

/-- Without unknown references and cycles, resolution succeeds. -/
theorem exists_resolve_eq_ok {roles : Roles} (hclosed : roles.Closed)
    (hacyclic : ¬ ∃ c, roles.OnCycle c) : ∃ m, resolve roles = .ok m := by
  obtain ⟨m, hres, hm, heq⟩ := resolve_of_closed hclosed
  have hall : ¬ m.size < roles.size := by
    rw [exists_unresolved_iff hres]
    rintro ⟨name, hin, hleft⟩
    exact hleft ((hm name).2 ⟨hin, fun ⟨c, _, hc⟩ => hacyclic ⟨c, hc⟩⟩)
  exact ⟨m, by rw [heq, if_neg hall]⟩

/-- Resolution reports the first unknown reference if there is one, else the roles that reach a
cycle if there are any, each once and in order, and else it succeeds. -/
theorem resolve_outcome (roles : Roles) :
    (¬ roles.Closed → ∃ name ref, roles.FirstUnknown name ref ∧
      resolve roles = .error (.unknownReference name ref)) ∧
    (roles.Closed → (∃ c, roles.OnCycle c) → ∃ names : List String,
      names.Pairwise (· < ·) ∧ (∀ name, name ∈ names ↔ roles.ReachesCycle name) ∧
      resolve roles = .error (.cycle names)) ∧
    (roles.Closed → (¬ ∃ c, roles.OnCycle c) → ∃ m, resolve roles = .ok m) := by
  refine ⟨?_, ?_, ?_⟩
  · intro hopen
    rw [← Roles.firstUnknown?_eq_none_iff] at hopen
    obtain ⟨⟨name, ref⟩, hfound⟩ := Option.ne_none_iff_exists'.1 hopen
    exact ⟨name, ref, Roles.firstUnknown_of_eq_some hfound, by rw [resolve, hfound]⟩
  · rintro hclosed ⟨c, hcycle⟩
    obtain ⟨m, hres, hm, heq⟩ := resolve_of_closed hclosed
    have hleft : m.size < roles.size := by
      have hreach : roles.ReachesCycle c := ⟨c, .refl, hcycle⟩
      exact (exists_unresolved_iff hres).2
        ⟨c, hreach.contains, fun hc => ((hm c).1 hc).2 hreach⟩
    refine ⟨_, roles.keys_sorted_lt.filter _, fun name => ?_, by rw [heq, if_pos hleft]⟩
    rw [List.mem_filter, SortedMap.mem_keys, Bool.not_eq_true', ← Bool.not_eq_true, hm]
    constructor
    · rintro ⟨hin, hnot⟩
      by_contra hacyclic
      exact hnot ⟨hin, hacyclic⟩
    · intro hreach
      exact ⟨hreach.contains, fun hc => hc.2 hreach⟩
  · exact exists_resolve_eq_ok

end PolicySync
