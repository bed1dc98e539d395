import Mathlib.Data.List.Nodup
import Mathlib.Data.List.Perm.Subperm
import PolicySync.Proofs.Permission
import PolicySync.Role.Inheritance

/-!
# What the worklist of roles keeps

For every role the worklist counts the references that are not resolved, repeated ones repeatedly,
and the ready roles are those whose count has come down to zero. `Balanced` says this, also between
the single releases that follow the resolution of one role: `due` lists the releases still to come.
`balanced_step` keeps it through a turn. A turn resolves one more role, from roles that are resolved
before it (`Resolves`), and `exists_resolved` says what is resolved when no role is ready any more.
-/

namespace PolicySync

namespace Roles

/-- What a role says; a role that does not exist says nothing. -/
def specOf (roles : Roles) (name : String) : RoleSpec := (roles.get? name).getD {}

/-- One role refers to another. -/
def Refers (roles : Roles) (name ref : String) : Prop := ref ∈ (roles.specOf name).refs

/-- Every reference is to a role that exists. -/
def Closed (roles : Roles) : Prop := ∀ name ref, roles.Refers name ref → roles.contains ref = true

/-- A role that is there says what it says. -/
theorem specOf_of_get? {roles : Roles} {name : String} {spec : RoleSpec}
    (h : roles.get? name = some spec) : roles.specOf name = spec := by
  rw [specOf, h, Option.getD_some]

/-- One that is not there says nothing. -/
theorem specOf_of_not_contains {roles : Roles} {name : String} (h : ¬ roles.contains name = true) :
    roles.specOf name = {} := by
  rw [specOf, SortedMap.get?_eq_none_iff.2 h, Option.getD_none]

/-- Only roles that exist refer to others. -/
theorem Refers.contains {roles : Roles} {name ref : String} (h : roles.Refers name ref) :
    roles.contains name = true := by
  by_contra hno
  rw [Refers, specOf_of_not_contains hno] at h
  exact List.not_mem_nil h

/-- The releases for one name among entries of roles with distinct names. -/
private theorem count_releases (es : List (String × RoleSpec)) (hes : (es.map (·.1)).Nodup)
    (name : String) {d : String} {spec : RoleSpec} (hd : (d, spec) ∈ es) :
    (es.flatMap fun e => (e.2.refs.filter (· == name)).map fun _ => e.1).count d
      = spec.refs.count name := by
  induction es with
  | nil => exact absurd hd List.not_mem_nil
  | cons e es ih =>
    rw [List.map_cons, List.nodup_cons] at hes
    rw [List.flatMap_cons, List.count_append]
    -- The name comes once among the entries, so only its own references count.
    rcases List.mem_cons.1 hd with rfl | hmem
    · have hrest : (es.flatMap fun e => (e.2.refs.filter (· == name)).map fun _ => e.1).count d = 0 := by
        rw [List.count_eq_zero]
        intro hmem
        obtain ⟨f, hf, hdf⟩ := List.mem_flatMap.1 hmem
        obtain ⟨_, -, rfl⟩ := List.mem_map.1 hdf
        exact hes.1 (List.mem_map.2 ⟨f, hf, rfl⟩)
      rw [hrest, List.map_const', List.count_replicate_self, Nat.add_zero, List.count_eq_length_filter]
    · have hne : e.1 ≠ d := by
        rintro rfl
        exact hes.1 (List.mem_map.2 ⟨_, hmem, rfl⟩)
      rw [ih hes.2 hmem, List.map_const', List.count_replicate, if_neg (by simpa using hne),
        Nat.zero_add]

/-- A role waits for a name once for each of its references to it. -/
theorem count_dependents {roles : Roles} {name d : String} (hd : roles.contains d = true) :
    (roles.dependents name).count d = (roles.specOf d).refs.count name := by
  obtain ⟨spec, hspec⟩ := SortedMap.contains_iff.1 hd
  rw [dependents, count_releases _ roles.nodup_keys name (SortedMap.get?_eq_some_iff.1 hspec),
    specOf_of_get? hspec]

/-- Only roles that exist wait. -/
theorem contains_of_mem_dependents {roles : Roles} {name d : String}
    (h : d ∈ roles.dependents name) : roles.contains d = true := by
  obtain ⟨e, he, hd⟩ := List.mem_flatMap.1 h
  obtain ⟨_, -, rfl⟩ := List.mem_map.1 hd
  exact SortedMap.contains_of_get? (SortedMap.get?_eq_some_iff.2 he)

end Roles

namespace Worklist

/-- The number of references of a role that are not resolved, repeated ones counted repeatedly. -/
def pending (roles : Roles) (resolved : ResolvedRoles) (name : String) : Nat :=
  (roles.specOf name).refs.countP fun ref => !resolved.contains ref

/-- A role waits for none when all that it refers to is resolved. -/
theorem pending_eq_zero_iff {roles : Roles} {resolved : ResolvedRoles} {name : String} :
    pending roles resolved name = 0 ↔ ∀ ref, roles.Refers name ref → resolved.contains ref = true := by
  rw [pending, List.countP_eq_zero]
  simp [Roles.Refers]

/-- Resolving one more role settles every reference to it. -/
theorem pending_insert {roles : Roles} {resolved : ResolvedRoles} {name : String}
    (ps : List Permission) (h : ¬ resolved.contains name = true) (d : String) :
    pending roles (resolved.insert name ps) d + (roles.specOf d).refs.count name
      = pending roles resolved d := by
  simp only [pending]
  generalize (roles.specOf d).refs = refs
  induction refs with
  | nil => rfl
  | cons ref refs ih =>
    rw [List.countP_cons, List.countP_cons, List.count_cons]
    -- Each reference to the new role is no longer waited for, and all others stay as they were.
    by_cases href : ref = name
    · subst href
      have hin : (resolved.insert ref ps).contains ref = true :=
        SortedMap.contains_insert.2 (.inl rfl)
      simp [hin, h]
      omega
    · have hsame : (resolved.insert name ps).contains ref = resolved.contains ref := by
        rw [Bool.eq_iff_iff, SortedMap.contains_insert]
        simp [href]
      simp [hsame, href]
      omega

/-- The counts are right, up to the releases that are due, and the ready roles and the resolved ones
are those that wait for nothing. -/
structure Balanced (roles : Roles) (due : List String) (w : Worklist) : Prop where
  waiting_eq : ∀ d, roles.contains d = true →
    w.waiting.get? d = some (pending roles w.resolved d + due.count d)
  ready_iff : ∀ d, d ∈ w.ready ∨ w.resolved.contains d = true ↔
    roles.contains d = true ∧ pending roles w.resolved d + due.count d = 0
  ready_nodup : w.ready.Nodup
  ready_fresh : ∀ d ∈ w.ready, ¬ w.resolved.contains d = true

/-- A release resolves nothing. -/
theorem release_resolved (w : Worklist) (d : String) : (w.release d).resolved = w.resolved := by
  rw [release]
  split <;> rfl

/-- Nor do several. -/
theorem foldl_release_resolved (due : List String) (w : Worklist) :
    (due.foldl release w).resolved = w.resolved := by
  induction due generalizing w with
  | nil => rfl
  | cons d due ih => rw [List.foldl_cons, ih, release_resolved]

/-- A release that is due keeps the balance. -/
theorem Balanced.release {roles : Roles} {d : String} {due : List String} {w : Worklist}
    (h : Balanced roles (d :: due) w) (hd : roles.contains d = true) :
    Balanced roles due (w.release d) := by
  have hwait := h.waiting_eq d hd
  rw [List.count_cons_self] at hwait
  -- `d` still waits, so it is neither ready nor resolved.
  have hnot : ¬ (d ∈ w.ready ∨ w.resolved.contains d = true) := by
    rw [h.ready_iff, List.count_cons_self]
    omega
  have hres := w.release_resolved d
  refine ⟨?_, ?_, ?_, ?_⟩
  · intro e he
    rw [hres]
    simp only [Worklist.release, hwait, SortedMap.get?_insert]
    split
    · next heq => subst heq; congr 1
    · next hne =>
      rw [h.waiting_eq e he, List.count_cons_of_ne (Ne.symm hne)]
  · intro e
    rw [hres]
    simp only [Worklist.release, hwait]
    by_cases hed : e = d
    · subst hed
      split
      · next hzero =>
        simp only [List.mem_append, List.mem_singleton, or_true, true_or, true_iff]
        exact ⟨hd, by omega⟩
      · next hpos =>
        rw [iff_false_left hnot]
        omega
    · have hrest := h.ready_iff e
      rw [List.count_cons_of_ne (Ne.symm hed)] at hrest
      split
      · rw [List.mem_append, List.mem_singleton, ← hrest]
        simp [hed]
      · exact hrest
  · simp only [Worklist.release, hwait]
    split
    · exact List.nodup_append.2 ⟨h.ready_nodup, List.nodup_singleton d, by
        intro a ha b hb hab
        rw [List.mem_singleton] at hb
        subst hb hab
        exact hnot (.inl ha)⟩
    · exact h.ready_nodup
  · intro e he
    rw [hres]
    simp only [Worklist.release, hwait] at he
    split at he
    · rcases List.mem_append.1 he with he | he
      · exact h.ready_fresh e he
      · rw [List.mem_singleton.1 he]
        exact fun hc => hnot (.inr hc)
    · exact h.ready_fresh e he

/-- Releases that are due keep the balance, whatever is due after them. -/
theorem Balanced.foldl_release {roles : Roles} {before due : List String} {w : Worklist}
    (h : Balanced roles (before ++ due) w) (hbefore : ∀ d ∈ before, roles.contains d = true) :
    Balanced roles due (before.foldl Worklist.release w) := by
  induction before generalizing w with
  | nil => exact h
  | cons d before ih =>
    exact ih (h.release (hbefore d List.mem_cons_self)) fun e he =>
      hbefore e (List.mem_cons_of_mem _ he)

/-- Before the first turn nothing is resolved and the roles without references are ready. -/
theorem balanced_start (roles : Roles) : Balanced roles [] (start roles) := by
  -- At the start nothing is resolved, so a role waits for each of its references.
  have hpending : ∀ d, pending roles SortedMap.empty d = (roles.specOf d).refs.length := by
    intro d
    simp [pending]
  have hready : ∀ d, d ∈ (start roles).ready ↔
      roles.contains d = true ∧ (roles.specOf d).refs = [] := by
    intro d
    rw [start, List.mem_map]
    constructor
    · rintro ⟨e, he, rfl⟩
      obtain ⟨hmem, hnil⟩ := List.mem_filter.1 he
      have hget := SortedMap.get?_eq_some_iff.2 hmem
      exact ⟨SortedMap.contains_of_get? hget,
        by rw [Roles.specOf_of_get? hget]; simpa using hnil⟩
    · rintro ⟨hc, hnil⟩
      obtain ⟨spec, hspec⟩ := SortedMap.contains_iff.1 hc
      rw [Roles.specOf_of_get? hspec] at hnil
      exact ⟨(d, spec), List.mem_filter.2 ⟨SortedMap.get?_eq_some_iff.1 hspec, by simp [hnil]⟩, rfl⟩
  refine ⟨?_, ?_, ?_, ?_⟩
  · intro d hd
    obtain ⟨spec, hspec⟩ := SortedMap.contains_iff.1 hd
    have hmem := SortedMap.get?_eq_some_iff.1 hspec
    rw [start, SortedMap.ofList, hpending, Roles.specOf_of_get? hspec]
    refine SortedMap.get?_insertMany_of_mem (List.mem_map.2 ⟨_, hmem, rfl⟩) ?_
    intro n hn
    obtain ⟨e, he, heq⟩ := List.mem_map.1 hn
    cases heq
    rw [SortedMap.eq_of_mem_toList he hmem]
    rfl
  · intro d
    rw [hready, show (start roles).resolved = SortedMap.empty from rfl, hpending]
    simp
  · exact (roles.nodup_keys).sublist (List.filter_sublist.map _)
  · intro d _
    simp [start]

/-- The first ready role is resolved, and those that wait for it are not released yet. -/
def resolving (roles : Roles) (w : Worklist) (name : String) (rest : List String) : Worklist :=
  { w with
    ready := rest
    resolved := w.resolved.insert name
      (composePermissions ((roles.specOf name).refs.filterMap w.resolved.get?).flatten
        (roles.specOf name).omitted (roles.specOf name).permissions) }

/-- A turn resolves the first ready role and then releases those that wait for it. -/
theorem step_of_ready {roles : Roles} {w : Worklist} {name : String} {rest : List String}
    (h : w.ready = name :: rest) :
    step roles w = (roles.dependents name).foldl release (resolving roles w name rest) := by
  simp only [step, h]
  rfl

/-- With a role resolved, those that wait for it are due for a release each. -/
theorem Balanced.resolving {roles : Roles} {w : Worklist} (h : Balanced roles [] w) {name : String}
    {rest : List String} (hready : w.ready = name :: rest) :
    Balanced roles (roles.dependents name) (Worklist.resolving roles w name rest) := by
  -- What is due now are the roles that wait for this one, once for each reference.
  have hfresh := h.ready_fresh name (hready ▸ List.mem_cons_self)
  have hnodup := h.ready_nodup
  rw [hready, List.nodup_cons] at hnodup
  unfold Worklist.resolving
  generalize composePermissions _ _ _ = ps
  refine ⟨?_, ?_, hnodup.2, ?_⟩
  · intro d hd
    rw [Roles.count_dependents hd, pending_insert ps hfresh, h.waiting_eq d hd]
    rfl
  · intro d
    have hiff := h.ready_iff d
    rw [hready, List.mem_cons, List.count_nil, Nat.add_zero] at hiff
    rw [SortedMap.contains_insert, or_left_comm, ← or_assoc]
    by_cases hd : roles.contains d = true
    · rw [Roles.count_dependents hd, pending_insert ps hfresh, hiff]
    · constructor
      · intro hc
        exact absurd (hiff.1 hc).1 hd
      · exact fun hc => absurd hc.1 hd
  · intro d hd hc
    rcases SortedMap.contains_insert.1 hc with rfl | hc
    · exact hnodup.1 hd
    · exact h.ready_fresh d (hready ▸ List.mem_cons_of_mem _ hd) hc

/-- The references of a ready role are resolved. -/
theorem Balanced.contains_ref {roles : Roles} {w : Worklist} (h : Balanced roles [] w) {name : String}
    (hready : name ∈ w.ready) {ref : String} (href : roles.Refers name ref) :
    w.resolved.contains ref = true := by
  have hzero := ((h.ready_iff name).1 (.inl hready)).2
  exact pending_eq_zero_iff.1 (by simpa using hzero) ref href

/-- What one turn does: nothing when no role is ready, and else it resolves a role whose references
are all resolved. -/
theorem step_cases {roles : Roles} {w : Worklist} (h : Balanced roles [] w) :
    (w.ready = [] ∧ step roles w = w) ∨
    ∃ name, roles.contains name = true ∧ ¬ w.resolved.contains name = true ∧
      (∀ ref, roles.Refers name ref → w.resolved.contains ref = true) ∧
      (step roles w).resolved = w.resolved.insert name
        (composePermissions ((roles.specOf name).refs.filterMap w.resolved.get?).flatten
          (roles.specOf name).omitted (roles.specOf name).permissions) ∧
      Balanced roles [] (step roles w) := by
  cases hready : w.ready with
  | nil => exact .inl ⟨rfl, by rw [step, hready]⟩
  | cons name rest =>
    right
    have hmem : name ∈ w.ready := hready ▸ List.mem_cons_self
    have hbal := h.resolving hready
    rw [← List.append_nil (roles.dependents name)] at hbal
    refine ⟨name, ((h.ready_iff name).1 (.inl hmem)).1, h.ready_fresh name hmem,
      fun _ => h.contains_ref hmem, ?_, ?_⟩
    · rw [step_of_ready hready, foldl_release_resolved]
      rfl
    · rw [step_of_ready hready]
      exact hbal.foldl_release fun d hd => Roles.contains_of_mem_dependents hd

/-- The permissions that come about by resolving one role after the other, each from roles that are
resolved before it. -/
inductive Resolves (roles : Roles) : ResolvedRoles → Prop where
  | start : Resolves roles SortedMap.empty
  | takeUp {m : ResolvedRoles} {name : String} (hm : Resolves roles m)
      (hin : roles.contains name = true) (hfresh : ¬ m.contains name = true)
      (hrefs : ∀ ref, roles.Refers name ref → m.contains ref = true) :
      Resolves roles (m.insert name
        (composePermissions ((roles.specOf name).refs.filterMap m.get?).flatten
          (roles.specOf name).omitted (roles.specOf name).permissions))

/-- Only roles that exist are resolved. -/
theorem Resolves.contains {roles : Roles} {m : ResolvedRoles} (h : Resolves roles m) {name : String}
    (hname : m.contains name = true) : roles.contains name = true := by
  induction h with
  | start => simp at hname
  | takeUp _ hin _ _ ih =>
    rcases SortedMap.contains_insert.1 hname with rfl | hname
    · exact hin
    · exact ih hname

/-- Turns do nothing when no role is ready. -/
theorem run_of_ready_nil {roles : Roles} (n : Nat) {w : Worklist} (h : w.ready = []) :
    run roles n w = w := by
  induction n with
  | zero => rfl
  | succ n ih => rw [run, step, h, ih]

/-- A run keeps the balance, and every turn resolves a role until none is ready. -/
theorem run_spec {roles : Roles} (n : Nat) {w : Worklist} (h : Balanced roles [] w)
    (hres : Resolves roles w.resolved) :
    Balanced roles [] (run roles n w) ∧ Resolves roles (run roles n w).resolved ∧
      ((run roles n w).ready = [] ∨ w.resolved.size + n ≤ (run roles n w).resolved.size) := by
  induction n generalizing w with
  | zero => exact ⟨h, hres, .inr (Nat.le_refl _)⟩
  | succ n ih =>
    rw [run]
    rcases step_cases h with ⟨hready, hstep⟩ | ⟨name, hin, hfresh, hrefs, hstep, hbal⟩
    · rw [hstep]
      rw [run_of_ready_nil n hready]
      exact ⟨h, hres, .inl hready⟩
    · obtain ⟨hb, hr, hsize⟩ := ih hbal (hstep ▸ hres.takeUp hin hfresh hrefs)
      refine ⟨hb, hr, hsize.imp_right fun hle => ?_⟩
      rw [hstep, SortedMap.size_insert_of_not_contains hfresh] at hle
      omega

/-- The resolved and the ready roles are different roles that exist, so they are not more. -/
theorem Balanced.size_le {roles : Roles} {w : Worklist} (h : Balanced roles [] w) :
    w.resolved.size + w.ready.length ≤ roles.size := by
  have hnodup : (w.resolved.keys ++ w.ready).Nodup := by
    refine List.nodup_append.2 ⟨w.resolved.nodup_keys, h.ready_nodup, ?_⟩
    rintro a ha b hb rfl
    exact h.ready_fresh a hb (SortedMap.mem_keys.1 ha)
  have hsub : w.resolved.keys ++ w.ready ⊆ roles.keys := by
    intro d hd
    rw [List.mem_append, SortedMap.mem_keys, or_comm] at hd
    exact SortedMap.mem_keys.2 ((h.ready_iff d).1 hd).1
  have hle := (List.subperm_of_subset hnodup hsub).length_le
  rwa [List.length_append, SortedMap.length_keys, SortedMap.length_keys] at hle

/-- No role is ready any more after as many turns as there are roles. -/
theorem ready_run_size (roles : Roles) : (run roles roles.size (start roles)).ready = [] := by
  obtain ⟨hb, -, hsize⟩ := run_spec roles.size (balanced_start roles) .start
  have hle := hb.size_le
  rcases hsize with hnil | hge
  · exact hnil
  · exact List.eq_nil_of_length_eq_zero (by omega)

/-- When the worklist is done, every role whose references are resolved is resolved too. -/
theorem exists_resolved (roles : Roles) :
    ∃ m, Resolves roles m ∧
      (∀ name, roles.contains name = true →
        (∀ ref, roles.Refers name ref → m.contains ref = true) → m.contains name = true) ∧
      (roles.firstUnknown? = none → resolve roles =
        if m.size < roles.size then .error (.cycle (roles.keys.filter fun name => !m.contains name))
        else .ok m) := by
  obtain ⟨hb, hr, -⟩ := run_spec roles.size (balanced_start roles) .start
  refine ⟨_, hr, ?_, fun hknown => by rw [resolve, hknown]⟩
  intro name hin hrefs
  have hiff := (hb.ready_iff name).2 ⟨hin, by rw [pending_eq_zero_iff.2 hrefs]; rfl⟩
  rw [ready_run_size] at hiff
  exact hiff.resolve_left List.not_mem_nil

end Worklist

end PolicySync
