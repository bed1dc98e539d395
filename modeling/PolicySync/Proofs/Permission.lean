import PolicySync.Permission
import PolicySync.Proofs.SortedMap

/-!
# Lists of permissions in order

`Permission.sortDistinct` lists the permissions of a list once each, strictly increasing by action
and then by scope. Such a list is known by its members (`eq_of_precedes`).
-/

namespace PolicySync.Permission

/-- The order of permissions: by action, and by scope among those with one action. -/
def Precedes (p q : Permission) : Prop :=
  p.action < q.action ∨ p.action = q.action ∧ p.scope < q.scope

/-- The order of permissions is by action and then by scope. -/
theorem compare_eq_lt_iff {p q : Permission} : compare p q = .lt ↔ p.Precedes q := by
  show (compare p.action q.action).then (compare p.scope q.scope) = .lt ↔ _
  rw [Ordering.then_eq_lt, SortedMap.compare_eq_lt_iff, SortedMap.compare_eq_lt_iff,
    Std.LawfulEqOrd.compare_eq_iff_eq]
  rfl

/-- To sort loses no permission. -/
theorem mem_sortDistinct {ps : List Permission} {p : Permission} : p ∈ sortDistinct ps ↔ p ∈ ps := by
  rw [sortDistinct, SortedMap.mem_keys, SortedMap.contains_ofList]
  simp

/-- The sorted ones are in strict order. -/
theorem sortDistinct_sorted (ps : List Permission) : (sortDistinct ps).Pairwise Precedes :=
  (SortedMap.keys_sorted _).imp compare_eq_lt_iff.1

/-- Sorted lists with the same members are equal. -/
theorem eq_of_precedes {ps qs : List Permission} (hps : ps.Pairwise Precedes)
    (hqs : qs.Pairwise Precedes) (h : ∀ p, p ∈ ps ↔ p ∈ qs) : ps = qs := by
  exact SortedMap.eq_of_sorted (hps.imp compare_eq_lt_iff.2) (hqs.imp compare_eq_lt_iff.2) h

end PolicySync.Permission
