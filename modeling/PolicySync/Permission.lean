import PolicySync.SortedMap

/-!
# Permissions

A permission allows an action on a scope. Permissions are ordered by action, then by scope, in
code-point order; `Permission.sortDistinct` lists a set of them once each in that order.
-/

namespace PolicySync

/-- An action that is allowed on a scope. -/
structure Permission where
  /-- What is allowed, as `kind:verb`. -/
  action : String
  /-- What it is allowed on. -/
  scope : String := ""
  deriving DecidableEq, Repr, Inhabited

namespace Permission

/-- Permissions are ordered by action, then by scope. -/
def order : Permission → Permission → Ordering :=
  compareLex (compareOn action) (compareOn scope)

instance : Ord Permission := ⟨order⟩

instance : Std.TransOrd Permission :=
  inferInstanceAs (Std.TransCmp (compareLex (compareOn action) (compareOn scope)))

instance : Std.LawfulEqOrd Permission where
  eq_of_compare {a b} h := by
    have h' : (compare a.action b.action).then (compare a.scope b.scope) = .eq := h
    rw [Ordering.then_eq_eq] at h'
    cases a; cases b
    simp_all
  compare_self {a} := Std.ReflCmp.compare_self

/-- A permission in words. -/
def display (p : Permission) : String := p.action ++ " on " ++ p.scope

/-- The permissions of a list, each once, in increasing order. -/
def sortDistinct (ps : List Permission) : List Permission :=
  (SortedMap.ofList (ps.map fun p => (p, ()))).keys

end Permission

end PolicySync
