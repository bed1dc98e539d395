import PolicySync.Json.Value
import PolicySync.SortedMap

/-!
# Relationship tuples

A tuple says that a user has a relation to an object, perhaps under a condition. The triple is the
tuple's key; keys are ordered by user, then relation, then object, in code-point order. A
`TupleSet` holds one tuple for each key.
-/

namespace PolicySync

/-- A user, its relation, and the object the relation is to. -/
structure TupleKey where
  user : String
  relation : String
  object : String
  deriving DecidableEq, Repr, Inhabited

namespace TupleKey

/-- Keys are ordered by user, then relation, then object. -/
def order : TupleKey → TupleKey → Ordering :=
  compareLex (compareOn user) (compareLex (compareOn relation) (compareOn object))

instance : Ord TupleKey := ⟨order⟩

instance : Std.TransOrd TupleKey :=
  inferInstanceAs (Std.TransCmp
    (compareLex (compareOn user) (compareLex (compareOn relation) (compareOn object))))

instance : Std.LawfulEqOrd TupleKey where
  eq_of_compare {a b} h := by
    have h' : (compare a.user b.user).then
        ((compare a.relation b.relation).then (compare a.object b.object)) = .eq := h
    rw [Ordering.then_eq_eq, Ordering.then_eq_eq] at h'
    cases a; cases b
    simp_all
  compare_self {a} := Std.ReflCmp.compare_self

/-- A key in one line: object, relation and user. -/
def display (k : TupleKey) : String := k.object ++ "#" ++ k.relation ++ "@" ++ k.user

end TupleKey

/-- A named condition, with the values it is evaluated with. -/
structure Condition where
  name : String
  context : Option Json.Settled := none
  deriving Inhabited

/-- A relationship tuple. -/
structure Tuple where
  key : TupleKey
  condition : Option Condition := none
  deriving Inhabited

namespace Tuple

/-- The unconditional tuple that relates a user to an object. -/
def relate (user relation object : String) : Tuple := { key := { user, relation, object } }

end Tuple

/-- Tuples by key. -/
abbrev TupleSet := SortedMap TupleKey Tuple

namespace TupleSet

/-- The set with a list of tuples put in, a later tuple taking the place of one with its key. -/
def insertTuples (s : TupleSet) (ts : List Tuple) : TupleSet :=
  s.insertMany (ts.map fun t => (t.key, t))

/-- The set of a list of tuples. -/
def ofTuples (ts : List Tuple) : TupleSet := insertTuples SortedMap.empty ts

end TupleSet

end PolicySync
