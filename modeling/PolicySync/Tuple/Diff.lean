import PolicySync.Tuple.Basic

/-!
# The difference between two sets of tuples

`TupleDiff.between desired actual` lists the tuples to add and the keys to delete so that the keys
of `actual` become those of `desired`. A tuple whose key is on both sides is left alone, so its
stored condition stays.
-/

namespace PolicySync

/-- Tuples to add and keys to delete. -/
structure TupleDiff where
  additions : List Tuple := []
  deletions : List TupleKey := []
  deriving Inhabited

namespace TupleDiff

/-- What turns the keys of `actual` into those of `desired`, each side in key order. -/
def between (desired actual : TupleSet) : TupleDiff where
  additions := (desired.filter fun k _ => !actual.contains k).values
  deletions := (actual.filter fun k _ => !desired.contains k).keys

/-- The number of changes. -/
def size (d : TupleDiff) : Nat := d.additions.length + d.deletions.length

/-- Whether there is nothing to change. -/
def isEmpty (d : TupleDiff) : Bool := d.additions.isEmpty && d.deletions.isEmpty

end TupleDiff

end PolicySync
