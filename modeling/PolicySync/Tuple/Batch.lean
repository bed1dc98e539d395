import PolicySync.Tuple.Diff

/-!
# Batches of writes

A store takes changes in batches of limited size. `TupleDiff.batches` plans them: a difference that
fits goes out as one batch, a larger one as batches of additions followed by batches of deletions.
`Batch.applyTo` is what one batch does to a set.
-/

namespace PolicySync

/-- Changes that a store makes in one request. -/
structure Batch where
  writes : List Tuple := []
  deletes : List TupleKey := []
  deriving Inhabited

namespace Batch

/-- The number of changes in a batch. -/
def size (b : Batch) : Nat := b.writes.length + b.deletes.length

/-- A set after a batch: first the deletes, then the writes. -/
def applyTo (s : TupleSet) (b : Batch) : TupleSet :=
  TupleSet.insertTuples (b.deletes.foldl SortedMap.erase s) b.writes

end Batch

/-- A list in runs of at most `n + 1` items. -/
def runsOf (n : Nat) (xs : List α) : List (List α) :=
  match xs with
  | [] => []
  | x :: rest => (x :: rest.take n) :: runsOf n (rest.drop n)
termination_by xs.length
decreasing_by exact Nat.lt_succ_of_le (List.length_drop ▸ Nat.sub_le _ _)

namespace TupleDiff

/-- The batches of a difference, each of at most `limit` changes; a limit of zero counts as one. -/
def batches (d : TupleDiff) (limit : Nat) : List Batch :=
  let limit := max limit 1
  if d.isEmpty then []
  else if d.size ≤ limit then [{ writes := d.additions, deletes := d.deletions }]
  else
    (runsOf (limit - 1) d.additions).map (fun ts => { writes := ts })
      ++ (runsOf (limit - 1) d.deletions).map (fun ks => { deletes := ks })

end TupleDiff

end PolicySync
