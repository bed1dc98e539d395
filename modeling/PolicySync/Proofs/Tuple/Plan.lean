import PolicySync.Proofs.Tuple.Batch

/-!
# A difference and its plan

`TupleDiff.SetsApart` says which tuples and keys a difference of two sets consists of, and
`TupleDiff.PlannedAs` how its changes are shared out to batches: all of them in one when they fit, and
otherwise the additions in batches of their own before the deletions. The batches touch different keys,
so they may be applied in any order (`TupleDiff.between_planned`).
-/

namespace PolicySync.TupleDiff

variable {d : TupleDiff} {limit : Nat} {desired actual : TupleSet}

/-! ## What a difference consists of -/

/-- A difference holds what one set has under keys that the other one has not, and the keys that only the
other one has, both in key order. -/
structure SetsApart (desired actual : TupleSet) (d : TupleDiff) : Prop where
  additions_sorted : d.additions.Pairwise fun t u => compare t.key u.key = .lt
  deletions_sorted : d.deletions.Pairwise fun k l => compare k l = .lt
  disjoint : ∀ t ∈ d.additions, t.key ∉ d.deletions
  mem_additions : ∀ t, t ∈ d.additions ↔
    desired.get? t.key = some t ∧ ¬ actual.contains t.key = true
  mem_deletions : ∀ k, k ∈ d.deletions ↔ actual.contains k = true ∧ ¬ desired.contains k = true

/-- The additions are in the order of their keys. -/
theorem additions_sorted_between (h : desired.Keyed) (actual : TupleSet) :
    (between desired actual).additions.Pairwise fun t u => compare t.key u.key = .lt := by
  have hkeys : ((between desired actual).additions.map (·.key)).Pairwise
      fun k l => compare k l = .lt := by
    rw [between, (h.filter _).map_key_values]
    exact SortedMap.keys_sorted _
  exact List.pairwise_map.1 hkeys

/-- A difference sets the two sets apart. -/
theorem setsApart_between (h : desired.Keyed) (actual : TupleSet) :
    SetsApart desired actual (between desired actual) where
  additions_sorted := additions_sorted_between h actual
  deletions_sorted := SortedMap.keys_sorted _
  disjoint := by
    intro t ht hdelete
    obtain ⟨hdesired, -⟩ := (exists_mem_additions_between h).1 ⟨t, ht, rfl⟩
    exact (mem_deletions_between.1 hdelete).2 hdesired
  mem_additions := by
    intro t
    rw [mem_additions_between]
    constructor
    · rintro ⟨k, hget, hnot⟩
      obtain rfl : t.key = k := h k t hget
      exact ⟨hget, hnot⟩
    · exact fun ht => ⟨t.key, ht⟩
  mem_deletions _ := mem_deletions_between

/-! ## How its changes are shared out -/

/-- The batches of a plan hold at least one change and at most as many as the limit says. They are one
batch when all changes fit, and otherwise some that only write before some that only delete. Put
together they are the difference, each side in its order. -/
structure PlannedAs (d : TupleDiff) (limit : Nat) (plan : List Batch) : Prop where
  size : ∀ b ∈ plan, 1 ≤ b.size ∧ b.size ≤ max limit 1
  combined : d.size ≤ max limit 1 →
    plan = if d.isEmpty then [] else [{ writes := d.additions, deletes := d.deletions }]
  parted : max limit 1 < d.size → ∃ adds removals, plan = adds ++ removals ∧
    (∀ b ∈ adds, b.deletes = []) ∧ ∀ b ∈ removals, b.writes = []
  writes : plan.flatMap (·.writes) = d.additions
  deletes : plan.flatMap (·.deletes) = d.deletions

/-- Changes that fit go out together. -/
theorem batches_of_size_le (h : d.size ≤ max limit 1) : d.batches limit =
    if d.isEmpty then [] else [{ writes := d.additions, deletes := d.deletions }] := by
  unfold batches
  dsimp only
  rw [if_pos h]

/-- Changes that do not fit go out in runs of additions, then in runs of deletions. -/
theorem batches_of_lt_size (h : max limit 1 < d.size) : d.batches limit =
    (runsOf (max limit 1 - 1) d.additions).map (fun ts => { writes := ts }) ++
      (runsOf (max limit 1 - 1) d.deletions).map (fun ks => { deletes := ks }) := by
  have hsome : ¬ d.isEmpty = true := by
    rw [← size_eq_zero_iff]
    omega
  unfold batches
  dsimp only
  rw [if_neg hsome, if_neg (Nat.not_le.2 h)]

/-- Its batches are planned as they should be. -/
theorem plannedAs_batches (d : TupleDiff) (limit : Nat) : PlannedAs d limit (d.batches limit) where
  size _ := size_of_mem_batches
  combined := batches_of_size_le
  parted := by
    intro h
    refine ⟨_, _, batches_of_lt_size h, ?_, ?_⟩
    · rw [List.forall_mem_map]
      exact fun _ _ => rfl
    · rw [List.forall_mem_map]
      exact fun _ _ => rfl
  writes := flatMap_writes_batches d limit
  deletes := flatMap_deletes_batches d limit

/-! ## What the plan leads to -/

/-- The difference of two sets holds just what sets them apart, its plan shares these changes out to
batches within the limit, and the batches lead in any order to the desired keys. What was there under
such a key stays, conditions included. -/
theorem between_planned (h : desired.Keyed) (actual : TupleSet) (limit : Nat) :
    SetsApart desired actual (between desired actual) ∧
    PlannedAs (between desired actual) limit ((between desired actual).batches limit) ∧
    ∀ order : List Batch, order.Perm ((between desired actual).batches limit) →
      (Batch.applyAll actual order).keys = desired.keys ∧
      ∀ k, desired.contains k = true →
        (Batch.applyAll actual order).get? k = (actual.get? k).or (desired.get? k) := by
  refine ⟨setsApart_between h actual, plannedAs_batches _ limit, fun order horder => ⟨?_, ?_⟩⟩
  · apply SortedMap.keys_eq_of_contains
    intro k
    rw [SortedMap.contains_eq_isSome, get?_applyAll_of_perm h horder]
    split
    · next hk =>
      obtain ⟨t, ht⟩ := SortedMap.contains_iff.1 hk
      simp [hk, ht]
    · next hk => simp [hk]
  · intro k hk
    rw [get?_applyAll_of_perm h horder, if_pos hk]

/-- Who should be on duty. -/
def wantedRota : List Tuple := [
  .relate "user:ann" "member" "team:duty",
  .relate "user:bob" "member" "team:duty",
  .relate "user:cat" "member" "team:duty"]

/-- Who is on duty, one of them at night only. -/
def currentRota : List Tuple := [
  { key := ⟨"user:bob", "member", "team:duty"⟩, condition := some { name := "at_night" } },
  .relate "user:dan" "member" "team:duty",
  .relate "user:eve" "member" "team:duty"]

/-- With two changes to a batch, two people join and two leave. When those who leave go first, the
one who stays is still there at night only. -/
theorem between_planned_rota :
    let plan := (between (.ofTuples wantedRota) (.ofTuples currentRota)).batches 2
    plan = [
      { writes := [.relate "user:ann" "member" "team:duty", .relate "user:cat" "member" "team:duty"] },
      { deletes := [⟨"user:dan", "member", "team:duty"⟩, ⟨"user:eve", "member", "team:duty"⟩] }] ∧
    (Batch.applyAll (.ofTuples currentRota) plan.reverse).keys = wantedRota.map (·.key) ∧
    (Batch.applyAll (.ofTuples currentRota) plan.reverse).get? ⟨"user:bob", "member", "team:duty"⟩ =
      some { key := ⟨"user:bob", "member", "team:duty"⟩, condition := some { name := "at_night" } } := by
  intro plan
  obtain ⟨-, -, happly⟩ :=
    between_planned (TupleSet.keyed_ofTuples wantedRota) (.ofTuples currentRota) 2
  obtain ⟨hkeys, hget⟩ := happly plan.reverse plan.reverse_perm
  refine ⟨?_, hkeys, hget _ rfl⟩
  have hdiff : between (.ofTuples wantedRota) (.ofTuples currentRota) = {
      additions := [.relate "user:ann" "member" "team:duty", .relate "user:cat" "member" "team:duty"]
      deletions := [⟨"user:dan", "member", "team:duty"⟩, ⟨"user:eve", "member", "team:duty"⟩] } := by
    rfl
  simp [plan, hdiff, batches, isEmpty, size, runsOf]

end PolicySync.TupleDiff
