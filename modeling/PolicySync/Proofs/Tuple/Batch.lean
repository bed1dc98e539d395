import PolicySync.Proofs.Tuple.Diff

/-!
# What a batch holds

A batch of a difference holds at least one change and at most as many as the limit says, a limit of zero
counting as one (`TupleDiff.size_of_mem_batches`). No two of its changes are about one key
(`TupleDiff.nodup_keys_of_mem_batches`).
-/

namespace PolicySync

/-- A run has an item at least, and no more than it may. -/
theorem length_of_mem_runsOf {n : Nat} {xs run : List α} (h : run ∈ runsOf n xs) :
    1 ≤ run.length ∧ run.length ≤ n + 1 := by
  fun_induction runsOf n xs with
  | case1 => cases h
  | case2 x rest ih =>
    rcases List.mem_cons.1 h with rfl | h
    · rw [List.length_cons, List.length_take]
      omega
    · exact ih h

/-- The keys that a batch is about: of what it writes, then what it deletes. -/
def Batch.keys (b : Batch) : List TupleKey := b.writes.map (·.key) ++ b.deletes

namespace TupleDiff

variable {d : TupleDiff} {limit : Nat} {b : Batch} {desired actual : TupleSet}

/-- A difference without size is empty. -/
theorem size_eq_zero_iff : d.size = 0 ↔ d.isEmpty = true := by
  rw [size, Nat.add_eq_zero_iff, isEmpty_iff, List.length_eq_zero_iff, List.length_eq_zero_iff]

/-- No batch is empty or too large. -/
theorem size_of_mem_batches (h : b ∈ d.batches limit) : 1 ≤ b.size ∧ b.size ≤ max limit 1 := by
  unfold batches at h
  dsimp only at h
  split at h
  · cases h
  next hempty =>
  have hsome : d.size ≠ 0 := fun hzero => hempty (size_eq_zero_iff.1 hzero)
  split at h
  · next hfits =>
    obtain rfl := List.mem_singleton.1 h
    exact ⟨Nat.one_le_iff_ne_zero.2 hsome, hfits⟩
  · have hlimit : max limit 1 - 1 + 1 = max limit 1 := Nat.sub_add_cancel (Nat.le_max_right _ _)
    rcases List.mem_append.1 h with h | h
    · obtain ⟨run, hrun, rfl⟩ := List.mem_map.1 h
      have hlength := length_of_mem_runsOf hrun
      rwa [hlimit] at hlength
    · obtain ⟨run, hrun, rfl⟩ := List.mem_map.1 h
      have hlength := length_of_mem_runsOf hrun
      rw [hlimit, ← Nat.zero_add run.length] at hlength
      exact hlength

/-- A batch writes tuples of the difference in their order. -/
theorem writes_sublist (h : b ∈ d.batches limit) : b.writes.Sublist d.additions := by
  rw [← flatMap_writes_batches d limit, List.flatMap]
  exact List.sublist_flatten_of_mem (List.mem_map_of_mem h)

/-- It deletes keys of the difference in theirs. -/
theorem deletes_sublist (h : b ∈ d.batches limit) : b.deletes.Sublist d.deletions := by
  rw [← flatMap_deletes_batches d limit, List.flatMap]
  exact List.sublist_flatten_of_mem (List.mem_map_of_mem h)

/-- No two added tuples have one key. -/
theorem nodup_keys_additions (h : desired.Keyed) :
    ((between desired actual).additions.map (·.key)).Nodup := by
  rw [between, (h.filter _).map_key_values]
  exact SortedMap.nodup_keys _

/-- So no batch names a key twice. -/
theorem nodup_keys_of_mem_batches (h : desired.Keyed)
    (hb : b ∈ (between desired actual).batches limit) : b.keys.Nodup := by
  rw [Batch.keys, List.nodup_append]
  refine ⟨?_, ?_, ?_⟩
  · exact (nodup_keys_additions h).sublist ((writes_sublist hb).map _)
  · exact (SortedMap.nodup_keys _).sublist (deletes_sublist hb)
  · rintro k hk k' hk' rfl
    obtain ⟨t, ht, rfl⟩ := List.mem_map.1 hk
    have hwritten := (of_mem_writes_between h hb ht).1
    exact (of_mem_deletes_between hb hk').2 (SortedMap.contains_of_get? hwritten)

end TupleDiff

end PolicySync
