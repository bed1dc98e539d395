import PolicySync.Proofs.Tuple.Diff

/-!
# What is left of a difference

Some batches of a difference may fail, and others may take effect late. Whichever have taken effect, and
in whatever order, what is left to change is the difference without what they changed
(`TupleDiff.between_applyAll`), so the next pass picks up just where they left off.
-/

namespace PolicySync

/-- After batches that delete nothing of what they write, a key is there when it was written, or was
there and not deleted. -/
theorem Batch.contains_applyAll {s : TupleSet} {bs : List Batch}
    (h : ∀ b ∈ bs, ∀ t ∈ b.writes, ∀ b' ∈ bs, t.key ∉ b'.deletes) (k : TupleKey) :
    (applyAll s bs).contains k = true ↔
      (s.contains k = true ∧ ∀ b ∈ bs, k ∉ b.deletes) ∨ ∃ b ∈ bs, ∃ t ∈ b.writes, t.key = k := by
  induction bs generalizing s with
  | nil => simp [applyAll]
  | cons b bs ih =>
    have hrest := @ih (b.applyTo s) fun c hc t ht b' hb' =>
      h c (List.mem_cons_of_mem b hc) t ht b' (List.mem_cons_of_mem b hb')
    -- What this batch writes is not deleted by those after it.
    have hkept : (∃ t ∈ b.writes, t.key = k) → ∀ b' ∈ bs, k ∉ b'.deletes := by
      rintro ⟨t, ht, rfl⟩ b' hb'
      exact h b List.mem_cons_self t ht b' (List.mem_cons_of_mem b hb')
    rw [applyAll, List.foldl_cons, ← applyAll, hrest, contains_applyTo, List.forall_mem_cons,
      List.exists_mem_cons_iff, or_and_right, and_iff_left_of_imp hkept, and_assoc, or_assoc]

namespace TupleDiff

/-- A difference without what some batches change. -/
def without (d : TupleDiff) (bs : List Batch) : TupleDiff where
  additions := d.additions.filter fun t => ∀ b ∈ bs, ∀ t' ∈ b.writes, t'.key ≠ t.key
  deletions := d.deletions.filter fun k => ∀ b ∈ bs, k ∉ b.deletes

variable {desired actual : TupleSet} {limit : Nat} {took : List Batch}

/-- Batches of a difference delete nothing of what they write. -/
private theorem not_mem_deletes_of_mem_writes (h : desired.Keyed)
    (htook : took ⊆ (between desired actual).batches limit) :
    ∀ b ∈ took, ∀ t ∈ b.writes, ∀ b' ∈ took, t.key ∉ b'.deletes := by
  intro b hb t ht b' hb' hdelete
  have hwritten := (of_mem_writes_between h (htook hb) ht).1
  exact (of_mem_deletes_between (htook hb') hdelete).2 (SortedMap.contains_of_get? hwritten)

/-- A desired key is there when it was there or was written. -/
private theorem contains_of_desired (h : desired.Keyed)
    (htook : took ⊆ (between desired actual).batches limit) {k : TupleKey}
    (hk : desired.contains k = true) : (Batch.applyAll actual took).contains k = true ↔
      actual.contains k = true ∨ ∃ b ∈ took, ∃ t ∈ b.writes, t.key = k := by
  have hkept : ∀ b ∈ took, k ∉ b.deletes := fun b hb hdelete =>
    (of_mem_deletes_between (htook hb) hdelete).2 hk
  rw [Batch.contains_applyAll (not_mem_deletes_of_mem_writes h htook), and_iff_left hkept]

/-- Any other key is there when it was there and was not deleted. -/
private theorem contains_of_not_desired (h : desired.Keyed)
    (htook : took ⊆ (between desired actual).batches limit) {k : TupleKey}
    (hk : ¬ desired.contains k = true) : (Batch.applyAll actual took).contains k = true ↔
      actual.contains k = true ∧ ∀ b ∈ took, k ∉ b.deletes := by
  have hnone : ¬ ∃ b ∈ took, ∃ t ∈ b.writes, t.key = k := by
    rintro ⟨b, hb, t, ht, rfl⟩
    exact hk (SortedMap.contains_of_get? (of_mem_writes_between h (htook hb) ht).1)
  rw [Batch.contains_applyAll (not_mem_deletes_of_mem_writes h htook), or_iff_left hnone]

/-- What is left to change after some batches of a difference is the difference without what they
change. -/
theorem between_applyAll (h : desired.Keyed)
    (htook : took ⊆ (between desired actual).batches limit) :
    between desired (Batch.applyAll actual took) = (between desired actual).without took := by
  rw [between, without, TupleDiff.mk.injEq]
  constructor
  · rw [between, SortedMap.values, SortedMap.values, List.filter_map]
    refine congrArg _ ?_
    rw [SortedMap.filter, SortedMap.filter, List.filter_filter]
    refine List.filter_congr fun e he => ?_
    -- A tuple of the desired set stands under its key.
    have hget := SortedMap.get?_eq_some_iff.2 he
    have hkey : e.2.key = e.1 := h e.1 e.2 hget
    have hcontains := contains_of_desired h htook (SortedMap.contains_of_get? hget)
    rw [Bool.eq_iff_iff, Bool.and_eq_true, Bool.not_eq_true', Bool.eq_false_iff, ne_eq, hcontains,
      not_or, and_comm]
    simp [hkey]
  · refine SortedMap.eq_of_sorted (SortedMap.keys_sorted _) ((SortedMap.keys_sorted _).filter _)
      fun k => ?_
    show k ∈ (between desired (Batch.applyAll actual took)).deletions ↔
      k ∈ (between desired actual).deletions.filter _
    rw [List.mem_filter, mem_deletions_between, mem_deletions_between]
    by_cases hk : desired.contains k = true
    · simp [hk]
    · rw [contains_of_not_desired h htook hk]
      simp [hk]

end TupleDiff

end PolicySync
