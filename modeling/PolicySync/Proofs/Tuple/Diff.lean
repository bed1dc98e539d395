import PolicySync.Proofs.Tuple.Set
import PolicySync.Tuple.Batch

/-!
# What a difference changes

`TupleDiff.between desired actual` adds the desired tuples that are not there and deletes the keys
that are not desired. Its batches hold the same changes, each once, whatever their size limit
(`mem_writes_batches`, `mem_deletes_batches`), so applying all of them to `actual`, in whatever order,
leaves the desired keys, with the tuples that were there before (`get?_applyAll_of_perm`).
-/

namespace PolicySync

/-! ## One batch -/

namespace Batch

variable {s : TupleSet} {b : Batch} {k : TupleKey}

/-- Erased keys have no tuple, and the others keep theirs. -/
theorem get?_foldl_erase (s : TupleSet) (ks : List TupleKey) (k : TupleKey) :
    (ks.foldl SortedMap.erase s).get? k = if k ∈ ks then none else s.get? k := by
  induction ks generalizing s with
  | nil => rfl
  | cons k' ks ih =>
    rw [List.foldl_cons, ih, SortedMap.get?_erase]
    by_cases hk : k = k'
    · simp [hk]
    · simp [hk]

/-- Erasing takes the listed keys out and no others. -/
theorem contains_foldl_erase {ks : List TupleKey} :
    SortedMap.contains (ks.foldl SortedMap.erase s) k = true ↔ s.contains k = true ∧ k ∉ ks := by
  rw [SortedMap.contains_eq_isSome, get?_foldl_erase, SortedMap.contains_eq_isSome]
  by_cases hk : k ∈ ks
  · simp [hk]
  · simp [hk]

/-- After a batch a key is there when it was written, or was there and not deleted. -/
theorem contains_applyTo : (b.applyTo s).contains k = true ↔
    (s.contains k = true ∧ k ∉ b.deletes) ∨ ∃ t ∈ b.writes, t.key = k := by
  rw [applyTo, TupleSet.contains_insertTuples, contains_foldl_erase]

/-- After a batch a key has the last tuple written for it; without one it is gone if it was deleted,
and has what it had before otherwise. -/
theorem get?_applyTo (s : TupleSet) (b : Batch) (k : TupleKey) : (b.applyTo s).get? k =
    ((b.writes.filter fun t => t.key = k).getLast?).or
      (if k ∈ b.deletes then none else s.get? k) := by
  rw [applyTo, TupleSet.get?_insertTuples, get?_foldl_erase]

/-- A batch leaves keys that it does not mention. -/
theorem get?_applyTo_of_not_mem (hw : ∀ t ∈ b.writes, t.key ≠ k) (hd : k ∉ b.deletes) :
    (b.applyTo s).get? k = s.get? k := by
  rw [applyTo, TupleSet.get?_insertTuples_of_not_mem hw, get?_foldl_erase, if_neg hd]

/-- A key that a batch only deletes is gone. -/
theorem get?_applyTo_of_mem_deletes (hw : ∀ t ∈ b.writes, t.key ≠ k) (hd : k ∈ b.deletes) :
    (b.applyTo s).get? k = none := by
  rw [applyTo, TupleSet.get?_insertTuples_of_not_mem hw, get?_foldl_erase, if_pos hd]

/-- A tuple that a batch writes is there, if the batch has no other of its key. -/
theorem get?_applyTo_of_mem_writes {t : Tuple} (h : t ∈ b.writes)
    (hone : ∀ t' ∈ b.writes, t'.key = t.key → t' = t) : (b.applyTo s).get? t.key = some t :=
  TupleSet.get?_insertTuples_of_mem h hone

/-- A batch files its tuples under their keys. -/
theorem keyed_applyTo (h : s.Keyed) (b : Batch) : (b.applyTo s).Keyed :=
  (h.foldl_erase b.deletes).insertTuples b.writes

/-! ## Several batches -/

/-- A set after batches, one after the other. -/
def applyAll (s : TupleSet) (bs : List Batch) : TupleSet := bs.foldl applyTo s

/-- What every batch keeps is kept by all of them. -/
theorem applyAll_of_keeps {P : TupleSet → Prop} {bs : List Batch}
    (hkeep : ∀ b ∈ bs, ∀ s, P s → P (b.applyTo s)) (h : P s) : P (applyAll s bs) := by
  induction bs generalizing s with
  | nil => exact h
  | cons b bs ih =>
    apply ih
    · exact fun b' hb' => hkeep b' (List.mem_cons_of_mem _ hb')
    · exact hkeep b List.mem_cons_self s h

/-- What one batch brings about and every batch keeps holds after all of them. -/
theorem applyAll_of_mem {P : TupleSet → Prop} {bs : List Batch} (hb : b ∈ bs)
    (hbring : ∀ s, P (b.applyTo s)) (hkeep : ∀ b ∈ bs, ∀ s, P s → P (b.applyTo s)) :
    P (applyAll s bs) := by
  obtain ⟨before, after, rfl⟩ := List.append_of_mem hb
  rw [applyAll, List.foldl_append, List.foldl_cons]
  -- Only the batches after this one have to keep it.
  apply applyAll_of_keeps
  · intro b' hb'
    exact hkeep b' (List.mem_append_right _ (List.mem_cons_of_mem _ hb'))
  · exact hbring _

end Batch

/-! ## The batches of a difference -/

/-- The runs of a list put together are the list. -/
theorem flatten_runsOf (n : Nat) (xs : List α) : (runsOf n xs).flatten = xs := by
  fun_induction runsOf n xs with
  | case1 => rfl
  | case2 x rest ih =>
    rw [List.flatten_cons, ih, List.cons_append, List.take_append_drop]

namespace TupleDiff

variable {d : TupleDiff} {limit : Nat} {desired actual : TupleSet}

/-- A difference is empty when it adds and deletes nothing. -/
theorem isEmpty_iff : d.isEmpty = true ↔ d.additions = [] ∧ d.deletions = [] := by
  rw [isEmpty, Bool.and_eq_true, List.isEmpty_iff, List.isEmpty_iff]

/-- The batches write the additions, in order. -/
theorem flatMap_writes_batches (d : TupleDiff) (limit : Nat) :
    (d.batches limit).flatMap (·.writes) = d.additions := by
  unfold batches
  dsimp only
  split
  · next h => exact (isEmpty_iff.1 h).1.symm
  · split
    · exact List.append_nil _
    · rw [List.flatMap_append, List.flatMap_map, List.flatMap_map, List.flatMap_id',
        flatten_runsOf]
      simp

/-- The batches delete the deletions, in order. -/
theorem flatMap_deletes_batches (d : TupleDiff) (limit : Nat) :
    (d.batches limit).flatMap (·.deletes) = d.deletions := by
  unfold batches
  dsimp only
  split
  · next h => exact (isEmpty_iff.1 h).2.symm
  · split
    · exact List.append_nil _
    · rw [List.flatMap_append, List.flatMap_map, List.flatMap_map, List.flatMap_id',
        flatten_runsOf]
      simp

/-- The batches write just what the difference adds. -/
theorem mem_writes_batches {t : Tuple} :
    (∃ b ∈ d.batches limit, t ∈ b.writes) ↔ t ∈ d.additions := by
  rw [← flatMap_writes_batches d limit, List.mem_flatMap]

/-- They delete just what it deletes. -/
theorem mem_deletes_batches {k : TupleKey} :
    (∃ b ∈ d.batches limit, k ∈ b.deletes) ↔ k ∈ d.deletions := by
  rw [← flatMap_deletes_batches d limit, List.mem_flatMap]

/-- What is added is desired and has no key among the stored tuples. -/
theorem mem_additions_between {t : Tuple} : t ∈ (between desired actual).additions ↔
    ∃ k, desired.get? k = some t ∧ ¬ actual.contains k = true := by
  rw [between, SortedMap.mem_values]
  simp only [SortedMap.get?_filter_eq_some_iff, Bool.not_eq_true', Bool.not_eq_true]

/-- What is deleted is stored and not desired. -/
theorem mem_deletions_between {k : TupleKey} : k ∈ (between desired actual).deletions ↔
    actual.contains k = true ∧ ¬ desired.contains k = true := by
  rw [between, SortedMap.mem_keys, SortedMap.contains_iff, SortedMap.contains_iff]
  simp only [SortedMap.get?_filter_eq_some_iff, Bool.not_eq_true', exists_and_right,
    Bool.not_eq_true]

/-- A key is written when it is desired and not there. -/
theorem exists_mem_additions_between (h : desired.Keyed) {k : TupleKey} :
    (∃ t ∈ (between desired actual).additions, t.key = k) ↔
      desired.contains k = true ∧ ¬ actual.contains k = true := by
  simp only [mem_additions_between]
  constructor
  · rintro ⟨t, ⟨k', hget, hnot⟩, rfl⟩
    rw [h k' t hget]
    exact ⟨SortedMap.contains_of_get? hget, hnot⟩
  · rintro ⟨hc, hnot⟩
    obtain ⟨t, hget⟩ := SortedMap.contains_iff.1 hc
    exact ⟨t, ⟨k, hget, hnot⟩, h k t hget⟩

/-- There is nothing to change when both sides have the same keys. -/
theorem isEmpty_between_iff (h : desired.Keyed) : (between desired actual).isEmpty = true ↔
    ∀ k, desired.contains k = true ↔ actual.contains k = true := by
  rw [isEmpty_iff, List.eq_nil_iff_forall_not_mem, List.eq_nil_iff_forall_not_mem]
  constructor
  · rintro ⟨hadd, hdel⟩ k
    constructor
    · intro hdesired
      by_contra hactual
      obtain ⟨t, ht, -⟩ := (exists_mem_additions_between h).2 ⟨hdesired, hactual⟩
      exact hadd t ht
    · intro hactual
      by_contra hdesired
      exact hdel k (mem_deletions_between.2 ⟨hactual, hdesired⟩)
  · intro hsame
    constructor
    · intro t ht
      obtain ⟨hdesired, hactual⟩ := (exists_mem_additions_between h).1 ⟨t, ht, rfl⟩
      exact hactual ((hsame t.key).1 hdesired)
    · intro k hk
      obtain ⟨hactual, hdesired⟩ := mem_deletions_between.1 hk
      exact hdesired ((hsame k).2 hactual)

/-- Where nothing differs there is no batch. -/
theorem batches_of_isEmpty (h : d.isEmpty = true) (limit : Nat) : d.batches limit = [] := by
  unfold batches
  exact if_pos h

/-- As many tuples are added as desired keys are missing. -/
theorem length_additions_between : (between desired actual).additions.length =
    (desired.keys.filter fun k => !actual.contains k).length := by
  rw [between, SortedMap.length_values, SortedMap.keys, List.filter_map, List.length_map]
  rfl

/-- As many are deleted as stored keys are not desired. -/
theorem length_deletions_between : (between desired actual).deletions.length =
    (actual.keys.filter fun k => !desired.contains k).length := by
  rw [between, SortedMap.length_keys, SortedMap.keys, List.filter_map, List.length_map]
  rfl

/-- What a batch writes is desired and not there. -/
theorem of_mem_writes_between (h : desired.Keyed) {b : Batch}
    (hb : b ∈ (between desired actual).batches limit) {t : Tuple} (ht : t ∈ b.writes) :
    desired.get? t.key = some t ∧ ¬ actual.contains t.key = true := by
  obtain ⟨k, hget, hnot⟩ := mem_additions_between.1 (mem_writes_batches.1 ⟨b, hb, ht⟩)
  obtain rfl : t.key = k := h k t hget
  exact ⟨hget, hnot⟩

/-- What a batch deletes is there and not desired. -/
theorem of_mem_deletes_between {b : Batch} (hb : b ∈ (between desired actual).batches limit)
    {k : TupleKey} (hk : k ∈ b.deletes) :
    actual.contains k = true ∧ ¬ desired.contains k = true :=
  mem_deletions_between.1 (mem_deletes_batches.1 ⟨b, hb, hk⟩)

section AnyOrder

variable {bs : List Batch}

/-- A desired tuple that was there is left as it was. -/
private theorem get?_applyAll_of_kept (h : desired.Keyed)
    (hbs : bs.Perm ((between desired actual).batches limit)) {k : TupleKey}
    (hdesired : desired.contains k = true) {t : Tuple} (ht : actual.get? k = some t) :
    (Batch.applyAll actual bs).get? k = some t := by
  apply Batch.applyAll_of_keeps (P := fun s : TupleSet => s.get? k = some t) _ ht
  intro b hb s hs
  have hb := hbs.mem_iff.1 hb
  have hwrites : ∀ t' ∈ b.writes, t'.key ≠ k := by
    rintro t' ht' rfl
    exact (of_mem_writes_between h hb ht').2 (SortedMap.contains_of_get? ht)
  have hdeletes : k ∉ b.deletes := fun hk => (of_mem_deletes_between hb hk).2 hdesired
  rw [Batch.get?_applyTo_of_not_mem hwrites hdeletes, hs]

/-- A desired tuple that was not there is written by some batch, and left by those after it. -/
private theorem get?_applyAll_of_added (h : desired.Keyed)
    (hbs : bs.Perm ((between desired actual).batches limit)) {t : Tuple}
    (ht : desired.get? t.key = some t) (hactual : ¬ actual.contains t.key = true) :
    (Batch.applyAll actual bs).get? t.key = some t := by
  have hone : ∀ b ∈ bs, ∀ t' ∈ b.writes, t'.key = t.key → t' = t := by
    intro b hb t' ht' hkey
    have hget := (of_mem_writes_between h (hbs.mem_iff.1 hb) ht').1
    rw [hkey, ht] at hget
    exact (Option.some.inj hget).symm
  obtain ⟨b, hb, htb⟩ := mem_writes_batches.2 (mem_additions_between.2 ⟨t.key, ht, hactual⟩)
  have hb := hbs.mem_iff.2 hb
  apply Batch.applyAll_of_mem (P := fun s : TupleSet => s.get? t.key = some t) hb
  · exact fun s => Batch.get?_applyTo_of_mem_writes htb (hone b hb)
  · -- Another batch writes the same tuple, or does not touch its key.
    intro b' hb' s hs
    by_cases hin : ∃ t' ∈ b'.writes, t'.key = t.key
    · obtain ⟨t', ht', hkey⟩ := hin
      obtain rfl : t' = t := hone b' hb' t' ht' hkey
      exact Batch.get?_applyTo_of_mem_writes ht' (hone b' hb')
    · have hwrites : ∀ t' ∈ b'.writes, t'.key ≠ t.key := fun t' ht' hkey => hin ⟨t', ht', hkey⟩
      have hdeletes : t.key ∉ b'.deletes := fun hk =>
        (of_mem_deletes_between (hbs.mem_iff.1 hb') hk).2 (SortedMap.contains_of_get? ht)
      rw [Batch.get?_applyTo_of_not_mem hwrites hdeletes, hs]

/-- A tuple that is not desired is gone. -/
private theorem get?_applyAll_of_undesired (h : desired.Keyed)
    (hbs : bs.Perm ((between desired actual).batches limit)) {k : TupleKey}
    (hdesired : ¬ desired.contains k = true) : (Batch.applyAll actual bs).get? k = none := by
  have hwrites : ∀ b ∈ bs, ∀ t ∈ b.writes, t.key ≠ k := by
    rintro b hb t ht rfl
    exact hdesired (SortedMap.contains_of_get? (of_mem_writes_between h (hbs.mem_iff.1 hb) ht).1)
  have hkeep : ∀ b ∈ bs, ∀ s : TupleSet, s.get? k = none → (b.applyTo s).get? k = none := by
    intro b hb s hs
    by_cases hk : k ∈ b.deletes
    · exact Batch.get?_applyTo_of_mem_deletes (hwrites b hb) hk
    · rw [Batch.get?_applyTo_of_not_mem (hwrites b hb) hk, hs]
  by_cases hactual : actual.contains k = true
  · obtain ⟨b, hb, hk⟩ := mem_deletes_batches.2 (mem_deletions_between.2 ⟨hactual, hdesired⟩)
    have hb := hbs.mem_iff.2 hb
    apply Batch.applyAll_of_mem (P := fun s : TupleSet => s.get? k = none) hb _ hkeep
    exact fun s => Batch.get?_applyTo_of_mem_deletes (hwrites b hb) hk
  · exact Batch.applyAll_of_keeps (P := fun s : TupleSet => s.get? k = none) hkeep
      (SortedMap.get?_eq_none_iff.2 hactual)

/-- All batches of a difference, in any order, leave the desired keys: those that were there keep
their tuples, the others get the desired ones. -/
theorem get?_applyAll_of_perm (h : desired.Keyed)
    (hbs : bs.Perm ((between desired actual).batches limit)) (k : TupleKey) :
    (Batch.applyAll actual bs).get? k =
      if desired.contains k = true then (actual.get? k).or (desired.get? k) else none := by
  by_cases hdesired : desired.contains k = true
  · rw [if_pos hdesired]
    by_cases hactual : actual.contains k = true
    · obtain ⟨t, ht⟩ := SortedMap.contains_iff.1 hactual
      rw [get?_applyAll_of_kept h hbs hdesired ht, ht, Option.some_or]
    · obtain ⟨t, ht⟩ := SortedMap.contains_iff.1 hdesired
      obtain rfl : t.key = k := h k t ht
      rw [get?_applyAll_of_added h hbs ht hactual, SortedMap.get?_eq_none_iff.2 hactual,
        Option.none_or, ht]
  · rw [if_neg hdesired, get?_applyAll_of_undesired h hbs hdesired]

end AnyOrder

end TupleDiff

end PolicySync
