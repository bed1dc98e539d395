import Mathlib.Data.List.Nodup
import PolicySync.SortedMap

/-!
# Reading sorted maps

A sorted map is known by what `get?` returns for each key (`ext_get?`). The lemmas below say what
every operation does to `get?` and to `contains`, so later proofs never look at the list of entries.
-/

namespace PolicySync.SortedMap

open Std (TransOrd LawfulEqOrd)

section Shape

variable {κ : Type u} {α : Type v} [Ord κ]

/-- There are as many keys as entries. -/
theorem length_keys (m : SortedMap κ α) : m.keys.length = m.size := List.length_map _

/-- There are as many values as entries. -/
theorem length_values (m : SortedMap κ α) : m.values.length = m.size := List.length_map _

/-- The keys are strictly increasing. -/
theorem keys_sorted (m : SortedMap κ α) : m.keys.Pairwise fun a b => compare a b = .lt :=
  List.pairwise_map.2 m.sorted

/-- A key is in a map when it has a value. -/
theorem contains_eq_isSome (m : SortedMap κ α) (k : κ) : m.contains k = (m.get? k).isSome := by
  rw [get?, Option.isSome_map, List.isSome_find?]
  rfl

/-- The same with the value named. -/
theorem contains_iff {m : SortedMap κ α} {k : κ} :
    m.contains k = true ↔ ∃ a, m.get? k = some a := by
  rw [contains_eq_isSome, Option.isSome_iff_exists]

/-- What has a value is contained. -/
theorem contains_of_get? {m : SortedMap κ α} {k : κ} {a : α} (h : m.get? k = some a) :
    m.contains k = true :=
  contains_iff.2 ⟨a, h⟩

/-- A key that is not in a map has no value. -/
theorem get?_eq_none_iff {m : SortedMap κ α} {k : κ} :
    m.get? k = none ↔ ¬ m.contains k = true := by
  rw [contains_eq_isSome, Option.not_isSome_iff_eq_none]

@[simp] theorem get?_empty (k : κ) : (empty : SortedMap κ α).get? k = none := rfl

@[simp] theorem contains_empty (k : κ) : (empty : SortedMap κ α).contains k = false := rfl

@[simp] theorem insertMany_nil [TransOrd κ] (m : SortedMap κ α) : m.insertMany [] = m := rfl

@[simp] theorem insertMany_cons [TransOrd κ] (m : SortedMap κ α) (e : κ × α) (es : List (κ × α)) :
    m.insertMany (e :: es) = (m.insert e.1 e.2).insertMany es := rfl

/-- Insertions come one list after the other. -/
theorem insertMany_append [TransOrd κ] (m : SortedMap κ α) (es fs : List (κ × α)) :
    m.insertMany (es ++ fs) = (m.insertMany es).insertMany fs :=
  List.foldl_append

/-- Inserting puts the new entry in the place of those with its key. -/
theorem insertEntry_perm [TransOrd κ] (k : κ) (a : α) {es : List (κ × α)}
    (h : es.Pairwise fun a b => compare a.1 b.1 = .lt) :
    (insertEntry k a es).Perm ((k, a) :: es.filter fun e => compare k e.1 != .eq) := by
  induction es with
  | nil => exact .refl _
  | cons e rest ih =>
    obtain ⟨he, hrest⟩ := List.pairwise_cons.1 h
    simp only [insertEntry]
    split
    · next hlt =>
      -- All entries come after the new one, so none has its key.
      have hall : ∀ x ∈ e :: rest, (compare k x.1 != .eq) = true := by
        intro x hx
        rcases List.mem_cons.1 hx with rfl | hx
        · simp [hlt]
        · simp [Std.TransCmp.lt_trans hlt (he x hx)]
      rw [List.filter_eq_self.2 hall]
    · next heq =>
      have hall : ∀ x ∈ rest, (compare k x.1 != .eq) = true := by
        intro x hx
        simp [Std.TransCmp.lt_of_eq_of_lt heq (he x hx)]
      rw [List.filter_cons_of_neg (by simp [heq]), List.filter_eq_self.2 hall]
    · next hgt =>
      rw [List.filter_cons_of_pos (by simp [hgt])]
      exact ((ih hrest).cons e).trans (.swap ..)

end Shape

/-! ## Entries -/

section Reading

variable {κ : Type u} {α : Type v} [Ord κ] [LawfulEqOrd κ]

/-- An entry with another key compares unequal. -/
private theorem compare_bne_eq_iff {k k' : κ} : (compare k k' != .eq) = true ↔ k' ≠ k := by
  rw [bne_iff_ne, ne_eq, ne_eq, LawfulEqOrd.compare_eq_iff_eq, eq_comm]

/-- No key comes before itself. -/
private theorem not_lt_self (k : κ) : ¬ compare k k = .lt := by
  intro hlt
  have heq : compare k k = .eq := Std.ReflCmp.compare_self
  rw [heq] at hlt
  cases hlt

/-- A list in strictly increasing order repeats nothing. -/
theorem nodup_of_sorted {xs : List κ} (h : xs.Pairwise fun a b => compare a b = .lt) :
    xs.Nodup := by
  refine h.imp ?_
  intro a b hlt heq
  exact not_lt_self b (heq ▸ hlt)

/-- No key has two entries. -/
theorem nodup_keys (m : SortedMap κ α) : m.keys.Nodup := nodup_of_sorted m.keys_sorted

/-- Two entries with one key are the same. -/
theorem eq_of_mem_toList {m : SortedMap κ α} {k : κ} {a b : α} (ha : (k, a) ∈ m.toList)
    (hb : (k, b) ∈ m.toList) : a = b := by
  have := List.inj_on_of_nodup_map m.nodup_keys ha hb rfl
  exact congrArg (·.2) this

/-! ## `get?` and `contains` -/

/-- A key has a value exactly when the two are an entry. -/
theorem get?_eq_some_iff {m : SortedMap κ α} {k : κ} {a : α} :
    m.get? k = some a ↔ (k, a) ∈ m.toList := by
  constructor
  · intro h
    obtain ⟨e, he, rfl⟩ := Option.map_eq_some_iff.1 h
    have hk : k = e.1 := LawfulEqOrd.eq_of_compare (by simpa using List.find?_some he)
    exact hk ▸ List.mem_of_find?_eq_some he
  · intro h
    have hsome : (m.toList.find? fun e => compare k e.1 == .eq).isSome := by
      rw [List.find?_isSome]
      exact ⟨(k, a), h, by simp⟩
    obtain ⟨e, he⟩ := Option.isSome_iff_exists.1 hsome
    have hk : k = e.1 := LawfulEqOrd.eq_of_compare (by simpa using List.find?_some he)
    have hmem : (k, e.2) ∈ m.toList := hk ▸ List.mem_of_find?_eq_some he
    rw [get?, he, eq_of_mem_toList h hmem]
    rfl

/-- The keys are those that the map contains. -/
@[simp] theorem mem_keys {m : SortedMap κ α} {k : κ} : k ∈ m.keys ↔ m.contains k = true := by
  rw [contains_iff, keys, List.mem_map]
  constructor
  · rintro ⟨e, he, rfl⟩
    exact ⟨e.2, get?_eq_some_iff.2 he⟩
  · rintro ⟨a, ha⟩
    exact ⟨(k, a), get?_eq_some_iff.1 ha, rfl⟩

/-- The values are those of some key. -/
theorem mem_values {m : SortedMap κ α} {a : α} : a ∈ m.values ↔ ∃ k, m.get? k = some a := by
  rw [values, List.mem_map]
  constructor
  · rintro ⟨e, he, rfl⟩
    exact ⟨e.1, get?_eq_some_iff.2 he⟩
  · rintro ⟨k, ha⟩
    exact ⟨(k, a), get?_eq_some_iff.1 ha, rfl⟩

end Reading

variable {κ : Type u} {α : Type v} [Ord κ] [TransOrd κ] [LawfulEqOrd κ]

/-- Of two keys one at most comes before the other. -/
private theorem not_lt_of_lt {k k' : κ} (h : compare k k' = .lt) : ¬ compare k' k = .lt :=
  fun h' => not_lt_self k (Std.TransCmp.lt_trans h h')

/-- A list in strictly increasing order is determined by its members. -/
theorem eq_of_sorted {xs ys : List κ} (hxs : xs.Pairwise fun a b => compare a b = .lt)
    (hys : ys.Pairwise fun a b => compare a b = .lt) (h : ∀ a, a ∈ xs ↔ a ∈ ys) : xs = ys := by
  have hperm := (List.perm_ext_iff_of_nodup (nodup_of_sorted hxs) (nodup_of_sorted hys)).2 h
  exact hperm.eq_of_pairwise (fun a b _ _ hab hba => absurd hba (not_lt_of_lt hab)) hxs hys

/-- Maps that return the same for every key are equal. -/
theorem ext_get? {m n : SortedMap κ α} (h : ∀ k, m.get? k = n.get? k) : m = n := by
  have hperm := (List.perm_ext_iff_of_nodup (m.nodup_keys.of_map _) (n.nodup_keys.of_map _)).2
    fun e : κ × α => by rw [← get?_eq_some_iff, ← get?_eq_some_iff, h]
  exact ext (hperm.eq_of_pairwise (fun a b _ _ hab hba => absurd hba (not_lt_of_lt hab))
    m.sorted n.sorted)

/-! ## What the operations do -/

/-- An insertion puts in its entry and drops the one that had the key. -/
theorem mem_toList_insert {m : SortedMap κ α} {k : κ} {a : α} {e : κ × α} :
    e ∈ (m.insert k a).toList ↔ e = (k, a) ∨ e ∈ m.toList ∧ e.1 ≠ k := by
  rw [insert, (insertEntry_perm k a m.sorted).mem_iff, List.mem_cons, List.mem_filter,
    compare_bne_eq_iff]

/-- The key of an insertion has its value. -/
theorem get?_insert_self (m : SortedMap κ α) (k : κ) (a : α) : (m.insert k a).get? k = some a :=
  get?_eq_some_iff.2 (mem_toList_insert.2 (.inl rfl))

/-- Another key keeps what it had. -/
theorem get?_insert_of_ne (m : SortedMap κ α) {k k' : κ} (a : α) (h : k' ≠ k) :
    (m.insert k a).get? k' = m.get? k' := by
  ext b
  rw [get?_eq_some_iff, get?_eq_some_iff, mem_toList_insert]
  simp [h]

/-- Both cases at once. -/
theorem get?_insert [DecidableEq κ] (m : SortedMap κ α) (k k' : κ) (a : α) :
    (m.insert k a).get? k' = if k' = k then some a else m.get? k' := by
  split
  · next h => rw [h, get?_insert_self]
  · next h => exact get?_insert_of_ne m a h

/-- An insertion adds its key. -/
theorem contains_insert {m : SortedMap κ α} {k k' : κ} {a : α} :
    (m.insert k a).contains k' = true ↔ k' = k ∨ m.contains k' = true := by
  classical
  rw [contains_eq_isSome, contains_eq_isSome, get?_insert]
  split
  · next h => simp [h]
  · next h => simp [h]

/-- A new key makes the map larger by one. -/
theorem size_insert_of_not_contains {m : SortedMap κ α} {k : κ} {a : α}
    (h : ¬ m.contains k = true) : (m.insert k a).size = m.size + 1 := by
  have hall : ∀ e ∈ m.toList, (compare k e.1 != .eq) = true := by
    intro e he
    rw [compare_bne_eq_iff]
    rintro rfl
    exact h (contains_of_get? (get?_eq_some_iff.2 he))
  rw [size, insert, (insertEntry_perm k a m.sorted).length_eq, List.filter_eq_self.2 hall]
  rfl

omit [TransOrd κ] in
/-- An erased key has no value, and the others keep theirs. -/
theorem get?_erase [DecidableEq κ] (m : SortedMap κ α) (k k' : κ) :
    (m.erase k).get? k' = if k' = k then none else m.get? k' := by
  ext b
  rw [get?_eq_some_iff, erase, List.mem_filter, compare_bne_eq_iff]
  split
  · next h => simp [h]
  · next h => simp [h, get?_eq_some_iff]

omit [TransOrd κ] in
/-- A filter keeps the entries that pass it. -/
theorem get?_filter_eq_some_iff {m : SortedMap κ α} {p : κ → α → Bool} {k : κ} {a : α} :
    (m.filter p).get? k = some a ↔ m.get? k = some a ∧ p k a = true := by
  rw [get?_eq_some_iff, get?_eq_some_iff, filter, List.mem_filter]

/-! ## Several insertions -/

/-- Insertions add the keys that are listed. -/
theorem contains_insertMany {m : SortedMap κ α} {es : List (κ × α)} {k : κ} :
    (m.insertMany es).contains k = true ↔ m.contains k = true ∨ k ∈ es.map (·.1) := by
  induction es generalizing m with
  | nil => simp
  | cons e es ih =>
    rw [insertMany_cons, ih, contains_insert, List.map_cons, List.mem_cons, or_assoc, or_left_comm]

/-- A key takes the last of the values listed for it, and without one it keeps what it had. -/
theorem get?_insertMany [DecidableEq κ] (m : SortedMap κ α) (es : List (κ × α)) (k : κ) :
    (m.insertMany es).get? k =
      ((es.filter fun e => e.1 = k).getLast?.map (·.2)).or (m.get? k) := by
  induction es generalizing m with
  | nil => rfl
  | cons e es ih =>
    rw [insertMany_cons, ih, get?_insert]
    by_cases hk : e.1 = k
    · rw [if_pos hk.symm, List.filter_cons_of_pos (by simpa using hk), List.getLast?_cons]
      cases (es.filter fun e => e.1 = k).getLast? <;> rfl
    · rw [if_neg (Ne.symm hk), List.filter_cons_of_neg (by simpa using hk)]

/-- Keys that are not listed keep what they had. -/
theorem get?_insertMany_of_not_mem {m : SortedMap κ α} {es : List (κ × α)} {k : κ}
    (h : k ∉ es.map (·.1)) : (m.insertMany es).get? k = m.get? k := by
  classical
  have hnone : es.filter (fun e => e.1 = k) = [] := by
    refine List.filter_eq_nil_iff.2 fun e he hk => h ?_
    exact List.mem_map.2 ⟨e, he, by simpa using hk⟩
  rw [get?_insertMany, hnone]
  rfl

/-- A listed key takes one of the values listed for it. -/
theorem exists_mem_of_get?_insertMany {m : SortedMap κ α} {es : List (κ × α)} {k : κ} {a : α}
    (h : (m.insertMany es).get? k = some a) : (k, a) ∈ es ∨ m.get? k = some a := by
  classical
  rw [get?_insertMany, Option.or_eq_some_iff] at h
  refine h.imp (fun hlast => ?_) (·.2)
  obtain ⟨e, he, rfl⟩ := Option.map_eq_some_iff.1 hlast
  obtain ⟨hmem, hk⟩ := List.mem_filter.1 (List.mem_of_getLast? he)
  obtain rfl : e.1 = k := by simpa using hk
  exact hmem

/-- A listed key takes its value when only one is listed for it. -/
theorem get?_insertMany_of_mem {m : SortedMap κ α} {es : List (κ × α)} {k : κ} {a : α}
    (h : (k, a) ∈ es) (hone : ∀ b, (k, b) ∈ es → b = a) : (m.insertMany es).get? k = some a := by
  classical
  have hin : (k, a) ∈ es.filter fun e => e.1 = k := List.mem_filter.2 ⟨h, by simp⟩
  rw [get?_insertMany]
  cases hlast : (es.filter fun e => e.1 = k).getLast? with
  | none =>
    rw [List.getLast?_eq_none_iff.1 hlast] at hin
    cases hin
  | some e =>
    obtain ⟨hmem, hk⟩ := List.mem_filter.1 (List.mem_of_getLast? hlast)
    obtain rfl : e.1 = k := by simpa using hk
    rw [Option.map_some, Option.some_or, hone e.2 hmem]

/-- A map is what its entries make. -/
theorem ofList_toList (m : SortedMap κ α) : ofList m.toList = m := by
  refine ext_get? fun k => ?_
  rw [ofList]
  by_cases hk : k ∈ m.toList.map (·.1)
  · obtain ⟨e, he, rfl⟩ := List.mem_map.1 hk
    rw [get?_insertMany_of_mem he fun b hb => eq_of_mem_toList hb he, get?_eq_some_iff.2 he]
  · rw [get?_insertMany_of_not_mem hk, get?_empty, eq_comm, get?_eq_none_iff, ← mem_keys]
    exact hk

/-- The keys of a map made from a list are those that are listed. -/
theorem contains_ofList {es : List (κ × α)} {k : κ} :
    (ofList es).contains k = true ↔ k ∈ es.map (·.1) := by
  rw [ofList, contains_insertMany]
  simp

/-- Maps that have values for the same keys list the same keys. -/
theorem keys_eq_of_contains {β : Type w} {m : SortedMap κ α} {n : SortedMap κ β}
    (h : ∀ k, m.contains k = true ↔ n.contains k = true) : m.keys = n.keys := by
  apply eq_of_sorted m.keys_sorted n.keys_sorted
  intro k
  rw [mem_keys, mem_keys]
  exact h k

/-! ## Texts as keys -/

/-- Texts are compared by their code points. -/
theorem compare_eq_lt_iff {s t : String} : compare s t = .lt ↔ s < t :=
  compareOfLessAndEq_eq_lt

/-- Keys that are texts come in the order of texts. -/
theorem keys_sorted_lt (m : SortedMap String α) : m.keys.Pairwise (· < ·) :=
  m.keys_sorted.imp compare_eq_lt_iff.1

end PolicySync.SortedMap
