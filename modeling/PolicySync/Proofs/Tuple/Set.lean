import PolicySync.Proofs.SortedMap
import PolicySync.Tuple.Basic

/-!
# Sets of tuples

A set is `Keyed` when every tuple stands under its own key. Sets made of tuples are, and a keyed set
is what its tuples make, in whatever order it is read (`Keyed.ofTuples_values`). Tuples without
conditions are determined by their keys, and so are the sets that they make
(`get?_insertTuples_of_plain`).
-/

namespace PolicySync

/-- A tuple without a condition. -/
def Tuple.Plain (t : Tuple) : Prop := t.condition = none

/-- A tuple that is made from its three parts has no condition. -/
theorem Tuple.plain_relate (user relation object : String) : (relate user relation object).Plain :=
  rfl

/-- A plain tuple is its key. -/
theorem Tuple.Plain.eq {t : Tuple} (h : t.Plain) : t = { key := t.key } := by
  cases t
  cases h
  rfl

namespace TupleSet

/-- Every tuple stands under its own key. -/
def Keyed (s : TupleSet) : Prop := ∀ k t, s.get? k = some t → t.key = k

/-- The empty set holds no tuple under a wrong key. -/
theorem keyed_empty : Keyed SortedMap.empty := by
  intro k t h
  rw [SortedMap.get?_empty] at h
  cases h

/-- Inserted tuples bring their keys. -/
theorem contains_insertTuples {s : TupleSet} {ts : List Tuple} {k : TupleKey} :
    (insertTuples s ts).contains k = true ↔ s.contains k = true ∨ ∃ t ∈ ts, t.key = k := by
  rw [insertTuples, SortedMap.contains_insertMany]
  simp

/-- A tuple of the set was put in or was there before. -/
theorem mem_of_get?_insertTuples {s : TupleSet} {ts : List Tuple} {k : TupleKey} {t : Tuple}
    (h : (insertTuples s ts).get? k = some t) : (t ∈ ts ∧ t.key = k) ∨ s.get? k = some t := by
  rcases SortedMap.exists_mem_of_get?_insertMany h with hmem | hget
  · obtain ⟨t', ht', heq⟩ := List.mem_map.1 hmem
    obtain ⟨rfl, rfl⟩ := Prod.mk.inj heq
    exact .inl ⟨ht', rfl⟩
  · exact .inr hget

/-- A key that no inserted tuple has keeps its tuple. -/
theorem get?_insertTuples_of_not_mem {s : TupleSet} {ts : List Tuple} {k : TupleKey}
    (h : ∀ t ∈ ts, t.key ≠ k) : (insertTuples s ts).get? k = s.get? k := by
  apply SortedMap.get?_insertMany_of_not_mem
  intro hmem
  obtain ⟨e, he, rfl⟩ := List.mem_map.1 hmem
  obtain ⟨t, ht, rfl⟩ := List.mem_map.1 he
  exact h t ht rfl

/-- A tuple that is put in stands under its key, if no other one with that key is. -/
theorem get?_insertTuples_of_mem {s : TupleSet} {ts : List Tuple} {t : Tuple} (h : t ∈ ts)
    (hone : ∀ t' ∈ ts, t'.key = t.key → t' = t) : (insertTuples s ts).get? t.key = some t := by
  have hin : (t.key, t) ∈ ts.map fun t => (t.key, t) := List.mem_map.2 ⟨t, h, rfl⟩
  apply SortedMap.get?_insertMany_of_mem hin
  intro t' hmem
  obtain ⟨u, hu, heq⟩ := List.mem_map.1 hmem
  obtain ⟨hkey, rfl⟩ := Prod.mk.inj heq
  exact hone u hu hkey

/-- A key takes the last of the tuples with it that are put in. -/
theorem get?_insertTuples (s : TupleSet) (ts : List Tuple) (k : TupleKey) :
    (insertTuples s ts).get? k = ((ts.filter fun t => t.key = k).getLast?).or (s.get? k) := by
  rw [insertTuples, SortedMap.get?_insertMany, List.filter_map, List.getLast?_map, Option.map_map]
  simp [Function.comp_def]

/-- The last tuple with a key is the one that is kept. -/
theorem get?_ofTuples (ts : List Tuple) (k : TupleKey) :
    (ofTuples ts).get? k = (ts.filter fun t => t.key = k).getLast? := by
  rw [ofTuples, get?_insertTuples, SortedMap.get?_empty, Option.or_none]

/-- Tuples may be inserted in two parts. -/
theorem insertTuples_append (s : TupleSet) (ts us : List Tuple) :
    insertTuples s (ts ++ us) = insertTuples (insertTuples s ts) us := by
  rw [insertTuples, List.map_append, SortedMap.insertMany_append]
  rfl

/-- A set made from two lists is made from the first and takes the second. -/
theorem ofTuples_append (ts us : List Tuple) :
    ofTuples (ts ++ us) = insertTuples (ofTuples ts) us :=
  insertTuples_append SortedMap.empty ts us

/-- Inserting files every tuple under its own key. -/
theorem Keyed.insertTuples {s : TupleSet} (h : Keyed s) (ts : List Tuple) :
    Keyed (insertTuples s ts) := by
  intro k t hget
  rcases mem_of_get?_insertTuples hget with ⟨_, hkey⟩ | hget
  · exact hkey
  · exact h k t hget

/-- Erasing files nothing. -/
theorem Keyed.erase {s : TupleSet} (h : Keyed s) (k : TupleKey) : Keyed (s.erase k) := by
  intro k' t hget
  rw [SortedMap.get?_erase] at hget
  split at hget
  · cases hget
  · exact h k' t hget

/-- Nor does erasing several keys. -/
theorem Keyed.foldl_erase {s : TupleSet} (h : Keyed s) (ks : List TupleKey) :
    Keyed (ks.foldl SortedMap.erase s) := by
  induction ks generalizing s with
  | nil => exact h
  | cons k ks ih => exact ih (h.erase k)

/-- A set made from tuples files each under its key. -/
theorem keyed_ofTuples (ts : List Tuple) : Keyed (ofTuples ts) := keyed_empty.insertTuples ts

/-- A tuple of the set is found under its key. -/
theorem Keyed.key_of_mem {s : TupleSet} (h : Keyed s) {t : Tuple} (ht : t ∈ s.values) :
    s.get? t.key = some t := by
  obtain ⟨k, hk⟩ := SortedMap.mem_values.1 ht
  rw [h k t hk]
  exact hk

/-- The entries can be told from the tuples. -/
theorem Keyed.map_values {s : TupleSet} (h : Keyed s) :
    s.values.map (fun t => (t.key, t)) = s.toList := by
  rw [SortedMap.values, List.map_map]
  conv_rhs => rw [← List.map_id s.toList]
  apply List.map_congr_left
  intro e he
  have hkey : e.2.key = e.1 := h e.1 e.2 (SortedMap.get?_eq_some_iff.2 he)
  show (e.2.key, e.2) = e
  rw [hkey]

/-- A keyed set is what its tuples make. -/
theorem Keyed.ofTuples_values {s : TupleSet} (h : Keyed s) : ofTuples s.values = s := by
  rw [ofTuples, TupleSet.insertTuples, h.map_values]
  exact SortedMap.ofList_toList s

/-- The keys of the tuples are the keys of the set, in the same order. -/
theorem Keyed.map_key_values {s : TupleSet} (h : Keyed s) : s.values.map (·.key) = s.keys := by
  rw [SortedMap.keys, ← h.map_values, List.map_map]
  rfl

/-- A part of the set is filed as the set is. -/
theorem Keyed.filter {s : TupleSet} (h : Keyed s) (p : TupleKey → Tuple → Bool) :
    Keyed (s.filter p) :=
  fun k t hget => h k t (SortedMap.get?_filter_eq_some_iff.1 hget).1

/-! ## Sets of unconditional tuples -/

/-- Unconditional tuples that are put in leave no trace of their order or number. -/
theorem get?_insertTuples_of_plain {s : TupleSet} {ts : List Tuple}
    (h : ∀ t ∈ ts, t.Plain) (k : TupleKey) :
    (insertTuples s ts).get? k = if ∃ t ∈ ts, t.key = k then some { key := k } else s.get? k := by
  split
  · next hin =>
    obtain ⟨t, ht, rfl⟩ := hin
    rw [← (h t ht).eq]
    refine get?_insertTuples_of_mem ht fun t' ht' hkey => ?_
    rw [(h t' ht').eq, (h t ht).eq, hkey]
  · next hnot => exact get?_insertTuples_of_not_mem fun t ht hkey => hnot ⟨t, ht, hkey⟩

/-- In a set of unconditional tuples every key has the unconditional tuple. -/
theorem get?_ofTuples_of_plain {ts : List Tuple} (h : ∀ t ∈ ts, t.Plain) (k : TupleKey) :
    (ofTuples ts).get? k = if (ofTuples ts).contains k = true then some { key := k } else none := by
  split
  · next hc =>
    obtain ⟨t, ht⟩ := SortedMap.contains_iff.1 hc
    rcases mem_of_get?_insertTuples ht with ⟨hmem, rfl⟩ | hempty
    · rw [ht, ← (h t hmem).eq]
    · rw [SortedMap.get?_empty] at hempty
      cases hempty
  · next hc => exact SortedMap.get?_eq_none_iff.2 hc

end TupleSet

end PolicySync
